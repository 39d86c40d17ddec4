import TileServer.Server.Loop

namespace TileServer

structure Device where
  events : List DeviceEvent := []
  watched : Bool := true
  signalled : Bool := false
  deriving Repr

namespace Device

def bring (device : Device) (events : List DeviceEvent) : Device :=
  { device with events := device.events ++ events, signalled := true }

def wakes (device : Device) : Bool := device.watched && device.signalled

def drained (device : Device) : Device :=
  { device with events := [], signalled := false }

end Device

end TileServer
