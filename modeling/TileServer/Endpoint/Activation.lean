import TileServer.Endpoint.Listener
import TileServer.Os.Environment
import TileServer.Text.Blank
import TileServer.Text.Numeral
import TileServer.Text.Quoted

namespace TileServer.Activation

def pidVariable : String := "LISTEN_PID"

def countVariable : String := "LISTEN_FDS"

def namesVariable : String := "LISTEN_FDNAMES"

def maxPid : Nat := 4294967295

def maxCount : Nat := 18446744073709551615

def firstDescriptor : Int32 := 3

/-- The largest count whose descriptors all have numbers. -/
def maxDescriptors : Nat := 2147483644

inductive Fault
  | pid (text : String) (reason : Numeral.Fault)
  | count (text : String) (reason : Numeral.Fault)
  | outOfRange (count : Nat)
  deriving Repr, DecidableEq

def Fault.message : Fault → String
  | .pid text reason => "Invalid LISTEN_PID: " ++ Text.quoted text ++ ": " ++ reason.message
  | .count text reason => "Invalid LISTEN_FDS: " ++ Text.quoted text ++ ": " ++ reason.message
  | .outOfRange number => "LISTEN_FDS out of range: " ++ toString number

def number (bound : Nat) (text : String) : Except Numeral.Fault Nat :=
  Numeral.natural bound (Text.trim text.toList)

/-- How many descriptors were passed to the process `ourPid`. What was passed to another process is
not looked at further. -/
def passed (pid fds : Option String) (ourPid : Nat) : Except Fault Nat :=
  match pid, fds with
  | some pid, some fds => match number maxPid pid with
    | .error reason => .error (.pid pid reason)
    | .ok meant =>
      if meant ≠ ourPid then .ok 0
      else match number maxCount fds with
        | .error reason => .error (.count fds reason)
        | .ok count => if maxDescriptors < count then .error (.outOfRange count) else .ok count
  | _, _ => .ok 0

def descriptors (count : Nat) : List Int32 :=
  (List.range count).map (fun offset => firstDescriptor + Int32.ofNat offset)

inductive Descriptor
  | listening (socket : Nat)
  | other
  | closed
  deriving Repr, DecidableEq

structure Adopted where
  descriptor : Int32
  listener : Listener
  closesOnExec : Bool
  deriving Repr, DecidableEq

def adopt? (descriptor : Int32) : Descriptor → Option Adopted
  | .listening socket => some ⟨descriptor, ⟨socket, .inherited⟩, false⟩
  | .other => none
  | .closed => none

def strip (environment : Environment) : Environment :=
  ((environment.unset pidVariable).unset countVariable).unset namesVariable

/-- Takes over the passed sockets. The variables are removed, so that no other program sees them. -/
def inherit (environment : Environment) (ourPid : Nat) (table : Int32 → Descriptor) :
    Environment × List Adopted :=
  let adopted := match passed (environment.get? pidVariable) (environment.get? countVariable) ourPid with
    | .error _ => []
    | .ok count => (descriptors count).filterMap (fun fd => adopt? fd (table fd))
  (strip environment, adopted)

end TileServer.Activation
