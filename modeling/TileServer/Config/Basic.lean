import TileServer.Config.Keyword
import TileServer.Text.StringMap

namespace TileServer

structure GlobalConfig where
  logLevel : LogLevel := .info
  socketPath : Option String := none
  maxMessageSize : Nat := 64 * 1024 * 1024
  maxClientBacklog : Nat := 16 * 1024 * 1024
  deriving Repr, DecidableEq

structure OutputConfig where
  name : String
  x : Int32 := 0
  y : Int32 := 0
  width : UInt32 := 1920
  height : UInt32 := 1080
  primary : Bool := false
  deriving Repr, DecidableEq

structure WorkspaceConfig where
  name : String
  output : Option String := none
  deriving Repr, DecidableEq

structure BarConfig where
  id : String
  outputs : List String := []
  trayOutput : Option String := none
  socketPath : Option String := none
  mode : BarMode := .dock
  hiddenState : HiddenState := .hide
  modifier : Modifier := .mod4
  position : BarPosition := .bottom
  statusCommand : Option String := none
  font : Option String := none
  workspaceButtons : Bool := true
  bindingModeIndicator : Bool := true
  verbose : Bool := false
  colors : StringMap := .empty
  deriving Repr, DecidableEq

structure Config where
  global : GlobalConfig := {}
  outputs : List OutputConfig := []
  workspaces : List WorkspaceConfig := []
  bars : List BarConfig := []
  deriving Repr, DecidableEq

def barColorKeys : List String :=
  ["background", "statusline", "separator", "focused_workspace_border", "focused_workspace_bg",
    "focused_workspace_text", "active_workspace_border", "active_workspace_bg",
    "active_workspace_text", "inactive_workspace_border", "inactive_workspace_bg",
    "inactive_workspace_text", "urgent_workspace_border", "urgent_workspace_bg",
    "urgent_workspace_text"]

def Config.bar? (config : Config) (id : String) : Option BarConfig :=
  config.bars.find? (fun bar => bar.id == id)

end TileServer
