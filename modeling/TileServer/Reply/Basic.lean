import TileServer.Text.StringMap

namespace TileServer

structure Rect where
  x : Int32
  y : Int32
  width : UInt32
  height : UInt32
  deriving Repr, DecidableEq

structure WorkspaceReply where
  num : Option Int32
  name : String
  visible : Bool
  focused : Bool
  rect : Rect
  output : String
  urgent : Bool
  deriving Repr, DecidableEq

structure OutputReply where
  name : String
  active : Bool
  primary : Bool
  rect : Rect
  currentWorkspace : Option String
  deriving Repr, DecidableEq

structure VersionReply where
  major : UInt32
  minor : UInt32
  patch : UInt32
  humanReadable : String
  deriving Repr, DecidableEq

structure SuccessReply where
  success : Bool
  deriving Repr, DecidableEq

structure CommandReply where
  success : Bool
  error : Option String
  deriving Repr, DecidableEq

structure BarReply where
  id : String
  outputs : List String
  trayOutput : Option String
  socketPath : Option String
  mode : String
  hiddenState : String
  modifier : String
  position : String
  statusCommand : Option String
  font : Option String
  workspaceButtons : Bool
  bindingModeIndicator : Bool
  verbose : Bool
  colors : StringMap
  deriving Repr, DecidableEq

end TileServer
