import TileServer.Text.Caseless

namespace TileServer.Wire

inductive RequestKind
  | runCommand
  | getWorkspaces
  | subscribe
  | getOutputs
  | getTree
  | getMarks
  | getBarConfig
  | getVersion
  deriving Repr, DecidableEq

namespace RequestKind

def all : List RequestKind :=
  [runCommand, getWorkspaces, subscribe, getOutputs, getTree, getMarks, getBarConfig, getVersion]

def code : RequestKind → UInt32
  | runCommand => 0
  | getWorkspaces => 1
  | subscribe => 2
  | getOutputs => 3
  | getTree => 4
  | getMarks => 5
  | getBarConfig => 6
  | getVersion => 7

def name : RequestKind → String
  | runCommand => "command"
  | getWorkspaces => "get_workspaces"
  | subscribe => "subscribe"
  | getOutputs => "get_outputs"
  | getTree => "get_tree"
  | getMarks => "get_marks"
  | getBarConfig => "get_bar_config"
  | getVersion => "get_version"

def ofCode? (code : UInt32) : Option RequestKind :=
  all.find? (fun kind => kind.code == code)

/-- Reads a name in any letter case; `run_command` is a second name of `command`. -/
def ofName? (text : String) : Option RequestKind :=
  if Text.spells "run_command".toList text.toList then some runCommand
  else all.find? (fun kind => Text.spells kind.name.toList text.toList)

end RequestKind

def unknownKind (name : String) : String :=
  "Unknown message type: " ++ name

def eventMask : UInt32 := 0x80000000

def genericEventCode : UInt32 := 0xffffffff

inductive EventKind
  | workspace
  | output
  | mode
  | window
  | barConfigUpdate
  deriving Repr, DecidableEq

namespace EventKind

def all : List EventKind := [workspace, output, mode, window, barConfigUpdate]

def code : EventKind → UInt32
  | workspace => 0x80000000
  | output => 0x80000001
  | mode => 0x80000002
  | window => 0x80000003
  | barConfigUpdate => 0x80000004

def name : EventKind → String
  | workspace => "workspace"
  | output => "output"
  | mode => "mode"
  | window => "window"
  | barConfigUpdate => "barconfig_update"

def ofName? (text : String) : Option EventKind :=
  all.find? (fun kind => Text.sameFolded kind.name text)

def ofCode? (code : UInt32) : Option EventKind :=
  all.find? (fun kind => kind.code == code)

end EventKind

def eventCode (name : String) : UInt32 :=
  match EventKind.ofName? name with
  | some kind => kind.code
  | none => genericEventCode

def isEvent (code : UInt32) : Bool :=
  code &&& eventMask != 0

end TileServer.Wire
