import TileServer.Config.Basic
import TileServer.Reply.Basic
import TileServer.Text.Numeral

namespace TileServer

/-- A physical output. `current` is the place of the workspace that it shows. -/
structure Output where
  name : String
  rect : Rect
  primary : Bool
  current : Option Nat
  deriving Repr, DecidableEq

/-- A workspace. `output` is the place of the output that it is on. -/
structure Workspace where
  name : String
  output : Nat
  urgent : Bool
  deriving Repr, DecidableEq

def maxWorkspaceNumber : Nat := 2147483647

def workspaceNumber? (name : String) : Option Nat :=
  match Numeral.natural maxWorkspaceNumber (name.toList.takeWhile Char.isDigit) with
  | .ok number => some number
  | .error _ => none

def Workspace.number? (workspace : Workspace) : Option Nat :=
  workspaceNumber? workspace.name

def Workspace.num? (workspace : Workspace) : Option Int32 :=
  workspace.number?.map Int32.ofNat

structure Layout where
  outputs : List Output
  workspaces : List Workspace
  focused : Option Nat
  marks : List String
  mode : String
  bars : List BarConfig
  renders : Nat
  deriving Repr, DecidableEq

namespace Layout

def focusedWorkspace? (layout : Layout) : Option Workspace :=
  layout.focused.bind (fun index => layout.workspaces[index]?)

def focusedOutput (layout : Layout) : Nat :=
  match layout.focusedWorkspace? with
  | some workspace => workspace.output
  | none => 0

def outputName (layout : Layout) (index : Nat) : String :=
  match layout.outputs[index]? with
  | some output => output.name
  | none => ""

def render (layout : Layout) : Layout :=
  { layout with renders := layout.renders + 1 }

end Layout

end TileServer
