import TileServer.Layout.Basic

namespace TileServer.Layout

def onlyOutput : Output :=
  ⟨"headless-0", ⟨0, 0, 1920, 1080⟩, true, none⟩

def defaultMode : String := "default"

def outputOf (output : OutputConfig) : Output :=
  ⟨output.name, ⟨output.x, output.y, output.width, output.height⟩, output.primary, none⟩

def outputsOf (outputs : List OutputConfig) : List Output :=
  match outputs with
  | [] => [onlyOutput]
  | _ => outputs.map outputOf

/-- A workspace on the first output of the name that it is assigned to; without one, on the first. -/
def place (outputs : List Output) (workspace : WorkspaceConfig) : Workspace :=
  let index := workspace.output.bind (fun name =>
    outputs.findIdx? (fun output => output.name == name))
  ⟨workspace.name, index.getD 0, false⟩

/-- The least positive number that no workspace has. Of the numbers up to one more than there are
workspaces, one is free. These are natural numbers, where a counter of 32 bits that is stepped before it
is used wraps around if all positive ones of 32 bits but the last are taken; that is where the two part. -/
def nextFreeNumber (workspaces : List Workspace) : Nat :=
  let taken := workspaces.filterMap Workspace.number?
  let free := (List.range' 1 (workspaces.length + 1)).find? (fun number => !taken.contains number)
  free.getD 1

/-- Gives each output from the place `index` on the first workspace that is on it, or a new one. -/
def fill (index : Nat) (workspaces : List Workspace) : List Output → List Output × List Workspace
  | [] => ([], workspaces)
  | output :: rest =>
    match workspaces.findIdx? (fun workspace => workspace.output == index) with
    | some current =>
      let (outputs, workspaces) := fill (index + 1) workspaces rest
      ({ output with current := some current } :: outputs, workspaces)
    | none =>
      let added := ⟨toString (nextFreeNumber workspaces), index, false⟩
      let (outputs, all) := fill (index + 1) (workspaces ++ [added]) rest
      ({ output with current := some workspaces.length } :: outputs, all)

def firstFocus (outputs : List Output) : Option Nat :=
  (outputs[(outputs.findIdx? Output.primary).getD 0]?).bind Output.current

def ofConfig (config : Config) : Layout :=
  let outputs := outputsOf config.outputs
  let (outputs, workspaces) := fill 0 (config.workspaces.map (place outputs)) outputs
  { outputs, workspaces, focused := firstFocus outputs, marks := [], mode := defaultMode,
    bars := config.bars, renders := 0 }

end TileServer.Layout
