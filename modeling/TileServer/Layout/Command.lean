import TileServer.Layout.Change
import TileServer.Text.Blank
import TileServer.Text.Caseless

namespace TileServer

inductive Command
  | workspace (name : String)
  | mark (name : String)
  | unmark (name : Option String)
  | mode (name : String)
  | nop
  deriving Repr, DecidableEq

inductive CommandError
  | missingName (verb : String)
  | unknown (verb : String)
  | empty
  deriving Repr, DecidableEq

def CommandError.message : CommandError → String
  | .missingName verb => verb ++ ": missing name"
  | .unknown verb => "Unknown command: " ++ verb
  | .empty => "Empty command"

namespace Command

def named (verb : String) (make : String → Command) : List (List Char) → Except CommandError Command
  | [] => .error (.missingName verb)
  | words => .ok (make (String.ofList (Text.joined words)))

def read (text : List Char) : Except CommandError Command :=
  match Text.words text with
  | [] => .error .empty
  | verb :: rest =>
    if Text.spells "workspace".toList verb then named "workspace" workspace rest
    else if Text.spells "mark".toList verb then named "mark" mark rest
    else if Text.spells "unmark".toList verb then
      match rest with
      | [] => .ok (unmark none)
      | words => .ok (unmark (some (String.ofList (Text.joined words))))
    else if Text.spells "mode".toList verb then named "mode" mode rest
    else if Text.spells "nop".toList verb then .ok nop
    else .error (.unknown (String.ofList verb))

def isSeparator (c : Char) : Bool := c == ';' || c == ','

def parts (text : List Char) : List (List Char) :=
  ((Text.pieces isSeparator text).map Text.trim).filter (fun part => !part.isEmpty)

end Command

def CommandReply.ok : CommandReply := ⟨true, none⟩

def CommandReply.failed (error : CommandError) : CommandReply := ⟨false, some error.message⟩

namespace Layout

def focusOn (layout : Layout) (index : Nat) (workspace : Workspace) : Layout :=
  { layout with
    focused := some index
    outputs := layout.outputs.modify workspace.output (fun output =>
      { output with current := some index })
    workspaces := layout.workspaces.modify index (fun workspace =>
      { workspace with urgent := false }) }

structure Effect where
  layout : Layout
  /-- Whether the focus moved, so that the layout has to be put on the screen. -/
  moved : Bool
  changes : List Change
  deriving Repr, DecidableEq

def focusAt (layout : Layout) (index : Nat) (changes : List Change) : Effect :=
  if layout.focused = some index then ⟨layout, false, changes⟩
  else match layout.workspaces[index]? with
    | none => ⟨layout, false, changes⟩
    | some workspace =>
      let old := layout.focusedWorkspace?.map layout.ref
      ⟨layout.focusOn index workspace, true,
        changes ++ [.focused (layout.ref workspace) old]⟩

/-- Moves the focus to the first workspace of a name; if there is none it is opened on the output
with the focus. -/
def focusNamed (layout : Layout) (name : String) : Effect :=
  match layout.workspaces.findIdx? (fun workspace => workspace.name == name) with
  | some index => layout.focusAt index []
  | none =>
    let workspace : Workspace := ⟨name, layout.focusedOutput, false⟩
    { layout with workspaces := layout.workspaces ++ [workspace] }.focusAt
      layout.workspaces.length [.opened (layout.ref workspace)]

def apply (layout : Layout) : Command → Effect
  | .workspace name => layout.focusNamed name
  | .mark name =>
    ⟨if layout.marks.contains name then layout
      else { layout with marks := layout.marks ++ [name] }, false, []⟩
  | .unmark none => ⟨{ layout with marks := [] }, false, []⟩
  | .unmark (some name) =>
    ⟨{ layout with marks := layout.marks.filter (fun mark => mark != name) }, false, []⟩
  | .mode name => ⟨{ layout with mode := name }, false, [.mode name]⟩
  | .nop => ⟨layout, false, []⟩

/-- What running a command text comes to: one result for each of its commands. -/
structure Outcome where
  layout : Layout
  results : List CommandReply
  needsRender : Bool
  changes : List Change
  deriving Repr, DecidableEq

/-- Runs commands one after another. One that cannot be read changes nothing and stops nothing. -/
def runParts (layout : Layout) : List (List Char) → Outcome
  | [] => ⟨layout, [], false, []⟩
  | part :: rest => match Command.read part with
    | .error error =>
      let later := layout.runParts rest
      { later with results := .failed error :: later.results }
    | .ok command =>
      let effect := layout.apply command
      let later := effect.layout.runParts rest
      ⟨later.layout, .ok :: later.results, effect.moved || later.needsRender,
        effect.changes ++ later.changes⟩

def run (layout : Layout) (text : List Char) : Outcome :=
  layout.runParts (Command.parts text)

end Layout

end TileServer
