import TileServer.Layout.Change
import TileServer.Reply.Format

namespace TileServer

open Json

def WorkspaceRef.ofJson? (json : Json) : Option WorkspaceRef :=
  match slots? ["name", "num", "output"] 0 json with
  | some [name, num, output] => do
    return {
      name := ← required? asString? name
      num := ← optional? asInt32? num
      output := ← required? asString? output }
  | _ => none

namespace Change

def ofWorkspaceJson? (json : Json) : Option Change :=
  match slots? ["change", "current", "old"] 0 json with
  | some [some (.str "init"), current, _] =>
    (required? WorkspaceRef.ofJson? current).map opened
  | some [some (.str "focus"), current, old] => do
    return focused (← required? WorkspaceRef.ofJson? current) (← optional? WorkspaceRef.ofJson? old)
  | _ => none

def ofJson? (event : String) (json : Json) : Option Change :=
  if event = "workspace" then ofWorkspaceJson? json
  else if event = "mode" then
    match slots? ["change"] 0 json with
    | some [change] => (required? asString? change).map mode
    | _ => none
  else none

end Change

def WorkspaceReply.ref (reply : WorkspaceReply) : WorkspaceRef :=
  ⟨reply.name, reply.num, reply.output⟩

/-- What an observer was answered about the outputs, and the workspaces as far as it knows. -/
structure Mirror where
  outputs : List OutputReply
  workspaces : List WorkspaceReply
  deriving Repr, DecidableEq

namespace Mirror

def rectOf (mirror : Mirror) (output : String) : Rect :=
  match mirror.outputs.find? (fun reply => reply.name == output) with
  | some reply => reply.rect
  | none => ⟨0, 0, 0, 0⟩

def add (mirror : Mirror) (current : WorkspaceRef) : Mirror :=
  let entry : WorkspaceReply :=
    { num := current.num, name := current.name, visible := false, focused := false,
      rect := mirror.rectOf current.output, output := current.output, urgent := false }
  { mirror with workspaces := mirror.workspaces ++ [entry] }

def focus (mirror : Mirror) (current : WorkspaceRef) : Mirror :=
  let place := mirror.workspaces.findIdx? (fun entry => entry.name == current.name)
  { mirror with workspaces := mirror.workspaces.mapIdx (fun index entry =>
      { entry with
        focused := place == some index
        visible := if entry.output = current.output then place == some index else entry.visible }) }

def follow (mirror : Mirror) : Change → Mirror
  | .opened current => mirror.add current
  | .focused current _ => mirror.focus current
  | .mode _ => mirror

def hear (mirror : Mirror) (event : String) (payload : Json) : Mirror :=
  match Change.ofJson? event payload with
  | some change => mirror.follow change
  | none => mirror

def replay (mirror : Mirror) (changes : List Change) : Mirror :=
  changes.foldl (fun mirror change => mirror.hear change.event change.toJson) mirror

end Mirror

end TileServer
