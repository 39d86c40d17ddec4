import TileServer.Json.Record
import TileServer.Layout.Basic

namespace TileServer

structure WorkspaceRef where
  name : String
  num : Option Int32
  output : String
  deriving Repr, DecidableEq

inductive Change
  | opened (current : WorkspaceRef)
  | focused (current : WorkspaceRef) (old : Option WorkspaceRef)
  | mode (name : String)
  deriving Repr, DecidableEq

def Layout.ref (layout : Layout) (workspace : Workspace) : WorkspaceRef :=
  ⟨workspace.name, workspace.num?, layout.outputName workspace.output⟩

def WorkspaceRef.toJson (ref : WorkspaceRef) : Json :=
  .obj [("name", .str ref.name), ("num", Json.orNull Json.ofInt32 ref.num),
    ("output", .str ref.output)]

namespace Change

def event : Change → String
  | opened _ => "workspace"
  | focused _ _ => "workspace"
  | mode _ => "mode"

def toJson : Change → Json
  | opened current => .obj [("change", .str "init"), ("current", current.toJson)]
  | focused current old =>
    .obj [("change", .str "focus"), ("current", current.toJson),
      ("old", Json.orNull WorkspaceRef.toJson old)]
  | mode name => .obj [("change", .str name)]

end Change

end TileServer
