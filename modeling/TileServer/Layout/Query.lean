import TileServer.Json.Record
import TileServer.Layout.Basic
import TileServer.Reply.Format

namespace TileServer

namespace Layout

def outputRect (layout : Layout) (index : Nat) : Rect :=
  match layout.outputs[index]? with
  | some output => output.rect
  | none => ⟨0, 0, 0, 0⟩

def shows (layout : Layout) (output index : Nat) : Bool :=
  (layout.outputs[output]?).bind Output.current == some index

def workspaceReply (layout : Layout) (index : Nat) (workspace : Workspace) : WorkspaceReply where
  num := workspace.num?
  name := workspace.name
  visible := layout.shows workspace.output index
  focused := layout.focused == some index
  rect := layout.outputRect workspace.output
  output := layout.outputName workspace.output
  urgent := workspace.urgent

def workspaceReplies (layout : Layout) : List WorkspaceReply :=
  layout.workspaces.zipIdx.map (fun entry => layout.workspaceReply entry.2 entry.1)

def outputReply (layout : Layout) (output : Output) : OutputReply where
  name := output.name
  active := true
  primary := output.primary
  rect := output.rect
  currentWorkspace :=
    output.current.bind (fun index => (layout.workspaces[index]?).map Workspace.name)

def outputReplies (layout : Layout) : List OutputReply :=
  layout.outputs.map layout.outputReply

end Layout

structure WorkspaceNode where
  id : Nat
  name : String
  num : Option Int32
  rect : Rect
  focused : Bool
  urgent : Bool
  deriving Repr, DecidableEq

structure OutputNode where
  id : Nat
  contentId : Nat
  name : String
  rect : Rect
  primary : Bool
  workspaces : List WorkspaceNode
  deriving Repr, DecidableEq

/-- The whole layout as a tree, with a rectangle from the origin to the far edges. -/
structure Tree where
  id : Nat
  rect : Rect
  outputs : List OutputNode
  deriving Repr, DecidableEq

namespace Layout

def workspacesOn (layout : Layout) (output : Nat) : List (Workspace × Nat) :=
  layout.workspaces.zipIdx.filter (fun entry => entry.1.output == output)

def workspaceNode (layout : Layout) (rect : Rect) (id index : Nat) (workspace : Workspace) :
    WorkspaceNode where
  id := id
  name := workspace.name
  num := workspace.num?
  rect := rect
  focused := layout.focused == some index
  urgent := workspace.urgent

/-- The nodes of outputs from the place `index` on. Ids count up from `next`: those of the workspaces
on an output come before its own and its container's. -/
def outputNodes (layout : Layout) (index next : Nat) : List Output → List OutputNode
  | [] => []
  | output :: rest =>
    let workspaces := (layout.workspacesOn index).zipIdx next |>.map (fun entry =>
      layout.workspaceNode output.rect entry.2 entry.1.2 entry.1.1)
    let id := next + workspaces.length
    ⟨id, id + 1, output.name, output.rect, output.primary, workspaces⟩ ::
      layout.outputNodes (index + 1) (id + 2) rest

def rightEdge (rect : Rect) : Int := rect.x.toInt + rect.width.toNat

def bottomEdge (rect : Rect) : Int := rect.y.toInt + rect.height.toNat

def farthest (edges : List Int) : Int :=
  edges.foldl max 0

/-- An edge as a size; one that is out of range counts as the largest size. -/
def extent (edge : Int) : UInt32 :=
  if 0 ≤ edge ∧ edge ≤ 4294967295 then UInt32.ofNat edge.toNat else 4294967295

def rootRect (layout : Layout) : Rect :=
  ⟨0, 0, extent (farthest (layout.outputs.map (fun output => rightEdge output.rect))),
    extent (farthest (layout.outputs.map (fun output => bottomEdge output.rect)))⟩

def tree (layout : Layout) : Tree :=
  ⟨1, layout.rootRect, layout.outputNodes 0 2 layout.outputs⟩

end Layout

def Rect.toSortedJson (rect : Rect) : Json :=
  .obj [("height", Json.ofUInt32 rect.height), ("width", Json.ofUInt32 rect.width),
    ("x", Json.ofInt32 rect.x), ("y", Json.ofInt32 rect.y)]

def WorkspaceNode.toJson (node : WorkspaceNode) : Json :=
  .obj [("focused", .bool node.focused), ("id", .int node.id), ("name", .str node.name),
    ("nodes", .arr []), ("num", Json.orNull Json.ofInt32 node.num),
    ("rect", node.rect.toSortedJson), ("type", .str "workspace"), ("urgent", .bool node.urgent)]

def OutputNode.contentJson (node : OutputNode) : Json :=
  .obj [("id", .int node.contentId), ("name", .str "content"),
    ("nodes", .arr (node.workspaces.map WorkspaceNode.toJson)), ("rect", node.rect.toSortedJson),
    ("type", .str "con")]

def OutputNode.toJson (node : OutputNode) : Json :=
  .obj [("id", .int node.id), ("name", .str node.name), ("nodes", .arr [node.contentJson]),
    ("primary", .bool node.primary), ("rect", node.rect.toSortedJson), ("type", .str "output")]

def Tree.toJson (tree : Tree) : Json :=
  .obj [("id", .int tree.id), ("name", .str "root"),
    ("nodes", .arr (tree.outputs.map OutputNode.toJson)), ("rect", tree.rect.toSortedJson),
    ("type", .str "root")]

def BarConfig.toReply (bar : BarConfig) : BarReply where
  id := bar.id
  outputs := bar.outputs
  trayOutput := bar.trayOutput
  socketPath := bar.socketPath
  mode := Keyword.word bar.mode
  hiddenState := Keyword.word bar.hiddenState
  modifier := Keyword.word bar.modifier
  position := Keyword.word bar.position
  statusCommand := bar.statusCommand
  font := bar.font
  workspaceButtons := bar.workspaceButtons
  bindingModeIndicator := bar.bindingModeIndicator
  verbose := bar.verbose
  colors := bar.colors

namespace Layout

def barIds (layout : Layout) : List String :=
  layout.bars.map BarConfig.id

def bar? (layout : Layout) (id : String) : Option BarReply :=
  (layout.bars.find? (fun bar => bar.id == id)).map BarConfig.toReply

end Layout

end TileServer
