import Mathlib.Order.Bounds.Basic
import Mathlib.Order.MinMax
import TileServer.Proofs.Layout.Places

namespace TileServer

abbrev Sight := String × Option Int32 × Rect × Bool × Bool × String

def WorkspaceReply.sight (reply : WorkspaceReply) : Sight :=
  (reply.name, reply.num, reply.rect, reply.focused, reply.urgent, reply.output)

def WorkspaceNode.sight (output : String) (node : WorkspaceNode) : Sight :=
  (node.name, node.num, node.rect, node.focused, node.urgent, output)

def OutputNode.sights (node : OutputNode) : List Sight :=
  node.workspaces.map (WorkspaceNode.sight node.name)

namespace Json

mutual

def ids : Json → List Int
  | .arr items => itemIds items
  | .obj fields => fieldIds fields
  | _ => []

def itemIds : List Json → List Int
  | [] => []
  | item :: rest => ids item ++ itemIds rest

def fieldIds : List (String × Json) → List Int
  | [] => []
  | (key, .int value) :: rest => (if key = "id" then [value] else []) ++ fieldIds rest
  | (_, value) :: rest => ids value ++ fieldIds rest

end

theorem itemIds_map {node : α → Json} {number : α → List Nat}
    (same : ∀ item, ids (node item) = (number item).map Int.ofNat) (items : List α) :
    itemIds (items.map node) = (items.flatMap number).map Int.ofNat := by
  induction items with
  | nil => rfl
  | cons item items ih =>
    rw [List.map_cons, itemIds, same, ih, List.flatMap_cons, List.map_append]

end Json

def OutputNode.ids (node : OutputNode) : List Nat :=
  node.id :: node.contentId :: node.workspaces.map WorkspaceNode.id

def Tree.ids (tree : Tree) : List Nat :=
  tree.id :: tree.outputs.flatMap OutputNode.ids

theorem WorkspaceNode.ids_toJson (node : WorkspaceNode) :
    node.toJson.ids = [node.id].map Int.ofNat := by
  cases num : node.num <;>
    simp [toJson, Json.ids, Json.fieldIds, Json.itemIds, Json.orNull, Json.ofInt32, Json.ofUInt32,
      Rect.toSortedJson, num]

theorem OutputNode.ids_toJson (node : OutputNode) : node.toJson.ids = node.ids.map Int.ofNat := by
  have below := Json.itemIds_map WorkspaceNode.ids_toJson node.workspaces
  rw [← List.map_eq_flatMap] at below
  simp [toJson, contentJson, OutputNode.ids, Json.ids, Json.fieldIds, Json.itemIds, Json.ofInt32,
    Json.ofUInt32, Rect.toSortedJson, below]

theorem Tree.ids_toJson (tree : Tree) : tree.toJson.ids = tree.ids.map Int.ofNat := by
  have below := Json.itemIds_map OutputNode.ids_toJson tree.outputs
  simp [toJson, Tree.ids, Json.ids, Json.fieldIds, Json.ofInt32, Json.ofUInt32, Rect.toSortedJson,
    below]

namespace Layout

/-- The layouts that a server comes to. -/
inductive Reachable : Layout → Prop
  | start (config : Config) : Reachable (ofConfig config)
  | run {layout : Layout} (reachable : Reachable layout) (text : List Char) :
      Reachable (layout.run text).layout
  | render {layout : Layout} (reachable : Reachable layout) : Reachable layout.render

theorem Reachable.sound {layout : Layout} (reachable : layout.Reachable) : layout.Sound := by
  induction reachable with
  | start config => exact sound_ofConfig config
  | run _ text ih => exact (ih.runParts (Command.parts text)).sound
  | render _ ih =>
    refine Extends.sound (Sound.of_same ih ?_ ?_ ?_) <;> rfl

variable {layout : Layout}

theorem outputs_outputNodes (layout : Layout) (index next : Nat) (outputs : List Output) :
    (layout.outputNodes index next outputs).map (fun node => (node.name, node.rect, node.primary)) =
      outputs.map (fun output => (output.name, output.rect, output.primary)) := by
  induction outputs generalizing index next with
  | nil => rfl
  | cons output outputs ih =>
    rw [outputNodes, List.map_cons, List.map_cons, ih]

def sightsOn (layout : Layout) (output : Output) (place : Nat) : List Sight :=
  (layout.workspacesOn place).map (fun entry =>
    (entry.1.name, entry.1.num?, output.rect, layout.focused == some entry.2, entry.1.urgent,
      output.name))

theorem sights_outputNodes (layout : Layout) (index next : Nat) (outputs : List Output) :
    (layout.outputNodes index next outputs).map OutputNode.sights =
      (outputs.zipIdx index).map (fun entry => layout.sightsOn entry.1 entry.2) := by
  induction outputs generalizing index next with
  | nil => rfl
  | cons output outputs ih =>
    rw [outputNodes, List.map_cons, ih, List.zipIdx_cons, List.map_cons]
    congr 1
    rw [OutputNode.sights, sightsOn, List.map_map, ← List.zipIdx_map_fst next (layout.workspacesOn index),
      List.map_map, List.zipIdx_map_fst]
    rfl

def repliesOn (layout : Layout) (place : Nat) : List (Workspace × WorkspaceReply) :=
  (layout.workspaces.zip layout.workspaceReplies).filter (fun entry => entry.1.output == place)

theorem sightsOn_eq {output : Output} {place : Nat} (there : layout.outputs[place]? = some output) :
    layout.sightsOn output place =
      (layout.repliesOn place).map (fun entry => entry.2.sight) := by
  rw [sightsOn, repliesOn, workspacesOn, workspaceReplies, zip_zipIdx_map, List.filter_map,
    List.map_map]
  apply List.map_congr_left
  intro entry member
  have own : entry.1.output = place := by simpa using (List.mem_filter.1 member).2
  simp only [Function.comp_apply, WorkspaceReply.sight, workspaceReply, own, outputRect, outputName,
    there]

theorem flatMap_filter_perm (items : List α) (key : α → Nat) {count : Nat}
    (inside : ∀ item ∈ items, key item < count) :
    ((List.range count).flatMap (fun place => items.filter (fun item => key item == place))).Perm
      items := by
  induction count generalizing items with
  | zero =>
    have empty : items = [] := List.eq_nil_iff_forall_not_mem.2
      (fun item member => absurd (inside item member) (Nat.not_lt_zero _))
    rw [empty]
    rfl
  | succ count ih =>
    let low := items.filter (fun item => decide (key item < count))
    have lower : ∀ item ∈ low, key item < count :=
      fun item member => of_decide_eq_true (List.mem_filter.1 member).2
    have same : ∀ place ∈ List.range count, items.filter (fun item => key item == place) =
        low.filter (fun item => key item == place) := by
      intro place member
      have bound := List.mem_range.1 member
      rw [List.filter_filter]
      apply List.filter_congr
      intro item _
      by_cases equal : key item = place
      · simp [equal, bound]
      · simp [equal]
    have last : items.filter (fun item => key item == count) =
        items.filter (fun item => !decide (key item < count)) := by
      apply List.filter_congr
      intro item member
      have bound := inside item member
      rw [Bool.eq_iff_iff]
      simp
      omega
    rw [List.range_succ, List.flatMap_append, List.flatMap_congr same, List.flatMap_singleton, last]
    exact ((ih low lower).append_right _).trans (List.filter_append_perm _ items)

theorem sights_tree (layout : Layout) :
    layout.tree.outputs.map OutputNode.sights =
      (List.range layout.outputs.length).map (fun place =>
        (layout.repliesOn place).map (fun entry => entry.2.sight)) := by
  have grouped : layout.tree.outputs.map OutputNode.sights =
      (layout.outputs.zipIdx.map Prod.snd).map (fun place =>
        (layout.repliesOn place).map (fun entry => entry.2.sight)) := by
    rw [tree, sights_outputNodes, List.map_map]
    apply List.map_congr_left
    intro entry member
    exact sightsOn_eq (List.mk_mem_zipIdx_iff_getElem?.1 member)
  rw [grouped, List.zipIdx_map_snd, List.range_eq_range']

theorem output_lt (sound : layout.Sound) {workspace : Workspace}
    (member : workspace ∈ layout.workspaces) : workspace.output < layout.outputs.length := by
  obtain ⟨index, here⟩ := List.getElem?_of_mem member
  exact sound.placed _ (List.mem_of_getElem? (getElem?_places.2 ⟨workspace, here, rfl⟩))

theorem getElem?_workspaceReplies (layout : Layout) (index : Nat) :
    layout.workspaceReplies[index]? = layout.workspaces[index]?.map (layout.workspaceReply index) := by
  simp only [workspaceReplies, List.getElem?_map, List.getElem?_zipIdx, Option.map_map,
    Nat.zero_add]
  rfl

theorem length_workspaceReplies (layout : Layout) :
    layout.workspaceReplies.length = layout.workspaces.length := by
  rw [workspaceReplies, List.length_map, List.length_zipIdx]

theorem flatMap_repliesOn (sound : layout.Sound) :
    ((List.range layout.outputs.length).flatMap layout.repliesOn).Perm
      (layout.workspaces.zip layout.workspaceReplies) :=
  flatMap_filter_perm _ (fun entry : Workspace × WorkspaceReply => entry.1.output)
    (fun _ member => output_lt sound (List.of_mem_zip member).1)

theorem flatMap_workspacesOn (sound : layout.Sound) :
    ((List.range layout.outputs.length).flatMap layout.workspacesOn).Perm layout.workspaces.zipIdx :=
  flatMap_filter_perm _ (fun entry : Workspace × Nat => entry.1.output)
    (fun _ member => output_lt sound (List.fst_mem_of_mem_zipIdx member))

theorem ids_outputNodes (layout : Layout) (index next : Nat) (outputs : List Output) :
    ((layout.outputNodes index next outputs).flatMap OutputNode.ids).Perm
      (List.range' next (2 * outputs.length +
        ((List.range' index outputs.length).flatMap layout.workspacesOn).length)) := by
  induction outputs generalizing index next with
  | nil => rfl
  | cons output outputs ih =>
    let on := (layout.workspacesOn index).length
    let workspaces := (layout.workspacesOn index).zipIdx next |>.map (fun entry =>
      layout.workspaceNode output.rect entry.2 entry.1.2 entry.1.1)
    have nodes : layout.outputNodes index next (output :: outputs) =
        ⟨next + on, next + on + 1, output.name, output.rect, output.primary, workspaces⟩ ::
          layout.outputNodes (index + 1) (next + on + 2) outputs := by
      rw [outputNodes]
      simp only [List.length_map, List.length_zipIdx]
      rfl
    have ids : workspaces.map WorkspaceNode.id = List.range' next on := by
      rw [List.map_map]
      exact List.zipIdx_map_snd ..
    -- The ids of the workspaces come first, then those of the output and its container.
    have first : ([next + on, next + on + 1] ++ workspaces.map WorkspaceNode.id).Perm
        (List.range' next (on + 2)) := by
      rw [ids, ← List.range'_append_1]
      exact List.perm_append_comm
    have rest := ih (index + 1) (next + on + 2)
    rw [nodes, List.flatMap_cons, List.length_cons, List.range'_succ, List.flatMap_cons,
      List.length_append]
    have whole (below : Nat) : 2 * (outputs.length + 1) + (on + below) =
        on + 2 + (2 * outputs.length + below) := by
      omega
    rw [whole, ← List.range'_append_1, ← Nat.add_assoc]
    exact first.append rest

def wideEdge (offset : Int32) (size : UInt32) : Int64 :=
  offset.toInt64 + Int64.ofNat size.toNat

theorem toInt_wideEdge (offset : Int32) (size : UInt32) :
    (wideEdge offset size).toInt = offset.toInt + size.toNat := by
  have low := offset.le_toInt
  have high := offset.toInt_lt
  have small := size.toNat_lt
  have number : (Int64.ofNat size.toNat).toInt = size.toNat :=
    Int64.toInt_ofNat_of_lt (by omega)
  rw [wideEdge, Int64.toInt_add, Int32.toInt_toInt64, number]
  apply Int.bmod_eq_of_le <;> omega

theorem toInt_max (first second : Int64) :
    (max first second).toInt = max first.toInt second.toInt := by
  rw [Int.max_def, ← apply_ite Int64.toInt]
  simp only [← Int64.le_iff_toInt_le]
  rfl

theorem toInt_foldl_max (edges : List Int64) (first : Int64) :
    (edges.foldl max first).toInt = (edges.map Int64.toInt).foldl max first.toInt := by
  induction edges generalizing first with
  | nil => rfl
  | cons edge edges ih => rw [List.foldl_cons, ih, toInt_max, List.map_cons, List.foldl_cons]

theorem toInt_farthest {wide : α → Int64} {edge : α → Int} (items : List α)
    (same : ∀ item, (wide item).toInt = edge item) :
    ((items.map wide).foldl max 0).toInt = farthest (items.map edge) := by
  rw [toInt_foldl_max, List.map_map, farthest]
  congr 1
  exact List.map_congr_left (fun item _ => same item)

theorem isGreatest_foldl_max (edges : List Int) (first : Int) :
    IsGreatest {edge | edge = first ∨ edge ∈ edges} (edges.foldl max first) := by
  induction edges generalizing first with
  | nil => exact ⟨.inl rfl, by simp [upperBounds]⟩
  | cons edge edges ih =>
    obtain ⟨reached, bounds⟩ := ih (max first edge)
    rw [List.foldl_cons]
    refine ⟨?_, ?_⟩
    · rcases reached with same | member
      · rw [same]
        rcases max_choice first edge with own | other
        · exact .inl own
        · rw [other]
          exact .inr List.mem_cons_self
      · exact .inr (List.mem_cons_of_mem _ member)
    · rintro other (rfl | member)
      · exact (le_max_left _ _).trans (bounds (.inl rfl))
      · rcases List.mem_cons.1 member with rfl | member
        · exact (le_max_right _ _).trans (bounds (.inl rfl))
        · exact bounds (.inr member)

theorem toNat_extent {edge : Int} (positive : 0 ≤ edge) :
    ((extent edge).toNat : Int) = min edge 4294967295 := by
  unfold extent
  split
  · rename_i fits
    rw [UInt32.toNat_ofNat']
    omega
  · rename_i wide
    have large : 4294967295 < edge := by omega
    rw [min_eq_right large.le]
    rfl

theorem ids_tree (sound : layout.Sound) :
    layout.tree.ids.Perm
      (List.range' 1 (1 + 2 * layout.outputs.length + layout.workspaces.length)) := by
  have count : ((List.range' 0 layout.outputs.length).flatMap layout.workspacesOn).length =
      layout.workspaces.length := by
    rw [← List.range_eq_range', (flatMap_workspacesOn sound).length_eq, List.length_zipIdx]
  have nodes := layout.ids_outputNodes 0 2 layout.outputs
  rw [count] at nodes
  rw [Nat.add_assoc, Nat.add_comm 1, List.range'_succ]
  exact nodes.cons 1

def Spans (edges : List Int) (size : UInt32) : Prop :=
  ∃ far, IsGreatest {edge | edge = 0 ∨ edge ∈ edges} far ∧ (size.toNat : Int) = min far 4294967295

theorem spans_extent (edges : List Int) : Spans edges (extent (farthest edges)) := by
  have greatest := isGreatest_foldl_max edges 0
  exact ⟨farthest edges, greatest, toNat_extent (greatest.2 (.inl rfl))⟩

/-- A layout of which each view tells what the others tell. -/
structure ViewsAgree (layout : Layout) : Prop where
  outputs : layout.tree.outputs.map (fun node => (node.name, node.rect, node.primary)) =
    layout.outputReplies.map (fun reply => (reply.name, reply.rect, reply.primary))
  grouped : layout.tree.outputs.map OutputNode.sights =
    (List.range layout.outputReplies.length).map (fun place =>
      (layout.repliesOn place).map (fun entry => entry.2.sight))
  once : (layout.tree.outputs.flatMap OutputNode.sights).Perm
    (layout.workspaceReplies.map WorkspaceReply.sight)
  current : ∀ place reply, layout.outputReplies[place]? = some reply →
    ∃ entry, (layout.repliesOn place).filter (fun entry => entry.2.visible) = [entry] ∧
      reply.currentWorkspace = some entry.2.name
  ids : layout.tree.toJson.ids.Perm ((List.range' 1
    (1 + 2 * layout.outputReplies.length + layout.workspaceReplies.length)).map Int.ofNat)
  unique : layout.tree.toJson.ids.Nodup
  origin : layout.tree.rect.x = 0 ∧ layout.tree.rect.y = 0
  width : Spans (layout.outputReplies.map (fun reply => rightEdge reply.rect))
    layout.tree.rect.width
  height : Spans (layout.outputReplies.map (fun reply => bottomEdge reply.rect))
    layout.tree.rect.height
  right : ((layout.outputReplies.map (fun reply =>
      wideEdge reply.rect.x reply.rect.width)).foldl max 0).toInt =
    farthest (layout.outputReplies.map (fun reply => rightEdge reply.rect))
  bottom : ((layout.outputReplies.map (fun reply =>
      wideEdge reply.rect.y reply.rect.height)).foldl max 0).toInt =
    farthest (layout.outputReplies.map (fun reply => bottomEdge reply.rect))

theorem current_visible (sound : layout.Sound) {place : Nat} {output : Output}
    (there : layout.outputs[place]? = some output) :
    ∃ entry, (layout.repliesOn place).filter (fun entry => entry.2.visible) = [entry] ∧
      (layout.outputReply output).currentWorkspace = some entry.2.name := by
  have inside := (List.getElem?_eq_some_iff.1 there).1
  obtain ⟨index, onShow⟩ := sound.current place inside
  obtain ⟨workspace, here, own⟩ := getElem?_places.1 onShow.placed
  obtain ⟨shown, same, current⟩ := shows_iff.1 onShow.shown
  rw [there] at same
  cases same
  have member : (workspace, layout.workspaceReply index workspace) ∈ layout.repliesOn place := by
    refine List.mem_filter.2 ⟨?_, beq_iff_eq.2 own⟩
    rw [workspaceReplies, zip_zipIdx_map]
    exact List.mem_map.2 ⟨(workspace, index), List.mk_mem_zipIdx_iff_getElem?.2 here, rfl⟩
  have visible : (layout.workspaceReply index workspace).visible = true := by
    rw [workspaceReply, own]
    exact onShow.shown
  have one : (layout.repliesOn place).countP (fun entry => entry.2.visible) = 1 := by
    rw [repliesOn, List.countP_filter, ← sound.reports.visible place inside]
    apply List.countP_congr
    intro entry _
    rw [Bool.and_comm]
  refine ⟨_, filter_eq_singleton one member visible, ?_⟩
  simp only [outputReply, current, Option.bind_some, here, Option.map_some]
  rfl

theorem Sound.viewsAgree (sound : layout.Sound) : layout.ViewsAgree := by
  have count : layout.outputReplies.length = layout.outputs.length := List.length_map ..
  have grouped := layout.sights_tree
  have ids := (ids_tree sound).map Int.ofNat
  rw [← Tree.ids_toJson] at ids
  refine ⟨?_, ?_, ?_, ?_, ?_, ?_, ⟨rfl, rfl⟩, ?_, ?_, ?_, ?_⟩
  · rw [tree, outputs_outputNodes, outputReplies, List.map_map]
    rfl
  · rw [count]
    exact grouped
  · have all := ((flatMap_repliesOn sound).map Prod.snd).map WorkspaceReply.sight
    rw [List.map_snd_zip layout.length_workspaceReplies.le, List.map_flatMap, List.map_flatMap] at all
    rw [List.flatMap_def, grouped, ← List.flatMap_def]
    simp only [List.map_map] at all
    exact all
  · intro place reply reported
    rw [outputReplies, List.getElem?_map] at reported
    obtain ⟨output, there, rfl⟩ := Option.map_eq_some_iff.1 reported
    exact current_visible sound there
  · rw [count, length_workspaceReplies]
    exact ids
  · refine ids.nodup_iff.2 (List.Nodup.map ?_ List.nodup_range')
    exact fun _ _ => Int.ofNat_inj.1
  · rw [outputReplies, List.map_map]
    exact spans_extent _
  · rw [outputReplies, List.map_map]
    exact spans_extent _
  · exact toInt_farthest _ (fun reply => toInt_wideEdge reply.rect.x reply.rect.width)
  · exact toInt_farthest _ (fun reply => toInt_wideEdge reply.rect.y reply.rect.height)

/-- In every layout that a server comes to, the list of workspaces, the list of outputs and the tree
tell the same; the ids in the tree are the first positive numbers, each once; and the root's rectangle
reaches to the farthest edges, as far as a size can tell. -/
theorem views_agree (layout : Layout) (reachable : layout.Reachable) : layout.ViewsAgree :=
  reachable.sound.viewsAgree

def twoOutputs : Config where
  outputs := [{ name := "left", x := -1920 }, { name := "right", primary := true }]
  workspaces := [{ name := "2: web", output := some "right" }, { name := "1" }]

def tour : List (List Char) :=
  ["workspace 1; workspace mail".toList, "mode resize, workspace 2: web".toList]

theorem views_agree_of_tour :
    ((ofConfig twoOutputs).runAll tour).render.Reachable ∧
      ((ofConfig twoOutputs).runAll tour).render.ViewsAgree :=
  have reachable : ((ofConfig twoOutputs).runAll tour).render.Reachable :=
    (((Reachable.start twoOutputs).run _).run _).render
  ⟨reachable, views_agree _ reachable⟩

example : ((ofConfig twoOutputs).runAll tour).tree.outputs.map
    (fun node => (node.name, node.id, node.workspaces.map (fun workspace =>
      (workspace.name, workspace.id, workspace.focused)))) =
      [("left", 4, [("1", 2, false), ("mail", 3, false)]),
        ("right", 7, [("2: web", 6, true)])] := by
  decide +kernel

end Layout

end TileServer
