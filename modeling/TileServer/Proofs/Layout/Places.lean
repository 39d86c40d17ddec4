import Mathlib.Data.List.Sigma
import TileServer.Layout.Command
import TileServer.Layout.Query
import TileServer.Layout.Start

namespace TileServer.Layout

def roster (layout : Layout) : List (String × Nat) :=
  layout.workspaces.map (fun workspace => (workspace.name, workspace.output))

def places (layout : Layout) : List Nat :=
  layout.roster.map Prod.snd

/-- The output at a place shows the workspace at an index, which is on it. -/
structure OnShow (layout : Layout) (place index : Nat) : Prop where
  shown : layout.shows place index = true
  placed : layout.places[index]? = some place

/-- A layout in which every index leads somewhere. -/
structure Sound (layout : Layout) : Prop where
  occupied : layout.outputs ≠ []
  placed : ∀ place ∈ layout.places, place < layout.outputs.length
  current : ∀ place < layout.outputs.length, ∃ index, layout.OnShow place index
  focused : ∃ place index, layout.focused = some index ∧ layout.OnShow place index

/-- The layout after a workspace of a name was opened, which has no focus yet. -/
def opened (layout : Layout) (name : String) : Layout :=
  { layout with workspaces := layout.workspaces ++ [⟨name, layout.focusedOutput, false⟩] }

/-- The layout after one command text after another. -/
def runAll (layout : Layout) (texts : List (List Char)) : Layout :=
  texts.foldl (fun layout text => (layout.run text).layout) layout

theorem getElem?_places {layout : Layout} {index place : Nat} :
    layout.places[index]? = some place ↔
      ∃ workspace, layout.workspaces[index]? = some workspace ∧ workspace.output = place := by
  simp [places, roster, and_comm]

theorem shows_iff {layout : Layout} {place index : Nat} :
    layout.shows place index = true ↔
      ∃ output, layout.outputs[place]? = some output ∧ output.current = some index := by
  simp [shows, Option.bind_eq_some_iff]

theorem outputsOf_ne_nil (outputs : List OutputConfig) : outputsOf outputs ≠ [] := by
  cases outputs <;> simp [outputsOf]

theorem output_place_lt {outputs : List Output} (occupied : outputs ≠ [])
    (workspace : WorkspaceConfig) : (place outputs workspace).output < outputs.length := by
  have first : 0 < outputs.length := List.length_pos_iff.2 occupied
  unfold place
  cases named : workspace.output.bind (fun name =>
      outputs.findIdx? (fun output => output.name == name)) with
  | none => exact first
  | some index =>
    obtain ⟨name, _, found⟩ := Option.bind_eq_some_iff.1 named
    exact (List.findIdx?_eq_some_iff_findIdx_eq.1 found).1

/-- What `fill` has to leave: each output from the place `index` on shows a workspace that is on it,
and all workspaces that were added are on these outputs. -/
structure Filled (index : Nat) (workspaces : List Workspace) (outputs : List Output)
    (filled : List Output × List Workspace) : Prop where
  length : filled.1.length = outputs.length
  kept : workspaces <+: filled.2
  placed : ∀ workspace ∈ filled.2, workspace ∈ workspaces ∨
    workspace.output < index + outputs.length
  current : ∀ place < outputs.length, ∃ output shown workspace, filled.1[place]? = some output ∧
    output.current = some shown ∧ filled.2[shown]? = some workspace ∧
    workspace.output = index + place

theorem getElem?_of_prefix {front whole : List α} {index : Nat} {item : α} (kept : front <+: whole)
    (here : front[index]? = some item) : whole[index]? = some item := by
  obtain ⟨more, rfl⟩ := kept
  rw [List.getElem?_append_left (List.getElem?_eq_some_iff.1 here).1]
  exact here

theorem Filled.cons {index shown : Nat} {workspaces more : List Workspace} {output : Output}
    {outputs : List Output} {workspace : Workspace} {filled : List Output × List Workspace}
    (rest : Filled (index + 1) more outputs filled) (kept : workspaces <+: more)
    (added : ∀ other ∈ more, other ∈ workspaces ∨ other.output = index)
    (here : more[shown]? = some workspace) (placed : workspace.output = index) :
    Filled index workspaces (output :: outputs)
      ({ output with current := some shown } :: filled.1, filled.2) := by
  refine ⟨by simp [rest.length], kept.trans rest.kept, ?_, ?_⟩
  · intro other member
    rw [List.length_cons]
    rcases rest.placed other member with old | new
    · rcases added other old with before | own
      · exact Or.inl before
      · right
        omega
    · right
      omega
  · intro place bound
    cases place with
    | zero => exact ⟨_, shown, workspace, rfl, rfl, getElem?_of_prefix rest.kept here, placed⟩
    | succ place =>
      rw [List.length_cons] at bound
      obtain ⟨other, index', item, there, current, found, own⟩ :=
        rest.current place (Nat.lt_of_succ_lt_succ bound)
      exact ⟨other, index', item, there, current, found, by omega⟩

theorem filled_fill (index : Nat) (workspaces : List Workspace) (outputs : List Output) :
    Filled index workspaces outputs (fill index workspaces outputs) := by
  fun_induction fill index workspaces outputs with
  | case1 => exact ⟨rfl, List.prefix_rfl, fun _ => Or.inl, by simp⟩
  | case2 index workspaces output rest shown found outputs all rests ih =>
    obtain ⟨bound, here, _⟩ := List.findIdx?_eq_some_iff_getElem.1 found
    rw [rests] at ih
    exact ih.cons List.prefix_rfl (fun _ => Or.inl) (List.getElem?_eq_getElem bound)
      (beq_iff_eq.1 here)
  | case3 index workspaces output rest unshown added outputs all rests ih =>
    rw [rests] at ih
    refine ih.cons (List.prefix_append _ _) ?_ List.getElem?_concat_length rfl
    intro other member
    rcases List.mem_append.1 member with old | new
    · exact Or.inl old
    · rw [List.mem_singleton.1 new]
      exact Or.inr rfl

theorem names_fill (index : Nat) (workspaces : List Workspace) (outputs : List Output) :
    (fill index workspaces outputs).1.map Output.name = outputs.map Output.name := by
  fun_induction fill index workspaces outputs with
  | case1 => rfl
  | case2 index workspaces output rest shown found outputs all rests ih =>
    rw [rests] at ih
    simp only [List.map_cons, ih]
  | case3 index workspaces output rest unshown added outputs all rests ih =>
    rw [rests] at ih
    simp only [List.map_cons, ih]

theorem firstFocus_lt {outputs : List Output} (occupied : 0 < outputs.length) :
    (outputs.findIdx? Output.primary).getD 0 < outputs.length := by
  cases primary : outputs.findIdx? Output.primary with
  | none => exact occupied
  | some index => exact (List.findIdx?_eq_some_iff_findIdx_eq.1 primary).1

theorem Filled.sound {workspaces : List Workspace} {outputs : List Output} {layout : Layout}
    (filled : Filled 0 workspaces outputs (layout.outputs, layout.workspaces))
    (occupied : outputs ≠ []) (inside : ∀ workspace ∈ workspaces, workspace.output < outputs.length)
    (focused : layout.focused = firstFocus layout.outputs) : layout.Sound := by
  obtain ⟨length, _, placed, current⟩ := filled
  simp only [Nat.zero_add] at length placed current
  have first : 0 < layout.outputs.length := length ▸ List.length_pos_iff.2 occupied
  have shown : ∀ place < layout.outputs.length, ∃ output index,
      layout.outputs[place]? = some output ∧ output.current = some index ∧
        layout.OnShow place index := by
    intro place bound
    obtain ⟨output, index, workspace, there, current, here, own⟩ := current place (length ▸ bound)
    exact ⟨output, index, there, current, shows_iff.2 ⟨output, there, current⟩,
      getElem?_places.2 ⟨workspace, here, own⟩⟩
  refine ⟨List.length_pos_iff.1 first, ?_, ?_, ?_⟩
  · intro place member
    obtain ⟨index, listed⟩ := List.getElem?_of_mem member
    obtain ⟨workspace, here, rfl⟩ := getElem?_places.1 listed
    rw [length]
    rcases placed workspace (List.mem_of_getElem? here) with old | new
    · exact inside workspace old
    · exact new
  · intro place bound
    obtain ⟨_, index, _, _, onShow⟩ := shown place bound
    exact ⟨index, onShow⟩
  · obtain ⟨output, index, there, current, onShow⟩ := shown _ (firstFocus_lt first)
    refine ⟨_, index, ?_, onShow⟩
    rw [focused, firstFocus, there, Option.bind_some, current]

theorem sound_ofConfig (config : Config) : (ofConfig config).Sound := by
  have occupied := outputsOf_ne_nil config.outputs
  have filled : Filled 0 (config.workspaces.map (place (outputsOf config.outputs)))
      (outputsOf config.outputs) ((ofConfig config).outputs, (ofConfig config).workspaces) :=
    filled_fill 0 _ _
  refine filled.sound occupied ?_ rfl
  intro workspace member
  obtain ⟨given, _, rfl⟩ := List.mem_map.1 member
  exact output_place_lt occupied given

section

variable {layout : Layout} {index : Nat} {workspace : Workspace}

theorem roster_focusOn (layout : Layout) (index : Nat) (workspace : Workspace) :
    (layout.focusOn index workspace).roster = layout.roster := by
  apply List.ext_getElem?
  intro other
  simp only [roster, focusOn, List.getElem?_map, List.getElem?_modify, Option.map_eq_map,
    Option.map_map]
  congr 1
  funext workspace
  rw [Function.comp_apply]
  split <;> rfl

theorem roster_opened (layout : Layout) (name : String) :
    (layout.opened name).roster = layout.roster ++ [(name, layout.focusedOutput)] := by
  simp [roster, opened]

theorem shows_focusOn (there : workspace.output < layout.outputs.length) (place other : Nat) :
    (layout.focusOn index workspace).shows place other =
      if place = workspace.output then index == other else layout.shows place other := by
  simp only [shows, focusOn, List.getElem?_modify]
  by_cases same : place = workspace.output
  · subst same
    simp [List.getElem?_eq_getElem there]
  · have different : workspace.output ≠ place := fun equal => same equal.symm
    simp [same, different]

theorem Sound.focusOn (sound : layout.Sound) (here : layout.workspaces[index]? = some workspace) :
    (layout.focusOn index workspace).Sound := by
  have placed : layout.places[index]? = some workspace.output :=
    getElem?_places.2 ⟨workspace, here, rfl⟩
  have there := sound.placed _ (List.mem_of_getElem? placed)
  have unmoved : (layout.focusOn index workspace).places = layout.places := by
    rw [places, roster_focusOn, places]
  have length : (layout.focusOn index workspace).outputs.length = layout.outputs.length :=
    List.length_modify _ _ _
  have shown : (layout.focusOn index workspace).OnShow workspace.output index := by
    refine ⟨?_, unmoved ▸ placed⟩
    rw [shows_focusOn there, if_pos rfl, beq_self_eq_true]
  -- Only the output of the workspace shows another one than before.
  refine ⟨?_, ?_, ?_, workspace.output, index, rfl, shown⟩
  · rw [← List.length_pos_iff, length]
    exact Nat.zero_lt_of_lt there
  · rw [unmoved, length]
    exact sound.placed
  · intro place bound
    by_cases same : place = workspace.output
    · subst same
      exact ⟨index, shown⟩
    · obtain ⟨other, before, on⟩ := sound.current place (length ▸ bound)
      refine ⟨other, ?_, unmoved ▸ on⟩
      rw [shows_focusOn there, if_neg same]
      exact before

theorem Sound.focusedOutput (sound : layout.Sound) :
    layout.focusedOutput < layout.outputs.length := by
  obtain ⟨place, index, focused, _, placed⟩ := sound.focused
  obtain ⟨workspace, here, rfl⟩ := getElem?_places.1 placed
  unfold Layout.focusedOutput focusedWorkspace?
  rw [focused, Option.bind_some, here]
  exact sound.placed _ (List.mem_of_getElem? placed)

theorem Sound.opened (sound : layout.Sound) (name : String) : (layout.opened name).Sound := by
  have grown : (layout.opened name).places = layout.places ++ [layout.focusedOutput] := by
    rw [places, roster_opened, List.map_append, places]
    rfl
  have onShow : ∀ place index, layout.OnShow place index →
      (layout.opened name).OnShow place index := by
    intro place index before
    refine ⟨before.shown, ?_⟩
    rw [grown]
    exact getElem?_of_prefix (List.prefix_append _ _) before.placed
  refine ⟨sound.occupied, ?_, ?_, ?_⟩
  · rw [grown]
    intro place member
    rcases List.mem_append.1 member with old | new
    · exact sound.placed place old
    · rw [List.mem_singleton.1 new]
      exact sound.focusedOutput
  · intro place bound
    obtain ⟨index, before⟩ := sound.current place bound
    exact ⟨index, onShow place index before⟩
  · obtain ⟨place, index, focused, before⟩ := sound.focused
    exact ⟨place, index, focused, onShow place index before⟩

/-- A sound layout that has all workspaces of another one, where they were. -/
structure Extends (before after : Layout) : Prop where
  sound : after.Sound
  kept : before.roster <+: after.roster

theorem Sound.extends_refl (sound : layout.Sound) : layout.Extends layout :=
  ⟨sound, List.prefix_rfl⟩

theorem Extends.trans {first second third : Layout} (one : first.Extends second)
    (other : second.Extends third) : first.Extends third :=
  ⟨other.sound, one.kept.trans other.kept⟩

theorem Sound.focusAt (sound : layout.Sound) (index : Nat) (changes : List Change) :
    layout.Extends (layout.focusAt index changes).layout := by
  unfold Layout.focusAt
  split
  · exact sound.extends_refl
  · split
    · exact sound.extends_refl
    · rename_i workspace here
      exact ⟨sound.focusOn here, (layout.roster_focusOn index workspace).symm ▸ List.prefix_rfl⟩

theorem Sound.focusNamed (sound : layout.Sound) (name : String) :
    layout.Extends (layout.focusNamed name).layout := by
  unfold Layout.focusNamed
  split
  · exact sound.focusAt _ []
  · have grown : layout.Extends (layout.opened name) :=
      ⟨sound.opened name, by rw [roster_opened]; exact List.prefix_append _ _⟩
    exact grown.trans (grown.sound.focusAt _ _)

theorem Sound.of_same {other : Layout} (sound : layout.Sound)
    (outputs : other.outputs = layout.outputs) (workspaces : other.workspaces = layout.workspaces)
    (focused : other.focused = layout.focused) : layout.Extends other := by
  have sameRoster : other.roster = layout.roster := by rw [roster, workspaces, roster]
  have samePlaces : other.places = layout.places := by rw [places, sameRoster, places]
  have onShow : ∀ {place index}, layout.OnShow place index → other.OnShow place index := by
    intro place index before
    exact ⟨by rw [shows, outputs]; exact before.shown, samePlaces ▸ before.placed⟩
  refine ⟨⟨outputs ▸ sound.occupied, ?_, ?_, ?_⟩, sameRoster ▸ List.prefix_rfl⟩
  · rw [samePlaces, outputs]
    exact sound.placed
  · intro place bound
    obtain ⟨index, before⟩ := sound.current place (outputs ▸ bound)
    exact ⟨index, onShow before⟩
  · obtain ⟨place, index, focus, before⟩ := sound.focused
    exact ⟨place, index, focused.trans focus, onShow before⟩

theorem Sound.apply (sound : layout.Sound) (command : Command) :
    layout.Extends (layout.apply command).layout := by
  cases command with
  | workspace name => exact sound.focusNamed name
  | mark name =>
    simp only [Layout.apply]
    split
    · exact sound.extends_refl
    · exact sound.of_same rfl rfl rfl
  | unmark name => cases name <;> exact sound.of_same rfl rfl rfl
  | mode name => exact sound.of_same rfl rfl rfl
  | nop => exact sound.extends_refl

theorem Sound.runParts (sound : layout.Sound) (parts : List (List Char)) :
    layout.Extends (layout.runParts parts).layout := by
  induction parts generalizing layout with
  | nil => exact sound.extends_refl
  | cons part parts ih =>
    unfold Layout.runParts
    cases Command.read part with
    | error error => exact ih sound
    | ok command =>
      have first := sound.apply command
      exact first.trans (ih first.sound)

theorem Sound.runAll (sound : layout.Sound) (texts : List (List Char)) :
    layout.Extends (layout.runAll texts) := by
  induction texts generalizing layout with
  | nil => exact sound.extends_refl
  | cons text texts ih =>
    have first := sound.runParts (Command.parts text)
    exact first.trans (ih first.sound)

end

theorem countP_zipIdx_eq_one {items : List α} {marked : α × Nat → Bool} {index : Nat} {item : α}
    (here : items[index]? = some item) (marks : marked (item, index) = true)
    (only : ∀ other ∈ items.zipIdx, marked other = true → other.2 = index) :
    items.zipIdx.countP marked = 1 := by
  classical
  have nodup : items.zipIdx.Nodup := (List.nodup_zipIdx_map_snd items).of_map
  have member : (item, index) ∈ items.zipIdx := List.mk_mem_zipIdx_iff_getElem?.2 here
  rw [← List.count_eq_one_of_mem nodup member, List.count]
  apply List.countP_congr
  intro other there
  rw [beq_iff_eq]
  constructor
  · intro chosen
    have same := only other there chosen
    have listed := List.mem_zipIdx_iff_getElem?.1 there
    rw [same, here] at listed
    exact Prod.ext (Option.some.inj listed).symm same
  · rintro rfl
    exact marks

theorem filter_eq_singleton {items : List α} {marked : α → Bool} {item : α}
    (one : items.countP marked = 1) (member : item ∈ items) (marks : marked item = true) :
    items.filter marked = [item] := by
  rw [List.countP_eq_length_filter, List.length_eq_one_iff] at one
  obtain ⟨only, all⟩ := one
  have inside : item ∈ items.filter marked := List.mem_filter.2 ⟨member, marks⟩
  rw [all, List.mem_singleton] at inside
  rw [all, inside]

theorem zip_zipIdx_map (items : List α) (view : α × Nat → β) :
    items.zip (items.zipIdx.map view) = items.zipIdx.map (fun entry => (entry.1, view entry)) := by
  rw [← List.zip_map']
  congr 1
  exact (List.zipIdx_map_fst 0 items).symm

/-- What a list of workspaces has to say of the focus and of what is on show. -/
structure Reports (layout : Layout) : Prop where
  focused : layout.workspaceReplies.countP WorkspaceReply.focused = 1
  seen : ∀ reply ∈ layout.workspaceReplies, reply.focused = true → reply.visible = true
  visible : ∀ place < layout.outputs.length,
    (layout.workspaces.zip layout.workspaceReplies).countP (fun entry =>
      entry.1.output == place && entry.2.visible) = 1

theorem Sound.reports {layout : Layout} (sound : layout.Sound) : layout.Reports := by
  obtain ⟨focusPlace, focus, focused, focusShown⟩ := sound.focused
  refine ⟨?_, ?_, ?_⟩
  -- There is one index that has the focus, and on each output one that it shows.
  · obtain ⟨workspace, here, _⟩ := getElem?_places.1 focusShown.placed
    rw [workspaceReplies, List.countP_map]
    refine countP_zipIdx_eq_one here (by simp [workspaceReply, focused]) ?_
    intro other _ same
    simp only [Function.comp_apply, workspaceReply, focused, beq_iff_eq, Option.some.injEq] at same
    exact same.symm
  · intro reply member has
    obtain ⟨⟨workspace, index⟩, there, rfl⟩ := List.mem_map.1 member
    have here := List.mk_mem_zipIdx_iff_getElem?.1 there
    simp only [workspaceReply, focused, beq_iff_eq, Option.some.injEq] at has
    subst has
    have own : workspace.output = focusPlace := by
      obtain ⟨other, found, own⟩ := getElem?_places.1 focusShown.placed
      rw [here] at found
      cases found
      exact own
    rw [workspaceReply, own]
    exact focusShown.shown
  · intro place bound
    obtain ⟨index, shown, placed⟩ := sound.current place bound
    obtain ⟨workspace, here, rfl⟩ := getElem?_places.1 placed
    rw [workspaceReplies, zip_zipIdx_map, List.countP_map]
    refine countP_zipIdx_eq_one here (by simp [workspaceReply, shown]) ?_
    rintro ⟨other, position⟩ _ same
    simp only [Function.comp_apply, Bool.and_eq_true, beq_iff_eq, workspaceReply] at same
    obtain ⟨output, there, current⟩ := shows_iff.1 shown
    obtain ⟨same, visible⟩ := same
    rw [same] at visible
    obtain ⟨output', there', current'⟩ := shows_iff.1 visible
    rw [there] at there'
    cases there'
    rw [current] at current'
    exact (Option.some.inj current').symm

/-- Whatever the configuration and whatever commands are run, every index leads somewhere, also
between two commands of a text and while a workspace is opened; one workspace is reported to have the
focus, which is on show, and one on each output to be on show; and workspaces stay where they are,
with new ones behind them. -/
theorem places_kept (config : Config) (texts : List (List Char)) :
    ((ofConfig config).runAll texts).Sound ∧ ((ofConfig config).runAll texts).Reports ∧
      (∀ parts, (((ofConfig config).runAll texts).runParts parts).layout.Sound ∧
        ∀ name, ((((ofConfig config).runAll texts).runParts parts).layout.opened name).Sound) ∧
      ∀ more, ((ofConfig config).runAll texts).roster <+:
        (((ofConfig config).runAll texts).runAll more).roster := by
  have sound := ((sound_ofConfig config).runAll texts).sound
  refine ⟨sound, sound.reports, fun parts => ?_, fun more => (sound.runAll more).kept⟩
  have between := (sound.runParts parts).sound
  exact ⟨between, between.opened⟩

end TileServer.Layout
