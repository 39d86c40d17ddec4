import TileServer.Layout.Mirror
import TileServer.Proofs.Json.Fields
import TileServer.Proofs.Layout.Views

namespace TileServer

theorem WorkspaceRef.ofJson?_toJson (ref : WorkspaceRef) : ofJson? ref.toJson = some ref := by
  obtain ⟨name, num, output⟩ := ref
  cases num with
  | none => rfl
  | some value =>
    have read : ofJson? (toJson ⟨name, some value, output⟩) =
        ((Json.asInt32? (Json.ofInt32 value)).map some).bind
          (fun num => some ⟨name, num, output⟩) := rfl
    rw [read, Json.faithful_int32.back, Option.map_some, Option.bind_some]

theorem WorkspaceRef.optional?_orNull (ref : Option WorkspaceRef) :
    Json.optional? ofJson? (some (Json.orNull toJson ref)) = some ref := by
  cases ref with
  | none => rfl
  | some ref =>
    have read : Json.optional? ofJson? (some (Json.orNull toJson (some ref))) =
        (ofJson? ref.toJson).map some := rfl
    rw [read, ofJson?_toJson, Option.map_some]

theorem Change.ofJson?_toJson (change : Change) :
    ofJson? change.event change.toJson = some change := by
  cases change with
  | opened current =>
    have read : ofJson? "workspace" (opened current).toJson =
        (WorkspaceRef.ofJson? current.toJson).map opened := rfl
    rw [event, read, WorkspaceRef.ofJson?_toJson, Option.map_some]
  | focused current old =>
    have read : ofJson? "workspace" (focused current old).toJson =
        (WorkspaceRef.ofJson? current.toJson).bind (fun current =>
          (Json.optional? WorkspaceRef.ofJson? (some (Json.orNull WorkspaceRef.toJson old))).bind
            (fun old => some (focused current old))) := rfl
    rw [event, read, WorkspaceRef.ofJson?_toJson, WorkspaceRef.optional?_orNull, Option.bind_some,
      Option.bind_some]
  | mode name => rfl

theorem split_append {first second before after : List α} {item : α}
    (split : first ++ second = before ++ item :: after) :
    (∃ rest, first = before ++ item :: rest ∧ after = rest ++ second) ∨
      ∃ front, before = first ++ front ∧ second = front ++ item :: after := by
  rcases List.append_eq_append_iff.1 split with ⟨front, rfl, tail⟩ | ⟨rest, rfl, tail⟩
  · exact .inr ⟨front, rfl, tail⟩
  · cases rest with
    | nil => exact .inr ⟨[], by simp, tail.symm⟩
    | cons head rest =>
      cases tail
      exact .inl ⟨rest, rfl, rfl⟩

namespace Mirror

def Names (mirror : Mirror) (named : Option WorkspaceRef) : Prop :=
  ∃ entry, mirror.workspaces.filter WorkspaceReply.focused = [entry] ∧ named = some entry.ref

/-- Changes that come in an order that observers can rely on. -/
structure Orderly (mirror : Mirror) (changes : List Change) : Prop where
  old : ∀ before current old after, changes = before ++ .focused current old :: after →
    (mirror.replay before).Names old
  next : ∀ before current after, changes = before ++ .opened current :: after →
    ∃ old rest, after = .focused current old :: rest

variable {mirror : Mirror} {first second changes : List Change}

theorem hear_toJson (mirror : Mirror) (change : Change) :
    mirror.hear change.event change.toJson = mirror.follow change := by
  rw [hear, change.ofJson?_toJson]

theorem replay_cons (mirror : Mirror) (change : Change) (changes : List Change) :
    mirror.replay (change :: changes) = (mirror.follow change).replay changes := by
  rw [replay, List.foldl_cons, hear_toJson, replay]

theorem replay_append (mirror : Mirror) (first second : List Change) :
    mirror.replay (first ++ second) = (mirror.replay first).replay second :=
  List.foldl_append ..

theorem orderly_nil (mirror : Mirror) : mirror.Orderly [] where
  old := by simp
  next := by simp

theorem Orderly.append (one : mirror.Orderly first) (other : (mirror.replay first).Orderly second) :
    mirror.Orderly (first ++ second) := by
  refine ⟨?_, ?_⟩
  · intro before current old after split
    rcases split_append split with ⟨rest, here, _⟩ | ⟨front, rfl, there⟩
    · exact one.old before current old rest here
    · rw [replay_append]
      exact other.old front current old after there
  · intro before current after split
    rcases split_append split with ⟨rest, here, rfl⟩ | ⟨front, rfl, there⟩
    · obtain ⟨old, later, rfl⟩ := one.next before current rest here
      exact ⟨old, later ++ second, rfl⟩
    · exact other.next front current after there

theorem orderly_mode (mirror : Mirror) (name : String) : mirror.Orderly [.mode name] where
  old := by
    intro before current old after split
    cases before <;> simp at split
  next := by
    intro before current after split
    cases before <;> simp at split

theorem orderly_focused {old : Option WorkspaceRef} (names : mirror.Names old)
    (current : WorkspaceRef) : mirror.Orderly [.focused current old] where
  old := by
    intro before other earlier after split
    cases before with
    | nil =>
      cases split
      exact names
    | cons => simp at split
  next := by
    intro before other after split
    cases before <;> simp at split

theorem Orderly.opened {current : WorkspaceRef} {old : Option WorkspaceRef}
    (orderly : (mirror.add current).Orderly [.focused current old]) :
    mirror.Orderly [.opened current, .focused current old] := by
  refine ⟨?_, ?_⟩
  · intro before other earlier after split
    cases before with
    | nil => cases split
    | cons change before =>
      simp only [List.cons_append, List.cons.injEq] at split
      obtain ⟨rfl, split⟩ := split
      rw [replay_cons]
      exact orderly.old before other earlier after split
  · intro before other after split
    cases before with
    | nil =>
      cases split
      exact ⟨old, [], rfl⟩
    | cons change before =>
      simp only [List.cons_append, List.cons.injEq] at split
      exact orderly.next before other after split.2

/-- An observer that has the list that it would be answered. -/
structure InStep (layout : Layout) (mirror : Mirror) : Prop where
  sound : layout.Sound
  distinct : (layout.outputs.map Output.name).Nodup
  calm : ∀ workspace ∈ layout.workspaces, workspace.urgent = false
  outputs : mirror.outputs.map (fun reply => (reply.name, reply.rect)) =
    layout.outputs.map (fun output => (output.name, output.rect))
  workspaces : mirror.workspaces = layout.workspaceReplies

variable {layout : Layout} {index : Nat} {workspace : Workspace}

theorem InStep.rectOf (step : mirror.InStep layout) {place : Nat}
    (inside : place < layout.outputs.length) :
    mirror.rectOf (layout.outputName place) = layout.outputRect place := by
  have there := List.getElem?_eq_getElem inside
  generalize layout.outputs[place] = output at there
  have member := List.mem_of_getElem? there
  rw [Layout.outputName, Layout.outputRect, there]
  unfold Mirror.rectOf
  cases found : mirror.outputs.find? (fun reply => reply.name == output.name) with
  | none =>
    have known : (output.name, output.rect) ∈
        mirror.outputs.map (fun reply => (reply.name, reply.rect)) := by
      rw [step.outputs]
      exact List.mem_map.2 ⟨output, member, rfl⟩
    obtain ⟨reply, reported, same⟩ := List.mem_map.1 known
    simp only [Prod.mk.injEq] at same
    exact absurd (beq_iff_eq.2 same.1) (List.find?_eq_none.1 found reply reported)
  | some reply =>
    have known : (reply.name, reply.rect) ∈
        layout.outputs.map (fun output => (output.name, output.rect)) := by
      rw [← step.outputs]
      exact List.mem_map.2 ⟨reply, List.mem_of_find?_eq_some found, rfl⟩
    obtain ⟨other, elsewhere, same⟩ := List.mem_map.1 known
    simp only [Prod.mk.injEq] at same
    have name : reply.name = output.name := by simpa using List.find?_some found
    have equal := List.inj_on_of_nodup_map step.distinct elsewhere member (same.1.trans name)
    exact same.2.symm.trans (congrArg Output.rect equal)

theorem InStep.outputName_eq (step : mirror.InStep layout) {one other : Nat}
    (here : one < layout.outputs.length) (there : other < layout.outputs.length) :
    layout.outputName one = layout.outputName other ↔ one = other := by
  refine ⟨fun same => ?_, congrArg layout.outputName⟩
  have inside : one < (layout.outputs.map Output.name).length := by simpa using here
  have names : (layout.outputs.map Output.name)[one]? = (layout.outputs.map Output.name)[other]? := by
    simpa [Layout.outputName, List.getElem?_eq_getElem here, List.getElem?_eq_getElem there]
      using same
  exact (List.getElem?_inj inside step.distinct).1 names

theorem InStep.of_same {other : Layout} (step : mirror.InStep layout)
    (outputs : other.outputs = layout.outputs) (workspaces : other.workspaces = layout.workspaces)
    (focused : other.focused = layout.focused) : mirror.InStep other := by
  have replies : other.workspaceReplies = layout.workspaceReplies := by
    unfold Layout.workspaceReplies Layout.workspaceReply Layout.shows Layout.outputRect
      Layout.outputName
    rw [outputs, workspaces, focused]
  refine ⟨(step.sound.of_same outputs workspaces focused).sound, ?_, ?_, ?_, ?_⟩
  · rw [outputs]
    exact step.distinct
  · rw [workspaces]
    exact step.calm
  · rw [outputs]
    exact step.outputs
  · rw [replies]
    exact step.workspaces

theorem InStep.names (step : mirror.InStep layout) (here : layout.workspaces[index]? = some workspace)
    (focused : layout.focused = some index) :
    mirror.Names (some (layout.ref workspace)) := by
  have member : layout.workspaceReply index workspace ∈ layout.workspaceReplies := by
    apply List.mem_of_getElem?
    rw [Layout.getElem?_workspaceReplies, here, Option.map_some]
  have has : (layout.workspaceReply index workspace).focused = true := by
    simp [Layout.workspaceReply, focused]
  refine ⟨layout.workspaceReply index workspace, ?_, rfl⟩
  rw [step.workspaces]
  exact Layout.filter_eq_singleton step.sound.reports.focused member has

theorem InStep.add (step : mirror.InStep layout) (name : String) :
    (mirror.add (layout.ref ⟨name, layout.focusedOutput, false⟩)).InStep (layout.opened name) := by
  have inside := step.sound.focusedOutput
  -- Nothing is shown or has the focus at the new place yet.
  have last : ∀ place index, layout.OnShow place index → index < layout.workspaces.length := by
    intro place index onShow
    obtain ⟨workspace, here, _⟩ := Layout.getElem?_places.1 onShow.placed
    exact (List.getElem?_eq_some_iff.1 here).1
  have hidden : layout.shows layout.focusedOutput layout.workspaces.length = false := by
    rw [Bool.eq_false_iff]
    intro shown
    obtain ⟨index, onShow⟩ := step.sound.current _ inside
    obtain ⟨output, there, current⟩ := Layout.shows_iff.1 shown
    obtain ⟨output', there', current'⟩ := Layout.shows_iff.1 onShow.shown
    rw [there] at there'
    cases there'
    rw [current] at current'
    cases current'
    exact Nat.lt_irrefl _ (last _ _ onShow)
  have unfocused : (layout.focused == some layout.workspaces.length) = false := by
    obtain ⟨place, index, focused, onShow⟩ := step.sound.focused
    have bound := last place index onShow
    simp only [focused, beq_eq_false_iff_ne, ne_eq, Option.some.injEq]
    omega
  have replies : (layout.opened name).workspaceReplies = layout.workspaceReplies ++
      [layout.workspaceReply layout.workspaces.length ⟨name, layout.focusedOutput, false⟩] := by
    simp only [Layout.workspaceReplies, Layout.opened, List.zipIdx_append, List.map_append,
      Nat.zero_add]
    rfl
  refine ⟨step.sound.opened name, step.distinct, ?_, step.outputs, ?_⟩
  · intro workspace member
    rcases List.mem_append.1 member with old | new
    · exact step.calm workspace old
    · rw [List.mem_singleton.1 new]
  · rw [replies, ← step.workspaces]
    simp only [Mirror.add, Layout.ref, Layout.workspaceReply, hidden, unfocused, step.rectOf inside]

theorem map_outputs_focusOn (layout : Layout) (index : Nat) (workspace : Workspace)
    (key : Output → α) (same : ∀ output current, key { output with current } = key output) :
    (layout.focusOn index workspace).outputs.map key = layout.outputs.map key := by
  apply List.ext_getElem?
  intro place
  simp only [Layout.focusOn, List.getElem?_map, List.getElem?_modify, Option.map_eq_map,
    Option.map_map]
  congr 1
  funext output
  rw [Function.comp_apply]
  split
  · exact same output (some index)
  · rfl

theorem outputName_eq_getD (layout : Layout) (place : Nat) :
    layout.outputName place = ((layout.outputs.map Output.name)[place]?).getD "" := by
  rw [Layout.outputName, List.getElem?_map]
  cases layout.outputs[place]? <;> rfl

theorem outputRect_eq_getD (layout : Layout) (place : Nat) :
    layout.outputRect place = ((layout.outputs.map Output.rect)[place]?).getD ⟨0, 0, 0, 0⟩ := by
  rw [Layout.outputRect, List.getElem?_map]
  cases layout.outputs[place]? <;> rfl

theorem workspaceReply_focusOn (there : workspace.output < layout.outputs.length) (place : Nat)
    (other : Workspace) (calm : other.urgent = false) :
    (layout.focusOn index workspace).workspaceReply place { other with urgent := false } =
      { layout.workspaceReply place other with
        focused := index == place
        visible := if other.output = workspace.output then index == place
          else (layout.workspaceReply place other).visible } := by
  have names := map_outputs_focusOn layout index workspace Output.name (fun _ _ => rfl)
  have rects := map_outputs_focusOn layout index workspace Output.rect (fun _ _ => rfl)
  simp only [Layout.workspaceReply, Layout.shows_focusOn there, outputName_eq_getD,
    outputRect_eq_getD, names, rects, calm]
  rfl

theorem getElem?_focusOn (calm : ∀ workspace ∈ layout.workspaces, workspace.urgent = false)
    (index : Nat) (workspace : Workspace) (place : Nat) :
    (layout.focusOn index workspace).workspaces[place]? =
      layout.workspaces[place]?.map (fun other => { other with urgent := false }) := by
  simp only [Layout.focusOn, List.getElem?_modify, Option.map_eq_map]
  cases there : layout.workspaces[place]? with
  | none => rfl
  | some other =>
    have still : other.urgent = false := calm other (List.mem_of_getElem? there)
    rw [Option.map_some, Option.map_some]
    split
    · rfl
    · rw [← still]

theorem InStep.focus (step : mirror.InStep layout)
    (here : layout.workspaces[index]? = some workspace)
    (first : layout.workspaces.findIdx? (fun other => other.name == workspace.name) = some index) :
    (mirror.focus (layout.ref workspace)).InStep (layout.focusOn index workspace) := by
  have inside := Layout.output_lt step.sound (List.mem_of_getElem? here)
  have names : layout.workspaceReplies.map WorkspaceReply.name =
      layout.workspaces.map Workspace.name := by
    apply List.ext_getElem?
    intro other
    rw [List.getElem?_map, List.getElem?_map, Layout.getElem?_workspaceReplies, Option.map_map]
    rfl
  have found : layout.workspaceReplies.findIdx? (fun entry => entry.name == workspace.name) =
      some index := by
    have same := congrArg (List.findIdx? (fun name => name == workspace.name)) names
    rw [List.findIdx?_map, List.findIdx?_map] at same
    exact same.trans first
  refine ⟨step.sound.focusOn here, ?_, ?_, ?_, ?_⟩
  · rw [map_outputs_focusOn layout index workspace Output.name (fun _ _ => rfl)]
    exact step.distinct
  · intro other member
    obtain ⟨place, listed⟩ := List.getElem?_of_mem member
    rw [getElem?_focusOn step.calm] at listed
    obtain ⟨earlier, before, rfl⟩ := Option.map_eq_some_iff.1 listed
    rfl
  · rw [map_outputs_focusOn layout index workspace _ (fun _ _ => rfl)]
    exact step.outputs
  · apply List.ext_getElem?
    intro place
    simp only [Mirror.focus, Layout.ref, step.workspaces, found, List.getElem?_mapIdx,
      Layout.getElem?_workspaceReplies, getElem?_focusOn step.calm]
    cases there : layout.workspaces[place]? with
    | none => rfl
    | some other =>
      have member := List.mem_of_getElem? there
      have calm := step.calm other member
      have same : (layout.workspaceReply place other).output = layout.outputName workspace.output ↔
          other.output = workspace.output :=
        step.outputName_eq (Layout.output_lt step.sound member) inside
      simp only [Option.map_some, workspaceReply_focusOn inside place other calm, same]
      rfl

/-- An observer that is in step with a layout after it went by some orderly changes. -/
structure Tracks (mirror : Mirror) (changes : List Change) (layout : Layout) : Prop where
  inStep : (mirror.replay changes).InStep layout
  orderly : mirror.Orderly changes

theorem InStep.tracks_nil (step : mirror.InStep layout) : mirror.Tracks [] layout :=
  ⟨step, mirror.orderly_nil⟩

theorem Tracks.append {middle after : Layout} (one : mirror.Tracks first middle)
    (other : (mirror.replay first).Tracks second after) : mirror.Tracks (first ++ second) after :=
  ⟨(mirror.replay_append first second).symm ▸ other.inStep, one.orderly.append other.orderly⟩

theorem InStep.tracks_focusOn (step : mirror.InStep layout)
    (here : layout.workspaces[index]? = some workspace)
    (first : layout.workspaces.findIdx? (fun other => other.name == workspace.name) = some index) :
    mirror.Tracks [.focused (layout.ref workspace) (layout.focusedWorkspace?.map layout.ref)]
      (layout.focusOn index workspace) := by
  obtain ⟨place, focus, focused, onShow⟩ := step.sound.focused
  obtain ⟨old, there, _⟩ := Layout.getElem?_places.1 onShow.placed
  have before : layout.focusedWorkspace? = some old := by
    rw [Layout.focusedWorkspace?, focused, Option.bind_some, there]
  rw [before, Option.map_some]
  refine ⟨?_, orderly_focused (step.names there focused) _⟩
  rw [replay_cons]
  exact step.focus here first

theorem focusAt_of_ne (unfocused : layout.focused ≠ some index)
    (here : layout.workspaces[index]? = some workspace) (changes : List Change) :
    layout.focusAt index changes = ⟨layout.focusOn index workspace, true, changes ++
      [.focused (layout.ref workspace) (layout.focusedWorkspace?.map layout.ref)]⟩ := by
  rw [Layout.focusAt, if_neg unfocused, here]

theorem InStep.tracks_focusAt (step : mirror.InStep layout)
    (here : layout.workspaces[index]? = some workspace)
    (first : layout.workspaces.findIdx? (fun other => other.name == workspace.name) = some index) :
    mirror.Tracks (layout.focusAt index []).changes (layout.focusAt index []).layout := by
  by_cases focused : layout.focused = some index
  · rw [Layout.focusAt, if_pos focused]
    exact step.tracks_nil
  · rw [focusAt_of_ne focused here]
    exact step.tracks_focusOn here first

theorem InStep.tracks_focusNamed (step : mirror.InStep layout) (name : String) :
    mirror.Tracks (layout.focusNamed name).changes (layout.focusNamed name).layout := by
  unfold Layout.focusNamed
  cases known : layout.workspaces.findIdx? (fun workspace => workspace.name == name) with
  | some index =>
    obtain ⟨bound, same, _⟩ := List.findIdx?_eq_some_iff_getElem.1 known
    rw [← beq_iff_eq.1 same] at known
    exact step.tracks_focusAt (List.getElem?_eq_getElem bound) known
  | none =>
    let workspace : Workspace := ⟨name, layout.focusedOutput, false⟩
    have added := step.add name
    have here : (layout.opened name).workspaces[layout.workspaces.length]? = some workspace :=
      List.getElem?_concat_length
    have first : (layout.opened name).workspaces.findIdx? (fun other => other.name == name) =
        some layout.workspaces.length := by
      simp [Layout.opened, List.findIdx?_append, known]
    have unfocused : (layout.opened name).focused ≠ some layout.workspaces.length := by
      obtain ⟨place, index, focused, onShow⟩ := step.sound.focused
      obtain ⟨old, there, _⟩ := Layout.getElem?_places.1 onShow.placed
      have bound := (List.getElem?_eq_some_iff.1 there).1
      intro same
      rw [show (layout.opened name).focused = layout.focused from rfl, focused] at same
      cases same
      exact Nat.lt_irrefl _ bound
    have moved := added.tracks_focusOn here first
    have opens : (layout.opened name).focusAt layout.workspaces.length
        [.opened (layout.ref workspace)] = _ := focusAt_of_ne unfocused here _
    change mirror.Tracks
      ((layout.opened name).focusAt layout.workspaces.length [.opened (layout.ref workspace)]).changes
      ((layout.opened name).focusAt layout.workspaces.length [.opened (layout.ref workspace)]).layout
    rw [opens]
    refine ⟨?_, moved.orderly.opened⟩
    rw [List.singleton_append, replay_cons]
    exact moved.inStep

theorem InStep.tracks_apply (step : mirror.InStep layout) (command : Command) :
    mirror.Tracks (layout.apply command).changes (layout.apply command).layout := by
  cases command with
  | workspace name => exact step.tracks_focusNamed name
  | mark name =>
    simp only [Layout.apply]
    split
    · exact step.tracks_nil
    · refine InStep.tracks_nil ?_
      exact step.of_same rfl rfl rfl
  | unmark name =>
    cases name <;> refine InStep.tracks_nil ?_ <;> exact step.of_same rfl rfl rfl
  | mode name =>
    have mode : (mirror.replay [.mode name]).InStep { layout with mode := name } := by
      rw [replay_cons]
      exact step.of_same rfl rfl rfl
    exact ⟨mode, mirror.orderly_mode name⟩
  | nop => exact step.tracks_nil

theorem InStep.tracks_runParts (step : mirror.InStep layout) (parts : List (List Char)) :
    mirror.Tracks (layout.runParts parts).changes (layout.runParts parts).layout := by
  induction parts generalizing layout mirror with
  | nil => exact step.tracks_nil
  | cons part parts ih =>
    unfold Layout.runParts
    cases Command.read part with
    | error error => exact ih step
    | ok command =>
      have first := step.tracks_apply command
      exact first.append (ih first.inStep)

end Mirror

/-- What is published while one command text after another is run. -/
def Layout.log (layout : Layout) : List (List Char) → List Change
  | [] => []
  | text :: rest => (layout.run text).changes ++ (layout.run text).layout.log rest

theorem Mirror.InStep.tracks_runAll {mirror : Mirror} {layout : Layout}
    (step : mirror.InStep layout) (texts : List (List Char)) :
    mirror.Tracks (layout.log texts) (layout.runAll texts) := by
  induction texts generalizing layout mirror with
  | nil => exact step.tracks_nil
  | cons text texts ih =>
    have first := step.tracks_runParts (Command.parts text)
    exact first.append (ih first.inStep)

namespace Layout

def mirror (layout : Layout) : Mirror :=
  ⟨layout.outputReplies, layout.workspaceReplies⟩

theorem calm_fill {workspaces : List Workspace}
    (calm : ∀ workspace ∈ workspaces, workspace.urgent = false) (index : Nat)
    (outputs : List Output) :
    ∀ workspace ∈ (fill index workspaces outputs).2, workspace.urgent = false := by
  fun_induction fill index workspaces outputs with
  | case1 => exact calm
  | case2 index workspaces output rest shown found outputs all rests ih =>
    rw [rests] at ih
    exact ih calm
  | case3 index workspaces output rest unshown added outputs all rests ih =>
    rw [rests] at ih
    refine ih (fun workspace member => ?_)
    rcases List.mem_append.1 member with old | new
    · exact calm workspace old
    · rw [List.mem_singleton.1 new]

theorem inStep_ofConfig {config : Config} (distinct : (config.outputs.map OutputConfig.name).Nodup) :
    (ofConfig config).mirror.InStep (ofConfig config) := by
  refine ⟨sound_ofConfig config, ?_, ?_, ?_, rfl⟩
  · have names : (ofConfig config).outputs.map Output.name =
        (outputsOf config.outputs).map Output.name := names_fill 0 _ _
    rw [names]
    unfold outputsOf
    split
    · exact List.nodup_singleton _
    · rw [List.map_map]
      exact distinct
  · refine calm_fill (fun workspace member => ?_) 0 _
    obtain ⟨given, _, rfl⟩ := List.mem_map.1 member
    rfl
  · rw [mirror, outputReplies, List.map_map]
    rfl

/-- Whatever commands are run, an observer that asked at the start and goes by the published events has
the list of workspaces that it would be answered, also between two commands of a text; and what is
published tells each time which workspace had the focus before, and gives the focus to a workspace
right after it is opened. -/
theorem mirror_in_step (config : Config) (distinct : (config.outputs.map OutputConfig.name).Nodup)
    (texts : List (List Char)) :
    ((ofConfig config).mirror.replay ((ofConfig config).log texts)).workspaces =
        ((ofConfig config).runAll texts).workspaceReplies ∧
      (∀ parts, ((ofConfig config).mirror.replay ((ofConfig config).log texts ++
          (((ofConfig config).runAll texts).runParts parts).changes)).workspaces =
        (((ofConfig config).runAll texts).runParts parts).layout.workspaceReplies) ∧
      (ofConfig config).mirror.Orderly ((ofConfig config).log texts) := by
  have whole := (inStep_ofConfig distinct).tracks_runAll texts
  refine ⟨whole.inStep.workspaces, fun parts => ?_, whole.orderly⟩
  exact (whole.append (whole.inStep.tracks_runParts parts)).inStep.workspaces

theorem mirror_in_step_of_tour :
    (twoOutputs.outputs.map OutputConfig.name).Nodup ∧
      ((ofConfig twoOutputs).mirror.replay ((ofConfig twoOutputs).log tour)).workspaces =
        ((ofConfig twoOutputs).runAll tour).workspaceReplies ∧
      (ofConfig twoOutputs).mirror.Orderly ((ofConfig twoOutputs).log tour) :=
  have distinct : (twoOutputs.outputs.map OutputConfig.name).Nodup := by decide
  have kept := mirror_in_step twoOutputs distinct tour
  ⟨distinct, kept.1, kept.2.2⟩

example : ((ofConfig twoOutputs).mirror.replay ((ofConfig twoOutputs).log tour)).workspaces.map
    (fun reply => (reply.name, reply.output, reply.visible, reply.focused)) =
      [("2: web", "right", true, true), ("1", "left", false, false),
        ("mail", "left", true, false)] := by
  decide +kernel

end Layout

end TileServer
