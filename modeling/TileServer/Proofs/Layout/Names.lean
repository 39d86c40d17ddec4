import Mathlib.Data.List.TakeWhile
import TileServer.Proofs.Config.Accepted
import TileServer.Proofs.Layout.Views
import TileServer.Proofs.Text.Numeral

namespace TileServer.Layout

def names (layout : Layout) : List String :=
  layout.roster.map Prod.fst

/-- Every workspace is found by its name, and no two outputs report the same one. -/
structure Identified (layout : Layout) : Prop where
  distinct : (layout.workspaceReplies.map WorkspaceReply.name).Nodup
  reached : ∀ index reply, layout.workspaceReplies[index]? = some reply →
    (layout.focusNamed reply.name).layout.focused = some index
  apart : (layout.outputReplies.map OutputReply.currentWorkspace).Nodup

theorem names_eq (layout : Layout) : layout.names = layout.workspaces.map Workspace.name := by
  rw [names, roster, List.map_map]
  rfl

theorem getElem?_names (layout : Layout) (index : Nat) :
    layout.names[index]? = layout.workspaces[index]?.map Workspace.name := by
  rw [names_eq, List.getElem?_map]

theorem names_workspaceReplies (layout : Layout) :
    layout.workspaceReplies.map WorkspaceReply.name = layout.names := by
  apply List.ext_getElem?
  intro index
  rw [List.getElem?_map, getElem?_workspaceReplies, Option.map_map, getElem?_names]
  rfl

theorem workspaceNumber?_toString {number : Nat} (fits : number ≤ maxWorkspaceNumber) :
    workspaceNumber? (toString number) = some number := by
  have digits : ∀ c ∈ Numeral.ofNat number, c.isDigit = true := fun c => Numeral.isDigit_of_mem_ofNat
  have text : (toString number).toList = Numeral.ofNat number := by
    rw [Nat.toString_eq_ofList_toDigits, String.toList_ofList, Numeral.ofNat]
  unfold workspaceNumber?
  rw [text, List.takeWhile_eq_self_iff.2 digits, Numeral.natural_ofNat fits]

theorem find?_nextFreeNumber (workspaces : List Workspace) :
    (List.range' 1 (workspaces.length + 1)).find?
        (fun number => !(workspaces.filterMap Workspace.number?).contains number) =
      some (nextFreeNumber workspaces) := by
  have chosen : nextFreeNumber workspaces = ((List.range' 1 (workspaces.length + 1)).find?
      (fun number => !(workspaces.filterMap Workspace.number?).contains number)).getD 1 := rfl
  cases found : (List.range' 1 (workspaces.length + 1)).find?
      (fun number => !(workspaces.filterMap Workspace.number?).contains number) with
  | some number => rw [chosen, found, Option.getD_some]
  | none =>
    have taken : List.range' 1 (workspaces.length + 1) ⊆ workspaces.filterMap Workspace.number? := by
      intro number member
      simpa using List.find?_eq_none.1 found number member
    have count := (List.nodup_range' 1).length_le_of_subset taken
    have bound := List.length_filterMap_le Workspace.number? workspaces
    rw [List.length_range'] at count
    omega

theorem nextFreeNumber_free (workspaces : List Workspace) :
    nextFreeNumber workspaces ≤ workspaces.length + 1 ∧
      nextFreeNumber workspaces ∉ workspaces.filterMap Workspace.number? := by
  obtain ⟨free, within, _⟩ := List.find?_range'_eq_some.1 (find?_nextFreeNumber workspaces)
  have bounds := List.mem_range'_1.1 within
  exact ⟨by omega, by simpa using free⟩

theorem nextFreeNumber_fresh {workspaces : List Workspace}
    (room : workspaces.length < maxWorkspaceNumber) :
    toString (nextFreeNumber workspaces) ∉ workspaces.map Workspace.name := by
  obtain ⟨bound, free⟩ := nextFreeNumber_free workspaces
  intro taken
  obtain ⟨workspace, member, same⟩ := List.mem_map.1 taken
  apply free
  refine List.mem_filterMap.2 ⟨workspace, member, ?_⟩
  rw [Workspace.number?, same]
  exact workspaceNumber?_toString (by omega)

theorem nodup_concat {items : List α} {item : α} (fresh : item ∉ items) :
    (items ++ [item]).Nodup ↔ items.Nodup := by
  rw [← List.concat_eq_append, List.nodup_concat]
  exact ⟨And.right, fun distinct => ⟨fresh, distinct⟩⟩

theorem nodup_fill {index : Nat} {workspaces : List Workspace} {outputs : List Output}
    (room : workspaces.length + outputs.length ≤ maxWorkspaceNumber) :
    ((fill index workspaces outputs).2.map Workspace.name).Nodup ↔
      (workspaces.map Workspace.name).Nodup := by
  fun_induction fill index workspaces outputs with
  | case1 => exact Iff.rfl
  | case2 index workspaces output rest shown found outputs all rests ih =>
    rw [rests] at ih
    rw [List.length_cons] at room
    exact ih (by omega)
  | case3 index workspaces output rest unshown added outputs all rests ih =>
    rw [rests] at ih
    rw [List.length_cons] at room
    rw [ih (by rw [List.length_append, List.length_singleton]; omega), List.map_append]
    exact nodup_concat (nextFreeNumber_fresh (by omega))

theorem length_outputsOf_le (outputs : List OutputConfig) :
    (outputsOf outputs).length ≤ outputs.length + 1 := by
  unfold outputsOf
  split
  · exact Nat.le_add_left 1 _
  · rw [List.length_map]
    exact Nat.le_succ _

theorem map_name_place (outputs : List Output) (workspaces : List WorkspaceConfig) :
    (workspaces.map (place outputs)).map Workspace.name = workspaces.map WorkspaceConfig.name := by
  rw [List.map_map]
  rfl

theorem nodup_ofConfig {config : Config}
    (room : config.workspaces.length + config.outputs.length < maxWorkspaceNumber) :
    (ofConfig config).names.Nodup ↔ (config.workspaces.map WorkspaceConfig.name).Nodup := by
  have length := length_outputsOf_le config.outputs
  rw [names_eq, ← map_name_place (outputsOf config.outputs) config.workspaces]
  exact nodup_fill (by rw [List.length_map]; omega)

theorem findIdx?_eq_idxOf? (layout : Layout) (name : String) :
    layout.workspaces.findIdx? (fun workspace => workspace.name == name) =
      layout.names.idxOf? name := by
  rw [names_eq, List.idxOf?, List.findIdx?_map]
  rfl

theorem roster_focusAt (layout : Layout) (index : Nat) (changes : List Change) :
    (layout.focusAt index changes).layout.roster = layout.roster := by
  unfold focusAt
  split
  · rfl
  · split
    · rfl
    · exact roster_focusOn layout index _

theorem roster_focusNamed (layout : Layout) (name : String) :
    (layout.focusNamed name).layout.roster =
      layout.roster ++ if name ∈ layout.names then [] else [(name, layout.focusedOutput)] := by
  unfold focusNamed
  rw [findIdx?_eq_idxOf?]
  split
  · rename_i index found
    have known : name ∈ layout.names := List.isSome_idxOf?.1 (Option.isSome_of_eq_some found)
    rw [roster_focusAt, if_pos known, List.append_nil]
  · rename_i unknown
    rw [roster_focusAt, if_neg (List.idxOf?_eq_none_iff.1 unknown)]
    exact roster_opened layout name

theorem names_focusNamed (layout : Layout) (name : String) :
    (layout.focusNamed name).layout.names =
      layout.names ++ if name ∈ layout.names then [] else [name] := by
  rw [names, roster_focusNamed, List.map_append, names]
  split <;> rfl

theorem nodup_focusNamed (layout : Layout) (name : String) :
    (layout.focusNamed name).layout.names.Nodup ↔ layout.names.Nodup := by
  rw [names_focusNamed]
  split
  · rw [List.append_nil]
  · rename_i fresh
    exact nodup_concat fresh

theorem nodup_apply (layout : Layout) (command : Command) :
    (layout.apply command).layout.names.Nodup ↔ layout.names.Nodup := by
  cases command with
  | workspace name => exact layout.nodup_focusNamed name
  | mark name =>
    simp only [apply]
    split <;> exact Iff.rfl
  | unmark name => cases name <;> exact Iff.rfl
  | mode name => exact Iff.rfl
  | nop => exact Iff.rfl

theorem nodup_runParts (layout : Layout) (parts : List (List Char)) :
    (layout.runParts parts).layout.names.Nodup ↔ layout.names.Nodup := by
  induction parts generalizing layout with
  | nil => exact Iff.rfl
  | cons part parts ih =>
    unfold runParts
    cases Command.read part with
    | error error => exact ih layout
    | ok command => exact (ih _).trans (layout.nodup_apply command)

theorem nodup_runAll (layout : Layout) (texts : List (List Char)) :
    (layout.runAll texts).names.Nodup ↔ layout.names.Nodup := by
  induction texts generalizing layout with
  | nil => exact Iff.rfl
  | cons text texts ih => exact (ih _).trans (layout.nodup_runParts (Command.parts text))

variable {layout : Layout}

theorem focused_focusAt {index : Nat} (inside : index < layout.workspaces.length)
    (changes : List Change) : (layout.focusAt index changes).layout.focused = some index := by
  unfold focusAt
  split
  · assumption
  · rw [List.getElem?_eq_getElem inside]
    rfl

theorem focused_focusNamed (distinct : layout.names.Nodup) {index : Nat} {workspace : Workspace}
    (here : layout.workspaces[index]? = some workspace) :
    (layout.focusNamed workspace.name).layout.focused = some index := by
  obtain ⟨inside, rfl⟩ := List.getElem?_eq_some_iff.1 here
  have found : layout.workspaces.findIdx? (fun other => other.name == layout.workspaces[index].name) =
      some index := by
    refine List.findIdx?_eq_some_iff_getElem.2 ⟨inside, beq_self_eq_true _, fun before earlier same => ?_⟩
    have equal : layout.names[before]? = layout.names[index]? := by
      rw [getElem?_names, getElem?_names, List.getElem?_eq_getElem (earlier.trans inside),
        List.getElem?_eq_getElem inside, Option.map_some, Option.map_some, beq_iff_eq.1 same]
    rw [names_eq] at equal distinct
    have bound : before < (layout.workspaces.map Workspace.name).length := by
      rw [List.length_map]
      omega
    exact earlier.ne ((List.getElem?_inj bound distinct).1 equal)
  rw [focusNamed, found]
  exact focused_focusAt inside []

theorem currentWorkspace_eq {place index : Nat} (onShow : layout.OnShow place index) :
    (layout.outputReplies.map OutputReply.currentWorkspace)[place]? = some layout.names[index]? := by
  obtain ⟨output, there, current⟩ := shows_iff.1 onShow.shown
  rw [List.getElem?_map, outputReplies, List.getElem?_map, there, getElem?_names]
  simp only [Option.map_some, outputReply, current, Option.bind_some]

theorem Sound.apart (sound : layout.Sound) (distinct : layout.names.Nodup) :
    (layout.outputReplies.map OutputReply.currentWorkspace).Nodup := by
  rw [List.nodup_iff_getElem?_ne_getElem?]
  intro place other less bound same
  rw [List.length_map, outputReplies, List.length_map] at bound
  obtain ⟨index, onShow⟩ := sound.current place (less.trans bound)
  obtain ⟨index', onShow'⟩ := sound.current other bound
  rw [currentWorkspace_eq onShow, currentWorkspace_eq onShow', Option.some.injEq] at same
  have inside : index < layout.names.length := by
    have placed := (List.getElem?_eq_some_iff.1 onShow.placed).1
    rw [places, List.length_map] at placed
    rwa [names, List.length_map]
  have equal := (List.getElem?_inj inside distinct).1 same
  have alike := onShow.placed.symm.trans (equal ▸ onShow'.placed)
  exact less.ne (Option.some.inj alike)

theorem Sound.identified_iff (sound : layout.Sound) : layout.Identified ↔ layout.names.Nodup := by
  refine ⟨fun identified => names_workspaceReplies layout ▸ identified.distinct, fun distinct => ?_⟩
  refine ⟨(names_workspaceReplies layout).symm ▸ distinct, ?_, sound.apart distinct⟩
  intro index reply listed
  rw [getElem?_workspaceReplies] at listed
  obtain ⟨workspace, here, rfl⟩ := Option.map_eq_some_iff.1 listed
  exact focused_focusNamed distinct here

/-- Whatever commands are run, and also between two commands of a text, names identify workspaces
exactly if those of the configuration are distinct. Distinct numbers are found as long as there are not
more workspaces than numbers. -/
theorem names_identify (config : Config)
    (room : config.workspaces.length + config.outputs.length < maxWorkspaceNumber)
    (texts parts : List (List Char)) :
    (((ofConfig config).runAll texts).runParts parts).layout.Identified ↔
      (config.workspaces.map WorkspaceConfig.name).Nodup := by
  have sound := (((sound_ofConfig config).runAll texts).sound.runParts parts).sound
  rw [sound.identified_iff, nodup_runParts, nodup_runAll, nodup_ofConfig room]

theorem names_identify_of_tour :
    twoOutputs.workspaces.length + twoOutputs.outputs.length < maxWorkspaceNumber ∧
      ((ofConfig twoOutputs).runAll tour).Identified :=
  have room : twoOutputs.workspaces.length + twoOutputs.outputs.length < maxWorkspaceNumber := by
    decide
  ⟨room, (names_identify twoOutputs room tour []).2 (by decide)⟩

def shared : String :=
  "output \"A\"\noutput \"B\"\n" ++
    "workspace \"1\" \x7b\n output \"A\"\n\x7d\nworkspace \"1\" \x7b\n output \"B\"\n\x7d"

def sharedConfig : Config where
  outputs := [{ name := "A" }, { name := "B" }]
  workspaces := [{ name := "1", output := some "A" }, { name := "1", output := some "B" }]

/-- The configuration is accepted. Its second workspace is listed, but not found by its name, and both
outputs report the same one. -/
theorem shared_not_identified :
    (Config.ofText none shared).accepted? = some sharedConfig ∧
      ¬ ((ofConfig sharedConfig).workspaceReplies.map WorkspaceReply.name).Nodup ∧
      ((ofConfig sharedConfig).focusNamed "1").layout.focused = some 0 ∧
      (ofConfig sharedConfig).outputReplies.map OutputReply.currentWorkspace = [some "1", some "1"] := by
  decide +kernel

end TileServer.Layout
