import TileServer.Proofs.Layout.Names
import TileServer.Proofs.Layout.Parts
import TileServer.Proofs.Server.Layouts

namespace TileServer

open Relation

/-- A name that a command text can hold as it is. -/
structure WellNamed (name : String) : Prop where
  nonempty : name ≠ ""
  unseparated : name.toList.any Command.isSeparator = false
  spaced : Text.joined (Text.words name.toList) = name.toList

theorem WellNamed.words_ne_nil {name : String} (wellNamed : WellNamed name) :
    Text.words name.toList ≠ [] := by
  intro wordless
  apply wellNamed.nonempty
  rw [← String.toList_eq_nil_iff, ← wellNamed.spaced, wordless]
  rfl

theorem wellNamed_joined {items : List (List Char)} (nonempty : items ≠ [])
    (filled : ∀ item ∈ items, item ≠ []) (whole : ∀ item ∈ items, ∀ c ∈ item, Text.isBlank c = false)
    (unseparated : ∀ item ∈ items, ∀ c ∈ item, Command.isSeparator c = false) :
    WellNamed (String.ofList (Text.joined items)) := by
  have rejoined : Text.words (Text.joined items) = items := Text.words_joined filled whole
  refine ⟨?_, ?_, ?_⟩
  · intro empty
    rw [← String.toList_eq_nil_iff, String.toList_ofList] at empty
    rw [empty] at rejoined
    exact nonempty rejoined.symm
  · rw [String.toList_ofList, List.any_eq_false]
    intro c member
    rw [Bool.not_eq_true]
    rcases Text.mem_joined member with rfl | ⟨item, there, inside⟩
    · rfl
    · exact unseparated item there c inside
  · rw [String.toList_ofList, rejoined]

theorem unseparated_of_isDigit {c : Char} (digit : c.isDigit = true) :
    Command.isSeparator c = false := by
  by_contra separates
  rw [Bool.not_eq_false, Command.isSeparator, Bool.or_eq_true, beq_iff_eq, beq_iff_eq] at separates
  rcases separates with rfl | rfl <;> cases digit

/-- The digits of a number are one word. -/
theorem wellNamed_toString (number : Nat) : WellNamed (toString number) := by
  have text : toString number = String.ofList (Text.joined [Numeral.ofNat number]) := by
    rw [Nat.toString_eq_ofList_toDigits, Text.joined, List.intercalate_singleton, Numeral.ofNat]
  have plain : ∀ c ∈ Numeral.ofNat number, Text.isBlank c = false ∧ Command.isSeparator c = false := by
    intro c member
    have digit := Numeral.isDigit_of_mem_ofNat member
    exact ⟨Text.not_blank_of_isDigit digit, unseparated_of_isDigit digit⟩
  rw [text]
  refine wellNamed_joined (List.cons_ne_nil _ _) ?_ ?_ ?_ <;> rw [List.forall_mem_singleton]
  · exact Nat.toDigits_ne_nil
  · exact fun c member => (plain c member).1
  · exact fun c member => (plain c member).2

namespace Command

theorem unmarked_of_spells {marks : Char → Bool} {keyword text : List Char}
    (fixed : ∀ c, marks c = true → Text.lowercase c = c) (plain : keyword.any marks = false)
    (spelled : Text.spells keyword text = true) : ∀ c ∈ text, marks c = false := by
  intro c member
  by_contra marked
  rw [Bool.not_eq_false] at marked
  have there : Text.lowercase c ∈ keyword := beq_iff_eq.1 spelled ▸ List.mem_map_of_mem member
  rw [fixed c marked] at there
  exact List.any_eq_false.1 plain c there marked

theorem lowercase_of_isBlank (c : Char) (blank : Text.isBlank c = true) : Text.lowercase c = c := by
  have capital : ¬ (c.val ≥ 'A'.val ∧ c.val ≤ 'Z'.val) := by
    rintro ⟨low, high⟩
    have low : 0x41 ≤ c.toNat := low
    have high : c.toNat ≤ 0x5a := high
    simp [Text.isBlank] at blank
    omega
  have kelvin : ¬ (c.toNat == 0x212a) = true := by
    intro same
    rw [Text.isBlank, beq_iff_eq.1 same] at blank
    exact absurd blank (by decide)
  rw [Text.lowercase, if_neg kelvin]
  exact dif_neg capital

theorem lowercase_of_isSeparator (c : Char) (separates : isSeparator c = true) :
    Text.lowercase c = c := by
  rw [isSeparator, Bool.or_eq_true, beq_iff_eq, beq_iff_eq] at separates
  rcases separates with rfl | rfl <;> rfl

theorem parts_of_unseparated {text : List Char} (unseparated : ∀ c ∈ text, isSeparator c = false)
    (worded : Text.words text ≠ []) : parts text = [Text.trim text] := by
  rw [parts, Text.pieces_of_none unseparated, List.map_singleton]
  refine List.filter_cons_of_pos ?_
  rw [Bool.not_eq_true', ← Bool.not_eq_true, List.isEmpty_iff]
  intro empty
  rw [← Text.words_trim, empty] at worded
  exact worded rfl

theorem unseparated_of_mem_parts {text part : List Char} (member : part ∈ parts text) :
    ∀ c ∈ part, isSeparator c = false := by
  obtain ⟨piece, cut, rfl⟩ := List.mem_map.1 (List.mem_of_mem_filter member)
  exact fun c inside => Text.whole_of_mem_pieces cut c (Text.mem_of_mem_trim inside)

theorem read_eq_workspace {part : List Char} {name : String}
    (reads : read part = .ok (.workspace name)) :
    ∃ verb rest, Text.words part = verb :: rest ∧ rest ≠ [] ∧
      name = String.ofList (Text.joined rest) := by
  unfold read at reads
  split at reads
  · cases reads
  · rename_i verb rest worded
    refine ⟨verb, rest, worded, ?_⟩
    split at reads
    · obtain ⟨nonempty, same⟩ := named_eq_ok reads
      exact ⟨nonempty, Command.workspace.inj same⟩
    -- No other verb makes a command that moves the focus.
    · split at reads
      · cases (named_eq_ok reads).2
      · split at reads
        · split at reads <;> cases reads
        · split at reads
          · cases (named_eq_ok reads).2
          · split at reads <;> cases reads

theorem wellNamed_of_read {text part : List Char} {name : String} (member : part ∈ parts text)
    (reads : read part = .ok (.workspace name)) : WellNamed name := by
  obtain ⟨verb, rest, worded, nonempty, rfl⟩ := read_eq_workspace reads
  have inside : ∀ word ∈ rest, word ∈ Text.words part := by
    intro word there
    rw [worded]
    exact List.mem_cons_of_mem _ there
  refine wellNamed_joined nonempty ?_ ?_ ?_
  · exact fun word there => Text.ne_nil_of_mem_words (inside word there)
  · exact fun word there => Text.not_blank_of_mem_words (inside word there)
  · exact fun word there c own =>
      unseparated_of_mem_parts member c (Text.mem_of_mem_words (inside word there) own)

theorem parts_workspace {verb : List Char} {name : String}
    (spelled : Text.spells "workspace".toList verb = true) (wellNamed : WellNamed name) :
    ∃ part, parts (verb ++ ' ' :: name.toList) = [part] ∧ read part = .ok (.workspace name) := by
  have filled : verb ≠ [] := by
    rintro rfl
    cases spelled
  have unblank : ∀ c ∈ verb, Text.isBlank c = false :=
    unmarked_of_spells lowercase_of_isBlank (by decide) spelled
  have whole : ∀ c ∈ verb, isSeparator c = false :=
    unmarked_of_spells lowercase_of_isSeparator (by decide) spelled
  have worded : Text.words (verb ++ ' ' :: name.toList) = verb :: Text.words name.toList := by
    rw [Text.words_append _ _ rfl, Text.words_of_whole filled unblank]
    rfl
  have unseparated : ∀ c ∈ verb ++ ' ' :: name.toList, isSeparator c = false := by
    rw [List.forall_mem_append, List.forall_mem_cons]
    exact ⟨whole, rfl, fun c member =>
      (Bool.not_eq_true _).mp (List.any_eq_false.1 wellNamed.unseparated c member)⟩
  refine ⟨_, parts_of_unseparated unseparated (worded ▸ List.cons_ne_nil _ _), ?_⟩
  have argument : String.ofList (Text.joined (Text.words name.toList)) = name := by
    rw [wellNamed.spaced, String.ofList_toList]
  unfold read
  rw [Text.words_trim, worded]
  simp only
  rw [if_pos spelled]
  cases items : Text.words name.toList with
  | nil => exact absurd items wellNamed.words_ne_nil
  | cons item rest =>
    rw [items] at argument
    exact congrArg (fun name => Except.ok (workspace name)) argument

end Command

namespace Layout

/-- What comes of a command that moves the focus to the first workspace of a name. -/
structure Focuses (before : Layout) (name : String) (outcome : Outcome) : Prop where
  succeeds : outcome.results = [.ok]
  focused : outcome.layout.focusedWorkspace?.map Workspace.name = some name
  opened : ∃ previous, before.focusedWorkspace? = some previous ∧
    outcome.layout.roster =
      before.roster ++ if name ∈ before.names then [] else [(name, previous.output)]
  render : outcome.needsRender = true ↔ before.focused ≠ before.names.idxOf? name

variable {layout : Layout}

theorem name_focusedWorkspace? (layout : Layout) :
    layout.focusedWorkspace?.map Workspace.name =
      layout.focused.bind (fun index => layout.names[index]?) := by
  rw [focusedWorkspace?, Option.map_bind]
  congr 1
  funext index
  rw [Function.comp_apply, getElem?_names]

theorem moved_focusAt {index : Nat} (inside : index < layout.workspaces.length)
    (changes : List Change) :
    (layout.focusAt index changes).moved = true ↔ layout.focused ≠ some index := by
  unfold focusAt
  split
  · rename_i focused
    exact iff_of_false nofun (fun other => other focused)
  · rename_i unfocused
    rw [List.getElem?_eq_getElem inside]
    exact iff_of_true rfl unfocused

theorem length_names (layout : Layout) : layout.names.length = layout.workspaces.length := by
  rw [names_eq, List.length_map]

theorem lt_opened (layout : Layout) (name : String) :
    layout.workspaces.length < (layout.opened name).workspaces.length := by
  rw [opened, List.length_append, List.length_singleton]
  exact Nat.lt_succ_self _

theorem focused_focusNamed_eq (layout : Layout) (name : String) :
    (layout.focusNamed name).layout.focused = some (layout.names.idxOf name) := by
  unfold focusNamed
  rw [findIdx?_eq_idxOf?]
  split
  · rename_i index found
    obtain ⟨inside, same⟩ := List.findIdx?_eq_some_iff_findIdx_eq.1 found
    rw [length_names] at inside
    rw [focused_focusAt inside, List.idxOf, same]
  · rename_i unknown
    rw [List.idxOf_eq_length_iff.2 (List.idxOf?_eq_none_iff.1 unknown), length_names]
    exact focused_focusAt (layout.lt_opened name) _

theorem Sound.lt_of_focused (sound : layout.Sound) {index : Nat} (focused : layout.focused = some index) :
    index < layout.workspaces.length := by
  obtain ⟨place, other, focused', _, placed⟩ := sound.focused
  obtain ⟨workspace, here, _⟩ := getElem?_places.1 placed
  rw [focused, Option.some.injEq] at focused'
  subst focused'
  exact (List.getElem?_eq_some_iff.1 here).1

theorem Sound.moved_focusNamed (sound : layout.Sound) (name : String) :
    (layout.focusNamed name).moved = true ↔ layout.focused ≠ layout.names.idxOf? name := by
  unfold Layout.focusNamed
  rw [findIdx?_eq_idxOf?]
  split
  · rename_i index found
    have inside := (List.findIdx?_eq_some_iff_findIdx_eq.1 found).1
    rw [length_names] at inside
    rw [moved_focusAt inside, found]
  · -- The new workspace is behind all that can have the focus.
    rename_i unknown
    obtain ⟨_, index, focused, _⟩ := sound.focused
    have behind : layout.focused ≠ some layout.workspaces.length :=
      fun last => Nat.lt_irrefl _ (sound.lt_of_focused last)
    refine iff_of_true ((moved_focusAt (layout.lt_opened name) _).2 behind) ?_
    rw [focused, unknown]
    exact nofun

theorem name_focusNamed (layout : Layout) (name : String) :
    (layout.focusNamed name).layout.focusedWorkspace?.map Workspace.name = some name := by
  rw [name_focusedWorkspace?, focused_focusNamed_eq, names_focusNamed, Option.bind_some]
  split
  · rename_i known
    rw [List.append_nil]
    exact List.getElem?_idxOf known
  · rename_i unknown
    rw [List.idxOf_eq_length_iff.2 unknown]
    exact List.getElem?_concat_length

theorem run_workspace (layout : Layout) {verb : List Char} {name : String}
    (spelled : Text.spells "workspace".toList verb = true) (wellNamed : WellNamed name) :
    layout.run (verb ++ ' ' :: name.toList) =
      ⟨(layout.focusNamed name).layout, [.ok], (layout.focusNamed name).moved,
        (layout.focusNamed name).changes⟩ := by
  obtain ⟨part, single, reads⟩ := Command.parts_workspace spelled wellNamed
  rw [run, single, runParts, reads]
  simp only [runParts, apply, Bool.or_false, List.append_nil]

theorem Sound.focuses (sound : layout.Sound) {verb : List Char} {name : String}
    (spelled : Text.spells "workspace".toList verb = true) (wellNamed : WellNamed name) :
    layout.Focuses name (layout.run (verb ++ ' ' :: name.toList)) := by
  rw [run_workspace layout spelled wellNamed]
  obtain ⟨place, index, focused, _, placed⟩ := sound.focused
  obtain ⟨previous, here, _⟩ := getElem?_places.1 placed
  have first : layout.focusedWorkspace? = some previous := by
    rw [focusedWorkspace?, focused, Option.bind_some, here]
  refine ⟨rfl, name_focusNamed layout name, ⟨previous, first, ?_⟩, sound.moved_focusNamed name⟩
  rw [roster_focusNamed, Layout.focusedOutput, first]

/-- Names with well-formed ones behind some that came first. While there is room, new ones are told
apart from all before them. -/
inductive Grown (room : Prop) (first : List String) : List String → Prop
  | start : Grown room first first
  | added {names : List String} {name : String} (grown : Grown room first names)
    (wellNamed : WellNamed name) (fresh : room → name ∉ names) : Grown room first (names ++ [name])

section

variable {room : Prop} {first names : List String}

theorem Grown.exists_added (grown : Grown room first names) :
    ∃ added, names = first ++ added ∧ ∀ name ∈ added, WellNamed name := by
  induction grown with
  | start => exact ⟨[], (List.append_nil _).symm, List.forall_mem_nil _⟩
  | added _ wellNamed _ ih =>
    obtain ⟨added, rfl, others⟩ := ih
    refine ⟨added ++ [_], List.append_assoc .., ?_⟩
    exact List.forall_mem_append.2 ⟨others, List.forall_mem_singleton.2 wellNamed⟩

theorem Grown.kept (grown : Grown room first names) : first <+: names := by
  obtain ⟨added, rfl, _⟩ := grown.exists_added
  exact List.prefix_append _ _

theorem Grown.wellNamed (grown : Grown room first names) {index : Nat} {name : String}
    (behind : first.length ≤ index) (here : names[index]? = some name) : WellNamed name := by
  obtain ⟨added, rfl, wellNamed⟩ := grown.exists_added
  rw [List.getElem?_append_right behind] at here
  exact wellNamed name (List.mem_of_getElem? here)

theorem Grown.idxOf_eq (grown : Grown room first names) (enough : room) {index : Nat} {name : String}
    (behind : first.length ≤ index) (here : names[index]? = some name) : names.idxOf name = index := by
  induction grown with
  | start =>
    rw [List.getElem?_eq_none behind] at here
    cases here
  | @added names last grown wellNamed fresh ih =>
    rcases Nat.lt_trichotomy index names.length with before | rfl | outside
    · rw [List.getElem?_append_left before] at here
      rw [List.idxOf_append_of_mem (List.mem_of_getElem? here)]
      exact ih here
    · rw [List.getElem?_concat_length, Option.some.injEq] at here
      subst here
      rw [List.idxOf_append_of_notMem (fresh enough), List.idxOf_cons_self, Nat.add_zero]
    · rw [List.getElem?_eq_none (by rw [List.length_append, List.length_singleton]; omega)] at here
      cases here

theorem Grown.focusNamed (grown : Grown room first layout.names) {name : String}
    (wellNamed : WellNamed name) : Grown room first (layout.focusNamed name).layout.names := by
  rw [names_focusNamed]
  split
  · rwa [List.append_nil]
  · rename_i unknown
    exact grown.added wellNamed (fun _ => unknown)

theorem Grown.apply (grown : Grown room first layout.names) {command : Command}
    (wellNamed : ∀ name, command = .workspace name → WellNamed name) :
    Grown room first (layout.apply command).layout.names := by
  cases command with
  | workspace name => exact grown.focusNamed (wellNamed name rfl)
  | mark name =>
    simp only [Layout.apply]
    split <;> exact grown
  | unmark name => cases name <;> exact grown
  | mode name => exact grown
  | nop => exact grown

theorem Grown.runParts (grown : Grown room first layout.names) {text : List Char}
    {parts : List (List Char)} (within : parts ⊆ Command.parts text) :
    Grown room first (layout.runParts parts).layout.names := by
  induction parts generalizing layout with
  | nil => exact grown
  | cons part parts ih =>
    obtain ⟨here, later⟩ := List.cons_subset.1 within
    unfold Layout.runParts
    cases reads : Command.read part with
    | error error => exact ih grown later
    | ok command =>
      refine ih (grown.apply fun name same => ?_) later
      exact Command.wellNamed_of_read here (same ▸ reads)

theorem Grown.alters {before after : Layout} (grown : Grown room first before.names)
    (reached : ReflTransGen Alters before after) : Grown room first after.names := by
  induction reached with
  | refl => exact grown
  | tail _ alters ih =>
    cases alters with
    | run text => exact ih.runParts (List.Subset.refl _)
    | render => exact ih

theorem Sound.alters {before after : Layout} (sound : before.Sound)
    (reached : ReflTransGen Alters before after) : after.Sound := by
  induction reached with
  | refl => exact sound
  | tail _ alters ih =>
    cases alters with
    | run text => exact (ih.runParts (Command.parts text)).sound
    | render =>
      have same : Extends _ (Layout.render _) := ih.of_same rfl rfl rfl
      exact same.sound

theorem Grown.fill {index : Nat} {workspaces : List Workspace} {outputs : List Output}
    (grown : Grown room first (workspaces.map Workspace.name))
    (fits : room → workspaces.length + outputs.length ≤ maxWorkspaceNumber) :
    Grown room first ((fill index workspaces outputs).2.map Workspace.name) := by
  fun_induction Layout.fill index workspaces outputs with
  | case1 => exact grown
  | case2 index workspaces output rest shown found outputs all rests ih =>
    rw [rests] at ih
    refine ih grown (fun enough => ?_)
    have needed := fits enough
    rw [List.length_cons] at needed
    omega
  | case3 index workspaces output rest unshown added outputs all rests ih =>
    rw [rests] at ih
    have needed (enough : room) : workspaces.length + rest.length + 1 ≤ maxWorkspaceNumber := fits enough
    refine ih ?_ (fun enough => ?_)
    · rw [List.map_append]
      exact grown.added (wellNamed_toString _)
        (fun enough => nextFreeNumber_fresh (by have := needed enough; omega))
    · have := needed enough
      rw [List.length_append, List.length_singleton]
      omega

end

theorem grown_ofConfig (config : Config) :
    Grown (config.workspaces.length + config.outputs.length < maxWorkspaceNumber)
      (config.workspaces.map WorkspaceConfig.name) (ofConfig config).names := by
  rw [names_eq, ← map_name_place (outputsOf config.outputs) config.workspaces]
  refine Grown.start.fill (fun room => ?_)
  rw [List.length_map]
  have length := length_outputsOf_le config.outputs
  omega

/-- Whatever a server did so far, a command for a well-formed name, in whatever letter case, succeeds
and puts the focus on a workspace of that name. Only if there was none it is opened, on the output that
had the focus, and the layout is to be rendered unless the first workspace of the name had the focus.
All workspaces that are not configured have well-formed names: from now on, whatever happens, the
command finds a workspace of the name and opens none. It is the very workspace, as long as the
configuration does not need more numbers than there are. -/
theorem focused_by_name (config : Config) (layout : Layout)
    (reached : ReflTransGen Alters (ofConfig config) layout) :
    (∀ verb name, Text.spells "workspace".toList verb = true → WellNamed name →
      layout.Focuses name (layout.run (verb ++ ' ' :: name.toList))) ∧
    (∃ added, layout.names = config.workspaces.map WorkspaceConfig.name ++ added ∧
      ∀ name ∈ added, WellNamed name) ∧
    ∀ (index : Nat) (name : String), config.workspaces.length ≤ index →
      layout.names[index]? = some name → ∀ later, ReflTransGen Alters layout later →
        ∀ verb, Text.spells "workspace".toList verb = true →
          let outcome := later.run (verb ++ ' ' :: name.toList)
          later.Focuses name outcome ∧ outcome.layout.names = later.names ∧
            (config.workspaces.length + config.outputs.length < maxWorkspaceNumber →
              outcome.layout.focused = some index) := by
  have sound := (sound_ofConfig config).alters reached
  have grown := (grown_ofConfig config).alters reached
  refine ⟨fun verb name => sound.focuses, grown.exists_added, ?_⟩
  intro index name behind here later onward verb spelled
  have more : Grown True layout.names later.names := Grown.start.alters onward
  have stays : later.names[index]? = some name := getElem?_of_prefix more.kept here
  have grown' := grown.alters onward
  have behind' : (config.workspaces.map WorkspaceConfig.name).length ≤ index := by
    rwa [List.length_map]
  have wellNamed := grown'.wellNamed behind' stays
  have known : name ∈ later.names := List.mem_of_getElem? stays
  refine ⟨(sound.alters onward).focuses spelled wellNamed, ?_, fun room => ?_⟩
  · rw [run_workspace later spelled wellNamed, names_focusNamed, if_pos known, List.append_nil]
  · rw [run_workspace later spelled wellNamed, focused_focusNamed_eq,
      grown'.idxOf_eq room behind' stays]

theorem focused_by_name_of_tour :
    let layout := (ofConfig twoOutputs).runAll tour
    ReflTransGen Alters (ofConfig twoOutputs) layout ∧
      layout.Focuses "web mail" (layout.run "WORKSPACE web mail".toList) ∧
      layout.names = ["2: web", "1"] ++ ["mail"] ∧ WellNamed "mail" ∧
      (layout.render.run "Workspace mail".toList).layout.focused = some 2 := by
  intro layout
  have reached : ReflTransGen Alters (ofConfig twoOutputs) layout :=
    .tail (.tail .refl (.run _)) (.run _)
  obtain ⟨focuses, ⟨added, grown, wellNamed⟩, stays⟩ := focused_by_name twoOutputs layout reached
  have listed : layout.names = ["2: web", "1", "mail"] := by decide +kernel
  have opened : added = ["mail"] := List.append_cancel_left (grown.symm.trans listed)
  obtain ⟨_, _, found⟩ := stays 2 "mail" (by decide) (by rw [listed]; rfl) layout.render
    (.single .render) "Workspace".toList (by decide)
  refine ⟨reached, ?_, listed, ?_, found (by decide)⟩
  · exact focuses "WORKSPACE".toList "web mail" (by decide) ⟨by decide, by decide, by decide⟩
  · exact wellNamed "mail" (by rw [opened]; exact List.mem_singleton_self _)

end Layout

end TileServer
