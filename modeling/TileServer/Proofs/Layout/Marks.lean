import Mathlib.Logic.ExistsUnique
import TileServer.Proofs.Layout.Parts
import TileServer.Proofs.Layout.Places
import TileServer.Proofs.Reply.Payloads

namespace TileServer

namespace Command

def hasVerb (verb : String) (part : List Char) : Bool :=
  (Text.words part).head?.any (Text.spells verb.toList)

def arguments (part : List Char) : List (List Char) :=
  (Text.words part).tail

def argument (part : List Char) : String :=
  String.ofList (Text.joined (arguments part))

/-- Whether a part marks a name, and does not fail. -/
def adds (part : List Char) (name : String) : Bool :=
  hasVerb "mark" part && succeeds part && argument part == name

/-- Whether a part takes a mark away: the one that it names, or all if it names none. -/
def removes (part : List Char) (name : String) : Bool :=
  hasVerb "unmark" part && ((arguments part).isEmpty || argument part == name)

/-- At a place of a history a name is marked, and nothing behind it takes the mark away. -/
structure Stays (history : List (List Char)) (name : String) (place : Nat) : Prop where
  added : ∃ part, history[place]? = some part ∧ adds part name = true
  kept : ∀ later ∈ history.drop (place + 1), removes later name = false

/-- The place of the first mark of a name since the name was last absent. -/
structure MarkedSince (history : List (List Char)) (name : String) (place : Nat) : Prop where
  stays : Stays history name place
  absent : ∀ earlier, ¬ Stays (history.take place) name earlier

def MarkedBefore (history : List (List Char)) (one other : String) : Prop :=
  ∃ place later, MarkedSince history one place ∧ MarkedSince history other later ∧ place < later

/-- Marks in the order in which they came to stay. -/
structure Dated (history : List (List Char)) (marks : List String) : Prop where
  since : ∀ name ∈ marks, ∃! place, MarkedSince history name place
  ordered : marks.Pairwise (MarkedBefore history)

/-- What a history says of marks. -/
structure Recalls (history : List (List Char)) (marks : List String) : Prop
    extends Dated history marks where
  listed : ∀ name, name ∈ marks ↔ ∃ place, Stays history name place
  once : marks.Nodup

inductive Revises (part : List Char) (marks : List String) : List String → Prop
  | added {name : String} (adds : adds part name = true) (absent : name ∉ marks) :
    Revises part marks (marks ++ [name])
  | again {name : String} (adds : adds part name = true) (present : name ∈ marks) :
    Revises part marks marks
  | cut (idle : ∀ name, adds part name = false) :
    Revises part marks (marks.filter (fun name => !removes part name))

theorem hasVerb_cons {part word : List Char} {rest : List (List Char)}
    (worded : Text.words part = word :: rest) (verb : String) :
    hasVerb verb part = Text.spells verb.toList word := by
  rw [hasVerb, worded]
  rfl

theorem hasVerb_iff {verb : String} {part : List Char} :
    hasVerb verb part = true ↔
      ∃ word rest, Text.words part = word :: rest ∧ word.map Text.lowercase = verb.toList := by
  unfold hasVerb
  cases Text.words part with
  | nil => simp
  | cons word rest => simp [Text.spells]

theorem hasVerb_of_other {part : List Char} {one other : String} (verb : hasVerb one part = true)
    (differ : one ≠ other) : hasVerb other part = false := by
  by_contra both
  rw [Bool.not_eq_false] at both
  obtain ⟨word, rest, worded, lower⟩ := hasVerb_iff.1 verb
  obtain ⟨word', rest', worded', lower'⟩ := hasVerb_iff.1 both
  rw [worded] at worded'
  cases worded'
  exact differ (String.toList_inj.1 (lower.symm.trans lower'))

theorem named_of_ne_nil {verb : String} {make : String → Command} {words : List (List Char)}
    (nonempty : words ≠ []) : named verb make words = .ok (make (String.ofList (Text.joined words))) := by
  cases words with
  | nil => exact absurd rfl nonempty
  | cons word words => rfl

theorem read_of_mark {part : List Char} (verb : hasVerb "mark" part = true) :
    read part = named "mark" mark (arguments part) := by
  obtain ⟨word, rest, worded, lower⟩ := hasVerb_iff.1 verb
  simp [read, arguments, worded, Text.spells, lower]

theorem read_of_unmark {part : List Char} (verb : hasVerb "unmark" part = true) :
    read part = .ok (unmark (if arguments part = [] then none else some (argument part))) := by
  obtain ⟨word, rest, worded, lower⟩ := hasVerb_iff.1 verb
  cases rest with
  | nil => simp [read, arguments, worded, Text.spells, lower]
  | cons first rest => simp [read, arguments, argument, worded, Text.spells, lower]

theorem read_of_other {part : List Char} {command : Command} (notMark : hasVerb "mark" part = false)
    (notUnmark : hasVerb "unmark" part = false) (known : read part = .ok command) :
    (∃ name, command = workspace name) ∨ (∃ name, command = mode name) ∨ command = nop := by
  unfold read at known
  split at known
  · cases known
  · rename_i verb rest worded
    rw [hasVerb_cons worded] at notMark notUnmark
    rw [notMark, notUnmark] at known
    simp only [Bool.false_eq_true, if_false] at known
    split at known
    · exact .inl ⟨_, (named_eq_ok known).2⟩
    · split at known
      · exact .inr (.inl ⟨_, (named_eq_ok known).2⟩)
      · split at known
        · exact .inr (.inr (Except.ok.inj known).symm)
        · cases known

theorem argument_ne_empty {part : List Char} (nonempty : arguments part ≠ []) : argument part ≠ "" := by
  intro empty
  have rejoined : Text.words (Text.joined (arguments part)) = arguments part := by
    apply Text.words_joined
    · exact fun word member => Text.ne_nil_of_mem_words (List.mem_of_mem_tail member)
    · exact fun word member => Text.not_blank_of_mem_words (List.mem_of_mem_tail member)
  have nothing : Text.joined (arguments part) = [] := String.ofList_eq_empty_iff.1 empty
  rw [nothing] at rejoined
  exact nonempty rejoined.symm

theorem adds_iff {part : List Char} {name : String} :
    adds part name = true ↔
      hasVerb "mark" part = true ∧ arguments part ≠ [] ∧ argument part = name := by
  rw [adds, Bool.and_eq_true, Bool.and_eq_true, beq_iff_eq, and_assoc]
  apply and_congr_right
  intro verb
  apply and_congr_left
  intro _
  rw [succeeds, reply, read_of_mark verb]
  cases arguments part <;> simp [named, CommandReply.ok, CommandReply.failed]

theorem adds_unique {part : List Char} {name : String} (marked : adds part name = true)
    (other : String) : adds part other = true ↔ other = name := by
  obtain ⟨verb, nonempty, named⟩ := adds_iff.1 marked
  rw [adds_iff, named]
  exact ⟨fun same => same.2.2.symm, fun same => ⟨verb, nonempty, same.symm⟩⟩

theorem adds_of_other {part : List Char} (other : hasVerb "mark" part = false) (name : String) :
    adds part name = false := by
  rw [adds, other]
  rfl

theorem removes_of_other {part : List Char} (other : hasVerb "unmark" part = false) (name : String) :
    removes part name = false := by
  rw [removes, other]
  rfl

theorem removes_of_adds {part : List Char} {name : String} (added : adds part name = true)
    (other : String) : removes part other = false :=
  removes_of_other (hasVerb_of_other (adds_iff.1 added).1 (by decide)) other

variable {history : List (List Char)} {part : List Char} {name : String} {place : Nat}

theorem Stays.lt (stays : Stays history name place) : place < history.length := by
  obtain ⟨part, here, _⟩ := stays.added
  exact (List.getElem?_eq_some_iff.1 here).1

theorem stays_concat :
    Stays (history ++ [part]) name place ↔
      (place = history.length ∧ adds part name = true) ∨
        (Stays history name place ∧ removes part name = false) := by
  constructor
  · intro stays
    have bound := stays.lt
    rw [List.length_append, List.length_singleton] at bound
    obtain ⟨added, kept⟩ := stays
    -- The mark is the new part, or one before it that the new part does not take away.
    by_cases last : place = history.length
    · subst last
      rw [List.getElem?_concat_length] at added
      obtain ⟨_, same, adds⟩ := added
      cases same
      exact .inl ⟨rfl, adds⟩
    · rw [List.getElem?_append_left (by omega)] at added
      rw [List.drop_append_of_le_length (by omega), List.forall_mem_append,
        List.forall_mem_singleton] at kept
      exact .inr ⟨⟨added, kept.1⟩, kept.2⟩
  · rintro (⟨rfl, adds⟩ | ⟨stays, spared⟩)
    · refine ⟨⟨part, List.getElem?_concat_length, adds⟩, ?_⟩
      rw [List.drop_eq_nil_of_le (by simp)]
      exact List.forall_mem_nil _
    · have bound := stays.lt
      obtain ⟨added, kept⟩ := stays
      constructor
      · rw [List.getElem?_append_left bound]
        exact added
      · rw [List.drop_append_of_le_length (by omega), List.forall_mem_append,
          List.forall_mem_singleton]
        exact ⟨kept, spared⟩

theorem Stays.take (stays : Stays history name place) {bound : Nat} (before : place < bound) :
    Stays (history.take bound) name place := by
  constructor
  · rw [List.getElem?_take_of_lt before]
    exact stays.added
  · intro later member
    rw [List.drop_take] at member
    exact stays.kept later (List.mem_of_mem_take member)

theorem MarkedSince.unique {place' : Nat} (one : MarkedSince history name place)
    (other : MarkedSince history name place') : place = place' := by
  rcases Nat.lt_trichotomy place place' with less | same | more
  · exact absurd (one.stays.take less) (other.absent place)
  · exact same
  · exact absurd (other.stays.take more) (one.absent place')

theorem MarkedSince.existsUnique (since : MarkedSince history name place) :
    ∃! place, MarkedSince history name place :=
  ⟨place, since, fun _ other => other.unique since⟩

theorem MarkedSince.concat (since : MarkedSince history name place)
    (spared : removes part name = false) : MarkedSince (history ++ [part]) name place := by
  constructor
  · exact stays_concat.2 (.inr ⟨since.stays, spared⟩)
  · rw [List.take_append_of_le_length (Nat.le_of_lt since.stays.lt)]
    exact since.absent

theorem markedSince_of_added (adds : adds part name = true)
    (absent : ∀ place, ¬ Stays history name place) :
    MarkedSince (history ++ [part]) name history.length := by
  constructor
  · exact stays_concat.2 (.inl ⟨rfl, adds⟩)
  · rw [List.take_left]
    exact absent

theorem Dated.sublist {marks kept : List String} (dated : Dated history marks)
    (fewer : kept.Sublist marks) : Dated history kept :=
  ⟨fun name member => dated.since name (fewer.subset member), dated.ordered.sublist fewer⟩

theorem Dated.concat {marks : List String} (dated : Dated history marks)
    (spared : ∀ name ∈ marks, removes part name = false) : Dated (history ++ [part]) marks := by
  constructor
  · intro name member
    obtain ⟨place, since, _⟩ := dated.since name member
    exact (since.concat (spared name member)).existsUnique
  · apply dated.ordered.imp_of_mem
    rintro one other member member' ⟨place, later, since, since', less⟩
    exact ⟨place, later, since.concat (spared one member), since'.concat (spared other member'), less⟩

theorem Dated.push {marks : List String} (dated : Dated history marks)
    (spared : ∀ name ∈ marks, removes part name = false)
    (last : MarkedSince (history ++ [part]) name history.length) :
    Dated (history ++ [part]) (marks ++ [name]) := by
  have others := dated.concat spared
  constructor
  · intro other member
    rcases List.mem_append.1 member with member | new
    · exact others.since other member
    · rw [List.mem_singleton.1 new]
      exact last.existsUnique
  · apply List.pairwise_append.2
    refine ⟨others.ordered, List.pairwise_singleton _ _, ?_⟩
    intro one member other new
    obtain ⟨place, since, _⟩ := dated.since one member
    rw [List.mem_singleton.1 new]
    exact ⟨place, history.length, since.concat (spared one member), last, since.stays.lt⟩

theorem recalls_nil : Recalls [] [] := by
  refine ⟨⟨List.forall_mem_nil _, List.Pairwise.nil⟩, fun name => ?_, List.nodup_nil⟩
  apply iff_of_false nofun
  rintro ⟨place, stays⟩
  exact absurd stays.lt (Nat.not_lt_zero place)

theorem exists_stays_concat :
    (∃ place, Stays (history ++ [part]) name place) ↔
      adds part name = true ∨ ((∃ place, Stays history name place) ∧ removes part name = false) := by
  constructor
  · rintro ⟨place, stays⟩
    rcases stays_concat.1 stays with ⟨_, adds⟩ | ⟨before, spared⟩
    · exact .inl adds
    · exact .inr ⟨⟨place, before⟩, spared⟩
  · rintro (adds | ⟨⟨place, before⟩, spared⟩)
    · exact ⟨history.length, stays_concat.2 (.inl ⟨rfl, adds⟩)⟩
    · exact ⟨place, stays_concat.2 (.inr ⟨before, spared⟩)⟩

theorem Recalls.revise {marks after : List String} (recalls : Recalls history marks)
    (revises : Revises part marks after) : Recalls (history ++ [part]) after := by
  obtain ⟨dated, listed, once⟩ := recalls
  cases revises with
  | @added name adds absent =>
    have spared := removes_of_adds adds
    have unmarked : ∀ place, ¬ Stays history name place :=
      fun place stays => absent ((listed name).2 ⟨place, stays⟩)
    refine ⟨dated.push (fun other _ => spared other) (markedSince_of_added adds unmarked), ?_, ?_⟩
    · intro other
      rw [exists_stays_concat, ← listed, adds_unique adds, spared, List.mem_append,
        List.mem_singleton]
      simp [or_comm]
    · exact List.nodup_append_comm.1 (List.nodup_cons.2 ⟨absent, once⟩)
  | @again name adds present =>
    -- The name was marked since an earlier place, so that this mark is not the first one.
    have spared := removes_of_adds adds
    refine ⟨dated.concat (fun other _ => spared other), fun other => ?_, once⟩
    rw [exists_stays_concat, ← listed, adds_unique adds, spared]
    constructor
    · exact fun member => .inr ⟨member, rfl⟩
    · rintro (rfl | ⟨member, _⟩)
      · exact present
      · exact member
  | cut idle =>
    refine ⟨(dated.sublist List.filter_sublist).concat ?_, fun other => ?_, once.filter _⟩
    · intro other member
      have spared := (List.mem_filter.1 member).2
      rw [Bool.not_eq_true'] at spared
      exact spared
    · rw [exists_stays_concat, ← listed, idle, List.mem_filter]
      simp

theorem Recalls.named {marks : List String} (recalls : Recalls history marks) : "" ∉ marks := by
  intro member
  obtain ⟨_, stays⟩ := (recalls.listed "").1 member
  obtain ⟨part, _, adds⟩ := stays.added
  obtain ⟨_, nonempty, empty⟩ := adds_iff.1 adds
  exact argument_ne_empty nonempty empty

theorem Revises.still {marks : List String} (idle : ∀ name, adds part name = false)
    (spared : ∀ name, removes part name = false) : Revises part marks marks := by
  have all : marks.filter (fun name => !removes part name) = marks := by
    apply List.filter_eq_self.2
    intro name _
    rw [spared]
    rfl
  have cut : Revises part marks (marks.filter (fun name => !removes part name)) := .cut idle
  rw [all] at cut
  exact cut

end Command

namespace Layout

theorem marks_focusAt (layout : Layout) (index : Nat) (changes : List Change) :
    (layout.focusAt index changes).layout.marks = layout.marks := by
  unfold focusAt
  split
  · rfl
  · split <;> rfl

theorem marks_focusNamed (layout : Layout) (name : String) :
    (layout.focusNamed name).layout.marks = layout.marks := by
  unfold focusNamed
  split
  · exact layout.marks_focusAt _ _
  · exact marks_focusAt _ _ _

theorem revises_of_mark (layout : Layout) {part : List Char}
    (verb : Command.hasVerb "mark" part = true) :
    Command.Revises part layout.marks (layout.runPart part).layout.marks := by
  have unmark : Command.hasVerb "unmark" part = false :=
    Command.hasVerb_of_other verb (by decide)
  rw [runPart, Command.read_of_mark verb]
  by_cases bare : Command.arguments part = []
  · have idle : ∀ name, Command.adds part name = false := by
      intro name
      by_contra adds
      rw [Bool.not_eq_false] at adds
      exact (Command.adds_iff.1 adds).2.1 bare
    rw [bare]
    exact .still idle (Command.removes_of_other unmark)
  · have adds : Command.adds part (Command.argument part) = true :=
      Command.adds_iff.2 ⟨verb, bare, rfl⟩
    rw [Command.named_of_ne_nil bare]
    simp only [apply, List.contains_iff_mem]
    split
    · rename_i present
      exact .again adds present
    · rename_i absent
      exact .added adds absent

theorem marks_of_unmark (layout : Layout) {part : List Char}
    (verb : Command.hasVerb "unmark" part = true) :
    (layout.runPart part).layout.marks =
      layout.marks.filter (fun name => !Command.removes part name) := by
  rw [runPart, Command.read_of_unmark verb]
  by_cases bare : Command.arguments part = []
  · simp [Command.removes, verb, bare, apply]
  · have names : ∀ name, Command.removes part name = (Command.argument part == name) := by
      intro name
      simp [Command.removes, verb, bare]
    simp [bare, apply, names, bne, BEq.comm]

theorem marks_of_other (layout : Layout) {part : List Char}
    (notMark : Command.hasVerb "mark" part = false)
    (notUnmark : Command.hasVerb "unmark" part = false) :
    (layout.runPart part).layout.marks = layout.marks := by
  unfold runPart
  split
  · rename_i command known
    rcases Command.read_of_other notMark notUnmark known with ⟨name, rfl⟩ | ⟨name, rfl⟩ | rfl
    · exact layout.marks_focusNamed name
    · rfl
    · rfl
  · rfl

theorem revises_runPart (layout : Layout) (part : List Char) :
    Command.Revises part layout.marks (layout.runPart part).layout.marks := by
  cases mark : Command.hasVerb "mark" part with
  | true => exact layout.revises_of_mark mark
  | false =>
    have idle := Command.adds_of_other mark
    cases unmark : Command.hasVerb "unmark" part with
    | true =>
      rw [layout.marks_of_unmark unmark]
      exact .cut idle
    | false =>
      rw [layout.marks_of_other mark unmark]
      exact .still idle (Command.removes_of_other unmark)

theorem recalls_runParts {layout : Layout} {history : List (List Char)}
    (recalls : Command.Recalls history layout.marks) (parts : List (List Char)) :
    Command.Recalls (history ++ parts) (layout.runParts parts).layout.marks := by
  induction parts generalizing layout history with
  | nil =>
    rw [List.append_nil]
    exact recalls
  | cons part parts ih =>
    have next := ih (recalls.revise (layout.revises_runPart part))
    rw [List.append_assoc] at next
    rw [runParts_cons]
    exact next

theorem recalls_runAll {layout : Layout} {history : List (List Char)}
    (recalls : Command.Recalls history layout.marks) (texts : List (List Char)) :
    Command.Recalls (history ++ texts.flatMap Command.parts) (layout.runAll texts).marks := by
  induction texts generalizing layout history with
  | nil =>
    rw [List.flatMap_nil, List.append_nil]
    exact recalls
  | cons text texts ih =>
    have next := ih (recalls_runParts recalls (Command.parts text))
    rw [List.append_assoc] at next
    exact next

/-- Over all runs of commands the marks are what the parts of the commands tell: each name that was marked
and not taken away since, once, in the order in which they came to stay. None is empty, no part with
another verb changes them, and they are what a client is told. -/
theorem marks_recalled :
    (∀ (layout : Layout) (part : List Char), Command.hasVerb "mark" part = false →
      Command.hasVerb "unmark" part = false →
        (layout.runPart part).layout.marks = layout.marks) ∧
    ∀ (config : Config) (texts : List (List Char)),
      let layout := (ofConfig config).runAll texts
      Command.Recalls (texts.flatMap Command.parts) layout.marks ∧ "" ∉ layout.marks ∧
        ∀ (server : Server) (fd : Nat) (payload : Bytes), server.layout = layout →
          ∃ reply, (server.dispatch fd ⟨Wire.RequestKind.getMarks.code, payload⟩).payload = some reply ∧
            (Json.read? reply).bind stringsOfJson? = some layout.marks := by
  constructor
  · exact fun layout _ notMark notUnmark => layout.marks_of_other notMark notUnmark
  · intro config texts layout
    have start : Command.Recalls [] (ofConfig config).marks := Command.recalls_nil
    have recalls : Command.Recalls (texts.flatMap Command.parts) layout.marks :=
      recalls_runAll start texts
    refine ⟨recalls, recalls.named, ?_⟩
    intro server fd payload same
    have tells : server.Tells fd payload .getMarks stringsOfJson? server.layout.marks := .marks
    rw [← same]
    exact tells.reply

def marking : List (List Char) :=
  ["mark a; Mark b, MARK a".toList, "mark; unmark a,mark \t a  b".toList, "workspace a,mark a".toList]

def marked : Server :=
  { Server.panelled with layout := (ofConfig {}).runAll marking }

theorem marks_recalled_of_marking :
    marked.layout = (ofConfig {}).runAll marking ∧
      Command.Recalls (marking.flatMap Command.parts) ["b", "a b", "a"] ∧
      (∃ reply, (marked.dispatch 7 ⟨Wire.RequestKind.getMarks.code, []⟩).payload = some reply ∧
        (Json.read? reply).bind stringsOfJson? = some ["b", "a b", "a"]) ∧
      Command.hasVerb "mark" "mode mark".toList = false ∧
      Command.hasVerb "unmark" "mode mark".toList = false ∧
      (marked.layout.runPart "mode mark".toList).layout.marks = marked.layout.marks := by
  obtain ⟨other, runs⟩ := marks_recalled
  obtain ⟨recalls, _, told⟩ := runs {} marking
  have marks : ((ofConfig {}).runAll marking).marks = ["b", "a b", "a"] := by decide +kernel
  have notMark : Command.hasVerb "mark" "mode mark".toList = false := by decide +kernel
  have notUnmark : Command.hasVerb "unmark" "mode mark".toList = false := by decide +kernel
  rw [marks] at recalls told
  exact ⟨rfl, recalls, told marked 7 [] rfl, notMark, notUnmark,
    other marked.layout _ notMark notUnmark⟩

end Layout

end TileServer
