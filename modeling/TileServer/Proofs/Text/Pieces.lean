import Mathlib.Data.List.DropRight
import TileServer.Text.Blank

namespace TileServer.Text

variable {stop : Char → Bool}

def rejoined : List (List Char) → List Char → List Char
  | piece :: rest, mark :: marks => piece ++ mark :: rejoined rest marks
  | pieces, _ => pieces.flatten

theorem pieces_cons (stop : Char → Bool) (c : Char) (text : List Char) :
    pieces stop (c :: text) =
      if stop c then [] :: pieces stop text
      else match pieces stop text with
        | [] => [[c]]
        | piece :: rest => (c :: piece) :: rest :=
  rfl

theorem pieces_eq_splitOnP (stop : Char → Bool) (text : List Char) :
    pieces stop text = text.splitOnP stop := by
  induction text with
  | nil => rfl
  | cons c text ih =>
    rw [pieces_cons, List.splitOnP_cons_eq_if_modifyHead, ← ih]
    cases cut : pieces stop text with
    | nil =>
      rw [ih] at cut
      exact absurd cut (List.splitOnP_ne_nil stop text)
    | cons piece rest => rfl

theorem pieces_append (first second : List Char) {mark : Char} (stops : stop mark = true) :
    pieces stop (first ++ mark :: second) = pieces stop first ++ pieces stop second := by
  simp only [pieces_eq_splitOnP]
  exact List.splitOnP_append_cons first second stops

theorem pieces_of_none {piece : List Char} (whole : ∀ c ∈ piece, stop c = false) :
    pieces stop piece = [piece] := by
  rw [pieces_eq_splitOnP]
  exact List.splitOnP_eq_singleton whole

theorem pieces_cons_of_not {c : Char} (goes : stop c = false) (text : List Char) :
    ∃ piece rest, pieces stop text = piece :: rest ∧ pieces stop (c :: text) = (c :: piece) :: rest := by
  cases cut : pieces stop text with
  | nil =>
    rw [pieces_eq_splitOnP] at cut
    exact absurd cut (List.splitOnP_ne_nil stop text)
  | cons piece rest =>
    refine ⟨piece, rest, rfl, ?_⟩
    rw [pieces_cons, goes, cut]
    rfl

theorem pieces_cons_of_stop {c : Char} (stops : stop c = true) (text : List Char) :
    pieces stop (c :: text) = [] :: pieces stop text :=
  pieces_append [] text stops

theorem whole_of_mem_pieces {text piece : List Char} (member : piece ∈ pieces stop text) :
    ∀ c ∈ piece, stop c = false := by
  induction text generalizing piece with
  | nil =>
    rw [List.mem_singleton.1 member]
    exact List.forall_mem_nil _
  | cons c text ih =>
    cases mark : stop c with
    | true =>
      rw [pieces_cons_of_stop mark] at member
      rcases List.mem_cons.1 member with rfl | member
      · exact List.forall_mem_nil _
      · exact ih member
    | false =>
      obtain ⟨first, rest, cut, grown⟩ := pieces_cons_of_not mark text
      rw [grown] at member
      rw [cut] at ih
      rcases List.mem_cons.1 member with rfl | member
      · exact List.forall_mem_cons.2 ⟨mark, ih List.mem_cons_self⟩
      · exact ih (List.mem_cons_of_mem _ member)

theorem mem_of_mem_pieces {text piece : List Char} {c : Char} (member : piece ∈ pieces stop text)
    (inside : c ∈ piece) : c ∈ text := by
  induction text generalizing piece with
  | nil =>
    rw [List.mem_singleton.1 member] at inside
    cases inside
  | cons d text ih =>
    cases mark : stop d with
    | true =>
      rw [pieces_cons_of_stop mark] at member
      rcases List.mem_cons.1 member with rfl | member
      · cases inside
      · exact List.mem_cons_of_mem _ (ih member inside)
    | false =>
      obtain ⟨first, rest, cut, grown⟩ := pieces_cons_of_not mark text
      rw [grown] at member
      rw [cut] at ih
      rcases List.mem_cons.1 member with rfl | member
      · exact List.mem_cons.2 ((List.mem_cons.1 inside).imp_right (ih List.mem_cons_self))
      · exact List.mem_cons_of_mem _ (ih (List.mem_cons_of_mem _ member) inside)

theorem length_pieces (stop : Char → Bool) (text : List Char) :
    (pieces stop text).length = (text.filter stop).length + 1 := by
  induction text with
  | nil => rfl
  | cons c text ih =>
    cases mark : stop c with
    | true => rw [pieces_cons_of_stop mark, List.filter_cons_of_pos mark, List.length_cons,
        List.length_cons, ih]
    | false =>
      obtain ⟨first, rest, cut, grown⟩ := pieces_cons_of_not mark text
      rw [grown, List.filter_cons_of_neg (by simp [mark]), ← ih, cut]
      rfl

theorem pieces_rejoined {items : List (List Char)} {marks : List Char}
    (length : items.length = marks.length + 1) (whole : ∀ item ∈ items, ∀ c ∈ item, stop c = false)
    (stops : ∀ mark ∈ marks, stop mark = true) : pieces stop (rejoined items marks) = items := by
  induction marks generalizing items with
  | nil =>
    obtain ⟨item, rfl⟩ := List.length_eq_one_iff.1 length
    change pieces stop (item ++ []) = _
    rw [List.append_nil, pieces_of_none (whole item List.mem_cons_self)]
  | cons mark marks ih =>
    cases items with
    | nil => cases length
    | cons item items =>
      obtain ⟨first, others⟩ := List.forall_mem_cons.1 whole
      obtain ⟨here, later⟩ := List.forall_mem_cons.1 stops
      rw [rejoined, pieces_append _ _ here, pieces_of_none first,
        ih (Nat.succ.inj length) others later]
      rfl

theorem pieces_lines {lines : List (List Char)} {mark : Char} (stops : stop mark = true)
    (whole : ∀ line ∈ lines, ∀ c ∈ line, stop c = false) :
    pieces stop (lines.flatMap (fun line => line ++ [mark])) = lines ++ [[]] := by
  induction lines with
  | nil => rfl
  | cons line lines ih =>
    obtain ⟨first, others⟩ := List.forall_mem_cons.1 whole
    rw [List.flatMap_cons, List.append_assoc, List.singleton_append, pieces_append _ _ stops,
      pieces_of_none first, ih others]
    rfl

def IsBlank (text : List Char) : Prop := ∀ c ∈ text, isBlank c = true

theorem not_blank_of_mem_words {text word : List Char} (member : word ∈ words text) :
    ∀ c ∈ word, isBlank c = false :=
  whole_of_mem_pieces (List.mem_of_mem_filter member)

theorem ne_nil_of_mem_words {text word : List Char} (member : word ∈ words text) : word ≠ [] := by
  rintro rfl
  exact absurd (List.mem_filter.1 member).2 nofun

theorem mem_of_mem_words {text word : List Char} {c : Char} (member : word ∈ words text)
    (inside : c ∈ word) : c ∈ text :=
  mem_of_mem_pieces (List.mem_of_mem_filter member) inside

theorem words_of_whole {word : List Char} (nonempty : word ≠ [])
    (whole : ∀ c ∈ word, isBlank c = false) : words word = [word] := by
  rw [words, pieces_of_none whole]
  exact List.filter_cons_of_pos (by simpa using nonempty)

theorem words_append (first second : List Char) {mark : Char} (blank : isBlank mark = true) :
    words (first ++ mark :: second) = words first ++ words second := by
  rw [words, pieces_append first second blank, List.filter_append]
  rfl

theorem words_eq_nil_iff (text : List Char) : words text = [] ↔ IsBlank text := by
  induction text with
  | nil => exact ⟨fun _ => List.forall_mem_nil _, fun _ => rfl⟩
  | cons c text ih =>
    unfold IsBlank
    rw [List.forall_mem_cons]
    cases blank : isBlank c with
    | true =>
      have later : words (c :: text) = words text := words_append [] text blank
      rw [later, ih]
      exact ⟨fun later => ⟨rfl, later⟩, And.right⟩
    | false =>
      obtain ⟨first, rest, _, grown⟩ := pieces_cons_of_not blank text
      have worded : words (c :: text) ≠ [] := by
        rw [words, grown]
        exact List.cons_ne_nil _ _
      exact iff_of_false worded (fun both => absurd both.1 nofun)

theorem words_blank_append {blanks : List Char} (blank : IsBlank blanks) (text : List Char) :
    words (blanks ++ text) = words text := by
  induction blanks with
  | nil => rfl
  | cons c blanks ih =>
    obtain ⟨first, others⟩ := List.forall_mem_cons.1 blank
    have later : words (c :: (blanks ++ text)) = words (blanks ++ text) := words_append [] _ first
    exact later.trans (ih others)

theorem words_append_blank (text : List Char) {blanks : List Char} (blank : IsBlank blanks) :
    words (text ++ blanks) = words text := by
  cases blanks with
  | nil => rw [List.append_nil]
  | cons c blanks =>
    obtain ⟨first, others⟩ := List.forall_mem_cons.1 blank
    rw [words_append text blanks first, (words_eq_nil_iff blanks).2 others, List.append_nil]

theorem joined_cons_cons (first second : List Char) (rest : List (List Char)) :
    joined (first :: second :: rest) = first ++ ' ' :: joined (second :: rest) := by
  rw [joined, List.intercalate_cons_cons, List.append_assoc]
  rfl

theorem mem_joined {items : List (List Char)} {c : Char} (member : c ∈ joined items) :
    c = ' ' ∨ ∃ item ∈ items, c ∈ item := by
  induction items with
  | nil => cases member
  | cons item items ih =>
    cases items with
    | nil =>
      rw [joined, List.intercalate_singleton] at member
      exact .inr ⟨item, List.mem_cons_self, member⟩
    | cons second items =>
      rw [joined_cons_cons, List.mem_append, List.mem_cons] at member
      rcases member with first | space | later
      · exact .inr ⟨item, List.mem_cons_self, first⟩
      · exact .inl space
      · exact (ih later).imp_right
          (fun ⟨other, there, inside⟩ => ⟨other, List.mem_cons_of_mem _ there, inside⟩)

theorem words_joined {items : List (List Char)} (nonempty : ∀ item ∈ items, item ≠ [])
    (whole : ∀ item ∈ items, ∀ c ∈ item, isBlank c = false) : words (joined items) = items := by
  induction items with
  | nil => rfl
  | cons item items ih =>
    obtain ⟨filled, others⟩ := List.forall_mem_cons.1 nonempty
    obtain ⟨first, later⟩ := List.forall_mem_cons.1 whole
    cases items with
    | nil => exact (congrArg words List.intercalate_singleton).trans (words_of_whole filled first)
    | cons second items =>
      rw [joined_cons_cons, words_append _ _ rfl, words_of_whole filled first, ih others later]
      rfl

/-- A text is its trimmed form with blanks around it. -/
theorem exists_around_trim (text : List Char) :
    ∃ front back, IsBlank front ∧ IsBlank back ∧ text = front ++ trim text ++ back := by
  let rest := text.dropWhile isBlank
  refine ⟨text.takeWhile isBlank, rest.rtakeWhile isBlank, fun _ => List.mem_takeWhile_imp,
    fun _ => List.mem_rtakeWhile_imp, ?_⟩
  have ending : trim text ++ rest.rtakeWhile isBlank = rest := List.rdropWhile_append_rtakeWhile
  rw [List.append_assoc, ending]
  exact List.takeWhile_append_dropWhile.symm

theorem mem_of_mem_trim {text : List Char} {c : Char} (member : c ∈ trim text) : c ∈ text := by
  obtain ⟨front, back, _, _, around⟩ := exists_around_trim text
  rw [around]
  exact List.mem_append_left _ (List.mem_append_right _ member)

theorem words_trim (text : List Char) : words (trim text) = words text := by
  obtain ⟨front, back, before, behind, around⟩ := exists_around_trim text
  have whole : words text = words (front ++ trim text ++ back) := congrArg words around
  rw [whole, words_append_blank _ behind, words_blank_append before]

theorem trim_eq_nil_iff (text : List Char) : trim text = [] ↔ IsBlank text := by
  constructor
  · intro empty
    rw [← words_eq_nil_iff, ← words_trim, empty]
    rfl
  · intro blank
    have dropped : text.dropWhile isBlank = [] := List.dropWhile_eq_nil_iff.2 blank
    rw [trim, dropped]
    rfl

theorem dropWhile_blank_append {blanks text : List Char} (blank : IsBlank blanks)
    (starts : ∀ c ∈ text.head?, isBlank c = false) : (blanks ++ text).dropWhile isBlank = text := by
  rw [List.dropWhile_append_of_pos blank]
  cases text with
  | nil => rfl
  | cons c text =>
    have first : ¬ isBlank c = true := by simp [starts c rfl]
    exact List.dropWhile_cons_of_neg first

theorem trim_around {front text back : List Char} (before : IsBlank front) (behind : IsBlank back)
    (whole : ∀ c ∈ text, isBlank c = false) : trim (front ++ text ++ back) = text := by
  by_cases empty : text = []
  · subst empty
    apply (trim_eq_nil_iff _).2
    intro c member
    rw [List.append_nil, List.mem_append] at member
    exact member.elim (before c) (behind c)
  · have starts : ∀ c ∈ (text ++ back).head?, isBlank c = false := by
      intro c first
      rw [List.head?_append_of_ne_nil _ empty] at first
      exact whole c (List.mem_of_mem_head? first)
    have ends : ∀ c ∈ text.reverse.head?, isBlank c = false := by
      intro c last
      exact whole c (List.mem_reverse.1 (List.mem_of_mem_head? last))
    have blank : IsBlank back.reverse := fun c member => behind c (List.mem_reverse.1 member)
    rw [trim, List.append_assoc, dropWhile_blank_append before starts, List.reverse_append,
      dropWhile_blank_append blank ends, List.reverse_reverse]

theorem not_blank_of_isDigit {c : Char} (digit : c.isDigit = true) : isBlank c = false := by
  rw [Char.isDigit, Bool.and_eq_true, decide_eq_true_iff, decide_eq_true_iff] at digit
  have low : 0x30 ≤ c.toNat := digit.1
  have high : c.toNat ≤ 0x39 := digit.2
  simp [isBlank]
  omega

end TileServer.Text
