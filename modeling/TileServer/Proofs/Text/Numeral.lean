import Mathlib.Tactic.IntervalCases
import TileServer.Text.Numeral

namespace TileServer.Numeral

theorem digit?_digitChar {digit : Nat} (small : digit < 10) :
    digit? (Nat.digitChar digit) = some digit := by
  interval_cases digit <;> rfl

theorem digitsFrom_append (bound value : Nat) (front rest : List Char) :
    digitsFrom bound value (front ++ rest) =
      (digitsFrom bound value front).bind (fun value => digitsFrom bound value rest) := by
  induction front generalizing value with
  | nil => rfl
  | cons c front ih =>
    simp only [List.cons_append, digitsFrom]
    split
    · rfl
    · split
      · rfl
      · exact ih _

theorem digitsFrom_digitChar {bound value digit : Nat} (small : digit < 10)
    (fits : value * 10 + digit ≤ bound) :
    digitsFrom bound value [Nat.digitChar digit] = .ok (value * 10 + digit) := by
  simp only [digitsFrom, digit?_digitChar small, if_neg (Nat.not_lt.2 fits)]

theorem digitsFrom_ofNat {bound number : Nat} (fits : number ≤ bound) :
    digitsFrom bound 0 (ofNat number) = .ok number := by
  unfold ofNat
  induction number using Nat.strongRecOn with
  | ind number ih =>
    by_cases small : number < 10
    · rw [Nat.toDigits_of_lt_base small, digitsFrom_digitChar small (by omega)]
      congr 1
      omega
    · have last : number % 10 < 10 := Nat.mod_lt _ (by decide)
      have whole : number / 10 * 10 + number % 10 = number := by omega
      rw [Nat.toDigits_of_base_le (by decide) (Nat.le_of_not_lt small), digitsFrom_append,
        ih (number / 10) (by omega) (by omega)]
      exact (digitsFrom_digitChar last (whole.le.trans fits)).trans (congrArg Except.ok whole)

theorem isDigit_of_mem_ofNat {number : Nat} {c : Char} (member : c ∈ ofNat number) : c.isDigit = true :=
  Nat.isDigit_of_mem_toDigits (by decide) (by decide) member

theorem natural_of_digits {bound : Nat} {digits : List Char} (nonempty : digits ≠ [])
    (each : ∀ c ∈ digits, c.isDigit = true) : natural bound digits = digitsFrom bound 0 digits := by
  have noPlus : ∀ rest, digits ≠ '+' :: rest := by
    rintro rest rfl
    exact absurd (each '+' List.mem_cons_self) (by decide)
  unfold natural
  split
  · exact absurd rfl nonempty
  · exact absurd rfl (noPlus [])
  · rename_i rest _
    exact absurd rfl (noPlus rest)
  · rfl

theorem natural_signed {bound : Nat} {digits : List Char} (nonempty : digits ≠ []) :
    natural bound ('+' :: digits) = digitsFrom bound 0 digits := by
  cases digits with
  | nil => exact absurd rfl nonempty
  | cons c digits => rfl

theorem natural_ofNat {bound number : Nat} (fits : number ≤ bound) :
    natural bound (ofNat number) = .ok number := by
  have nonempty : ofNat number ≠ [] := Nat.toDigits_ne_nil
  rw [natural_of_digits nonempty (fun c => isDigit_of_mem_ofNat), digitsFrom_ofNat fits]

def valueFrom (start : Nat) (digits : List Char) : Nat :=
  digits.foldl (fun value c => value * 10 + (c.toNat - '0'.toNat)) start

/-- A text that is a number: some digits, and perhaps a plus sign before them. -/
inductive Denotes : List Char → Nat → Prop
  | plain {digits : List Char} (nonempty : digits ≠ []) (each : ∀ c ∈ digits, c.isDigit = true) :
    Denotes digits (valueFrom 0 digits)
  | signed {digits : List Char} (nonempty : digits ≠ []) (each : ∀ c ∈ digits, c.isDigit = true) :
    Denotes ('+' :: digits) (valueFrom 0 digits)

theorem le_valueFrom (start : Nat) (digits : List Char) : start ≤ valueFrom start digits := by
  induction digits generalizing start with
  | nil => exact Nat.le_refl start
  | cons c digits ih =>
    have step : start ≤ start * 10 + (c.toNat - '0'.toNat) := by omega
    exact step.trans (ih _)

theorem digitsFrom_eq_ok_iff {bound start number : Nat} {text : List Char} (small : start ≤ bound) :
    digitsFrom bound start text = .ok number ↔
      (∀ c ∈ text, c.isDigit = true) ∧ valueFrom start text = number ∧ number ≤ bound := by
  induction text generalizing start with
  | nil =>
    constructor
    · intro reads
      cases reads
      exact ⟨List.forall_mem_nil _, rfl, small⟩
    · rintro ⟨_, rfl, _⟩
      rfl
  | cons c text ih =>
    rw [List.forall_mem_cons]
    unfold digitsFrom digit?
    by_cases digit : c.isDigit = true
    · simp only [digit, if_true, true_and]
      by_cases large : bound < start * 10 + (c.toNat - '0'.toNat)
      · have beyond : bound < valueFrom start (c :: text) := large.trans_le (le_valueFrom _ text)
        rw [if_pos large]
        constructor
        · intro error
          cases error
        · rintro ⟨_, rfl, fits⟩
          omega
      · rw [if_neg large]
        exact ih (by omega)
    · simp [digit]

theorem natural_eq_ok_iff {bound number : Nat} {text : List Char} :
    natural bound text = .ok number ↔ Denotes text number ∧ number ≤ bound := by
  constructor
  · intro reads
    unfold natural at reads
    split at reads
    · cases reads
    · cases reads
    · rename_i rest nonempty
      obtain ⟨each, rfl, fits⟩ := (digitsFrom_eq_ok_iff (Nat.zero_le bound)).1 reads
      exact ⟨.signed nonempty each, fits⟩
    · rename_i nonempty _ _
      obtain ⟨each, rfl, fits⟩ := (digitsFrom_eq_ok_iff (Nat.zero_le bound)).1 reads
      exact ⟨.plain nonempty each, fits⟩
  · rintro ⟨denotes, fits⟩
    cases denotes with
    | plain nonempty each =>
      rw [natural_of_digits nonempty each]
      exact (digitsFrom_eq_ok_iff (Nat.zero_le bound)).2 ⟨each, rfl, fits⟩
    | signed nonempty each =>
      rw [natural_signed nonempty]
      exact (digitsFrom_eq_ok_iff (Nat.zero_le bound)).2 ⟨each, rfl, fits⟩

theorem Denotes.unique {text : List Char} {one other : Nat} (denotes : Denotes text one)
    (again : Denotes text other) : one = other := by
  have first := natural_eq_ok_iff.2 ⟨denotes, Nat.le_max_left one other⟩
  have second := natural_eq_ok_iff.2 ⟨again, Nat.le_max_right one other⟩
  exact Except.ok.inj (first.symm.trans second)

theorem Denotes.plus_or_digit {text : List Char} {number : Nat} (denotes : Denotes text number) :
    ∀ c ∈ text, c = '+' ∨ c.isDigit = true := by
  cases denotes with
  | plain _ each => exact fun c member => Or.inr (each c member)
  | signed _ each =>
    intro c member
    rcases List.mem_cons.1 member with rfl | member
    · exact Or.inl rfl
    · exact Or.inr (each c member)

end TileServer.Numeral
