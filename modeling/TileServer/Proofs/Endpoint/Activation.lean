import Mathlib.Data.List.Nodup
import TileServer.Endpoint.Activation
import TileServer.Proofs.Text.Numeral
import TileServer.Proofs.Text.Pieces

namespace TileServer.Activation

/-- A text that is a number with blanks around it. -/
def Reads (text : String) (value : Nat) : Prop :=
  ∃ front numeral back, Text.IsBlank front ∧ Text.IsBlank back ∧
    text.toList = front ++ numeral ++ back ∧ Numeral.Denotes numeral value

/-- Both variables are set, the one to a process and the other to a count of descriptors for it. -/
def Offers (pid fds : Option String) (ourPid count : Nat) : Prop :=
  ∃ pidText countText, pid = some pidText ∧ fds = some countText ∧ Reads pidText ourPid ∧
    Reads countText count ∧ count ≤ maxDescriptors

/-- Both variables are set, but the one is no process at all, or it is ours and the other is no count. -/
def Garbled (pid fds : Option String) (ourPid : Nat) : Prop :=
  ∃ pidText countText, pid = some pidText ∧ fds = some countText ∧
    ((¬ ∃ other ≤ maxPid, Reads pidText other) ∨
      Reads pidText ourPid ∧ ¬ ∃ count ≤ maxDescriptors, Reads countText count)

theorem denotes_trim_iff {text : String} {value : Nat} :
    Numeral.Denotes (Text.trim text.toList) value ↔ Reads text value := by
  constructor
  · intro denotes
    obtain ⟨front, back, before, behind, around⟩ := Text.exists_around_trim text.toList
    exact ⟨front, _, back, before, behind, around, denotes⟩
  · rintro ⟨front, numeral, back, before, behind, around, denotes⟩
    have whole : ∀ c ∈ numeral, Text.isBlank c = false := by
      intro c member
      rcases denotes.plus_or_digit c member with rfl | digit
      · decide
      · exact Text.not_blank_of_isDigit digit
    rw [around, Text.trim_around before behind whole]
    exact denotes

theorem Reads.unique {text : String} {one other : Nat} (reads : Reads text one)
    (again : Reads text other) : one = other :=
  (denotes_trim_iff.2 reads).unique (denotes_trim_iff.2 again)

theorem number_eq_ok_iff {bound value : Nat} {text : String} :
    number bound text = .ok value ↔ Reads text value ∧ value ≤ bound := by
  rw [number, Numeral.natural_eq_ok_iff, denotes_trim_iff]

theorem number_cases (bound : Nat) (text : String) :
    (∃ reason, number bound text = .error reason ∧ ∀ value ≤ bound, ¬ Reads text value) ∨
      ∃ value ≤ bound, number bound text = .ok value ∧ Reads text value := by
  cases read : number bound text with
  | error reason =>
    left
    refine ⟨reason, rfl, ?_⟩
    intro value fits reads
    rw [number_eq_ok_iff.2 ⟨reads, fits⟩] at read
    cases read
  | ok value =>
    obtain ⟨reads, fits⟩ := number_eq_ok_iff.1 read
    exact Or.inr ⟨value, fits, rfl, reads⟩

section

variable {pid fds : Option String} {pidText countText : String} {ourPid count other : Nat}

theorem passed_of_foreign (reads : Reads pidText other) (valid : other ≤ maxPid)
    (foreign : other ≠ ourPid) : passed (some pidText) fds ourPid = .ok 0 := by
  cases fds with
  | none => rfl
  | some countText => simp only [passed, number_eq_ok_iff.2 ⟨reads, valid⟩, if_pos foreign]

theorem passed_of_ours (reads : Reads pidText ourPid) (valid : ourPid ≤ maxPid) :
    (∃ fault, passed (some pidText) (some countText) ourPid = .error fault ∧
      ∀ count ≤ maxDescriptors, ¬ Reads countText count) ∨
    ∃ count ≤ maxDescriptors, passed (some pidText) (some countText) ourPid = .ok count ∧
      Reads countText count := by
  have small : maxDescriptors ≤ maxCount := by decide
  simp only [passed, number_eq_ok_iff.2 ⟨reads, valid⟩, ne_eq, not_true_eq_false, if_false]
  rcases number_cases maxCount countText with ⟨reason, read, uncounted⟩ | ⟨count, _, read, counts⟩
  · left
    rw [read]
    exact ⟨_, rfl, fun count fits => uncounted count (fits.trans small)⟩
  · rw [read]
    by_cases large : maxDescriptors < count
    · left
      refine ⟨.outOfRange count, by simp only [if_pos large], ?_⟩
      intro other fits again
      have same := counts.unique again
      omega
    · right
      exact ⟨count, Nat.le_of_not_lt large, by simp only [if_neg large], counts⟩

theorem Garbled.not_offers (garbled : Garbled pid fds ourPid) (valid : ourPid ≤ maxPid) :
    ¬ Offers pid fds ourPid count := by
  rintro ⟨pidText, countText, rfl, rfl, reads, counts, fits⟩
  obtain ⟨_, _, ⟨⟩, ⟨⟩, unread | ⟨_, uncounted⟩⟩ := garbled
  · exact unread ⟨ourPid, valid, reads⟩
  · exact uncounted ⟨count, fits, counts⟩

theorem passed_cases (pid fds : Option String) (valid : ourPid ≤ maxPid) :
    (∃ fault, passed pid fds ourPid = .error fault ∧ Garbled pid fds ourPid) ∨
      ∃ count, passed pid fds ourPid = .ok count ∧ ¬ Garbled pid fds ourPid ∧
        ∀ offered, 0 < offered → (Offers pid fds ourPid offered ↔ count = offered) := by
  have nothing (done : passed pid fds ourPid = .ok 0) (calm : ¬ Garbled pid fds ourPid)
      (withheld : ∀ count, ¬ Offers pid fds ourPid count) :
      ∃ count, passed pid fds ourPid = .ok count ∧ ¬ Garbled pid fds ourPid ∧
        ∀ offered, 0 < offered → (Offers pid fds ourPid offered ↔ count = offered) :=
    ⟨0, done, calm, fun offered positive => iff_of_false (withheld offered) (by omega)⟩
  rcases pid with _ | pidText
  · exact Or.inr (nothing rfl (by simp [Garbled]) (by simp [Offers]))
  rcases fds with _ | countText
  · exact Or.inr (nothing rfl (by simp [Garbled]) (by simp [Offers]))
  rcases number_cases maxPid pidText with ⟨reason, read, unread⟩ | ⟨other, fits, read, reads⟩
  · left
    have refused : ¬ ∃ other ≤ maxPid, Reads pidText other :=
      fun ⟨other, fits, reads⟩ => unread other fits reads
    exact ⟨.pid pidText reason, by simp only [passed, read], _, _, rfl, rfl, Or.inl refused⟩
  by_cases ours : other = ourPid
  · subst ours
    rcases passed_of_ours reads fits with ⟨fault, done, uncounted⟩ | ⟨count, small, done, counts⟩
    · left
      have refused : ¬ ∃ count ≤ maxDescriptors, Reads countText count :=
        fun ⟨count, small, counts⟩ => uncounted count small counts
      exact ⟨fault, done, _, _, rfl, rfl, Or.inr ⟨reads, refused⟩⟩
    · right
      have offers : Offers (some pidText) (some countText) other count :=
        ⟨_, _, rfl, rfl, reads, counts, small⟩
      refine ⟨count, done, fun garbled => garbled.not_offers fits offers, ?_⟩
      intro offered _
      constructor
      · rintro ⟨_, _, ⟨⟩, ⟨⟩, _, again, _⟩
        exact counts.unique again
      · rintro rfl
        exact offers
  · right
    apply nothing (passed_of_foreign reads fits ours)
    · rintro ⟨_, _, ⟨⟩, ⟨⟩, unread | ⟨again, _⟩⟩
      · exact unread ⟨other, fits, reads⟩
      · exact ours (reads.unique again)
    · rintro count ⟨_, _, ⟨⟩, ⟨⟩, again, _⟩
      exact ours (reads.unique again)

end

theorem toInt_offset {offset : Nat} (small : offset < maxDescriptors) :
    (Int32.ofNat offset).toInt = offset :=
  Int32.toInt_ofNat_of_lt (small.trans (by decide))

theorem toInt_descriptor {offset : Nat} (small : offset < maxDescriptors) :
    (firstDescriptor + Int32.ofNat offset).toInt = firstDescriptor.toInt + offset := by
  have first : firstDescriptor = Int32.ofNat 3 := rfl
  have bound : offset < 2147483644 := small
  rw [first, ← Int32.ofNat_add, Int32.toInt_ofNat_of_lt (by omega), Int32.toInt_ofNat_of_lt (by omega)]
  omega

theorem map_toInt_descriptors {count : Nat} (fits : count ≤ maxDescriptors) :
    (descriptors count).map Int32.toInt =
      (List.range count).map (fun offset : Nat => firstDescriptor.toInt + offset) := by
  rw [descriptors, List.map_map]
  apply List.map_congr_left
  intro offset member
  exact toInt_descriptor ((List.mem_range.1 member).trans_le fits)

theorem nodup_descriptors {count : Nat} (fits : count ≤ maxDescriptors) :
    (descriptors count).Nodup := by
  have distinct : ((descriptors count).map Int32.toInt).Nodup := by
    rw [map_toInt_descriptors fits]
    apply List.Nodup.map _ List.nodup_range
    intro one other same
    simpa using same
  exact List.Nodup.of_map _ distinct

theorem le_maxDescriptors {pid fds : Option String} {ourPid count : Nat} (valid : ourPid ≤ maxPid)
    (done : passed pid fds ourPid = .ok count) : count ≤ maxDescriptors := by
  rcases passed_cases pid fds valid with ⟨fault, refused, _⟩ | ⟨accepted, done', _, offers⟩
  · rw [refused] at done
    cases done
  · rw [done', Except.ok.injEq] at done
    by_cases zero : count = 0
    · omega
    · obtain ⟨_, _, _, _, _, _, fits⟩ := (offers count (by omega)).2 done
      exact fits

/-- Descriptors are adopted exactly as they are offered to a process, and the variables are refused exactly
if they are both set and either the first is no process number at all, or it is ours and the second is
no count that there can be. Whatever a count says that is meant for another process, nothing is adopted.
The descriptors of a count that is accepted are numbers of their own that count up from the first one,
and nothing wraps around on the way. -/
theorem passed_exact (pid fds : Option String) (ourPid : UInt32) :
    (∀ count, 0 < count → (passed pid fds ourPid.toNat = .ok count ↔
      Offers pid fds ourPid.toNat count)) ∧
    ((∃ fault, passed pid fds ourPid.toNat = .error fault) ↔ Garbled pid fds ourPid.toNat) ∧
    (passed pid fds ourPid.toNat = .ok 0 ↔ ¬ Garbled pid fds ourPid.toNat ∧
      ∀ count, 0 < count → ¬ Offers pid fds ourPid.toNat count) ∧
    (∀ pidText other, pid = some pidText → Reads pidText other → other ≤ maxPid →
      other ≠ ourPid.toNat → passed pid fds ourPid.toNat = .ok 0) ∧
    ∀ count, passed pid fds ourPid.toNat = .ok count →
      (descriptors count).map Int32.toInt =
          (List.range count).map (fun offset : Nat => firstDescriptor.toInt + offset) ∧
        (descriptors count).Nodup ∧
        ∀ offset < count, (Int32.ofNat offset).toInt = offset ∧
          firstDescriptor.toInt + offset ≤ Int32.maxValue.toInt := by
  have valid : ourPid.toNat ≤ maxPid := Nat.le_of_lt_succ ourPid.toNat_lt
  refine ⟨?_, ?_, ?_, ?_, ?_⟩
  · intro count positive
    rcases passed_cases pid fds valid with ⟨fault, refused, garbled⟩ | ⟨accepted, done, _, offers⟩
    · rw [refused]
      exact iff_of_false nofun (garbled.not_offers valid)
    · rw [done, offers count positive, Except.ok.injEq]
  · rcases passed_cases pid fds valid with ⟨fault, refused, garbled⟩ | ⟨accepted, done, calm, _⟩
    · exact iff_of_true ⟨fault, refused⟩ garbled
    · rw [done]
      exact iff_of_false nofun calm
  · rcases passed_cases pid fds valid with ⟨fault, refused, garbled⟩ | ⟨accepted, done, calm, offers⟩
    · rw [refused]
      exact iff_of_false nofun (fun both => both.1 garbled)
    · rw [done, Except.ok.injEq]
      constructor
      · rintro rfl
        exact ⟨calm, fun count positive offered => by have := (offers count positive).1 offered; omega⟩
      · rintro ⟨_, withheld⟩
        by_contra positive
        exact withheld accepted (by omega) ((offers accepted (by omega)).2 rfl)
  · rintro pidText other rfl reads fits foreign
    exact passed_of_foreign reads fits foreign
  · intro count done
    have fits := le_maxDescriptors valid done
    refine ⟨map_toInt_descriptors fits, nodup_descriptors fits, ?_⟩
    intro offset small
    have bound : offset < maxDescriptors := small.trans_le fits
    refine ⟨toInt_offset bound, ?_⟩
    have first : firstDescriptor.toInt = 3 := rfl
    have last : Int32.maxValue.toInt = 2147483647 := rfl
    unfold maxDescriptors at bound
    omega

theorem passed_exact_of_padded :
    passed (some " +7\n") (some "\u00a0+0002") (7 : UInt32).toNat = .ok 2 ∧
      Offers (some " +7\n") (some "\u00a0+0002") (7 : UInt32).toNat 2 ∧
      (descriptors 2).map Int32.toInt = [3, 4] ∧
      Reads "41" 41 ∧ passed (some "41") (some "-1") (7 : UInt32).toNat = .ok 0 := by
  have done : passed (some " +7\n") (some "\u00a0+0002") (7 : UInt32).toNat = .ok 2 := by
    decide +kernel
  obtain ⟨offers, _, _, _, counted⟩ := passed_exact (some " +7\n") (some "\u00a0+0002") 7
  have foreign := (passed_exact (some "41") (some "-1") 7).2.2.2.1
  have reads : Reads "41" 41 := by
    have read : number maxPid "41" = .ok 41 := by decide +kernel
    exact (number_eq_ok_iff.1 read).1
  refine ⟨done, (offers 2 (by decide)).1 done, (counted 2 done).1, reads, ?_⟩
  exact foreign "41" 41 rfl reads (by decide) (by decide)

example : passed (some "7") (some "2147483644") 7 = .ok 2147483644 ∧
    passed (some "7") (some "2147483645") 7 = .error (.outOfRange 2147483645) := by
  decide +kernel

def ownVariables : List String := [pidVariable, countVariable, namesVariable]

theorem get?_strip (environment : Environment) (name : String) :
    (strip environment).get? name = if name ∈ ownVariables then none else environment.get? name := by
  simp only [strip, Environment.get?_unset, ownVariables, List.mem_cons, List.not_mem_nil, or_false]
  by_cases pid : name = pidVariable
  · simp [pid]
  · by_cases count : name = countVariable
    · simp [count]
    · simp [pid, count]

/-- Whatever becomes of the descriptors, none of the three variables is left to a program that is started
later, which adopts nothing therefore, and all others are as before. -/
theorem inherit_strips (environment : Environment) (ourPid : Nat) (table : Int32 → Descriptor) :
    let left := (inherit environment ourPid table).1
    (∀ name ∈ ownVariables, left.get? name = none) ∧
      (∀ name, name ∉ ownVariables → left.get? name = environment.get? name) ∧
      ∀ (pid : Nat) (later : Int32 → Descriptor), (inherit left pid later).2 = [] := by
  refine ⟨?_, ?_, ?_⟩
  · intro name member
    exact (get?_strip environment name).trans (if_pos member)
  · intro name other
    exact (get?_strip environment name).trans (if_neg other)
  · intro pid later
    have unset : (strip environment).get? pidVariable = none :=
      (get?_strip environment pidVariable).trans (if_pos List.mem_cons_self)
    have nothing : passed ((strip environment).get? pidVariable)
        ((strip environment).get? countVariable) pid = .ok 0 := by rw [unset]; rfl
    show (inherit (strip environment) pid later).2 = []
    rw [inherit, nothing]
    rfl

end TileServer.Activation
