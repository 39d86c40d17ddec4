import Mathlib.Tactic.IntervalCases
import TileServer.Json.Reader
import TileServer.Proofs.Text.Utf8

namespace TileServer.Json

/-- A value that has a meaning all through, with integers that the reader does not take for others. -/
inductive Plain : Json → Prop
  | null : Plain .null
  | bool (value : Bool) : Plain (.bool value)
  | int {value : Int} (fits : value.natAbs ≤ maxMagnitude) : Plain (.int value)
  | str (value : String) : Plain (.str value)
  | arr {items : List Json} (plain : ∀ item ∈ items, Plain item) : Plain (.arr items)
  | obj {fields : List (String × Json)} (plain : ∀ field ∈ fields, Plain field.2) :
    Plain (.obj fields)

variable {stack : List Open} {state next : State} {value : Json} {byte : UInt8} {bytes : Bytes}

theorem run_append (state : State) (first second : Bytes) :
    run state (first ++ second) = (run state first).bind (fun middle => run middle second) := by
  induction first generalizing state with
  | nil => rfl
  | cons byte first ih =>
    rw [List.cons_append, run, run]
    cases step state byte with
    | none => rfl
    | some next => exact ih next

theorem run_cons (stepped : step state byte = some next) (bytes : Bytes) :
    run state (byte :: bytes) = run next bytes := by
  rw [run, stepped]

theorem run_singleton (state : State) (byte : UInt8) : run state [byte] = step state byte := by
  rw [run]
  cases step state byte <;> rfl

def Opened.of (bytes : Bytes) : Opened :=
  ⟨.plain, bytes, true, none⟩

theorem run_raw (isKey : Bool) {raw : Bytes}
    (plain : ∀ byte ∈ raw, 0x20 ≤ byte.toNat ∧ byte ≠ byteOf '"' ∧ byte ≠ byteOf '\\') :
    run ⟨stack, .string isKey (.of bytes)⟩ raw =
      some ⟨stack, .string isKey (.of (raw.reverse ++ bytes))⟩ := by
  induction raw generalizing bytes with
  | nil => rfl
  | cons byte raw ih =>
    obtain ⟨⟨least, quote, backslash⟩, others⟩ := List.forall_mem_cons.1 plain
    have visible : ¬ byte < 0x20 := by
      rw [UInt8.lt_iff_toNat_lt]
      exact least.not_gt
    have stepped : step ⟨stack, .string isKey (.of bytes)⟩ byte =
        some ⟨stack, .string isKey (.of (byte :: bytes))⟩ := by
      simp [step, growString, Opened.of, Opened.overdue, visible, quote, backslash]
    rw [run_cons stepped, ih others]
    simp

theorem run_control (isKey : Bool) {code : Nat} (control : code < 0x20) :
    run ⟨stack, .string isKey (.of bytes)⟩
        (Utf8.encode ['\\', 'u', '0', '0', hexDigit (code / 16), hexDigit (code % 16)]) =
      some ⟨stack, .string isKey (.of ((Utf8.encodeChar (Char.ofNat code)).reverse ++ bytes))⟩ := by
  interval_cases code <;> rfl

theorem raw_of_visible {c : Char} (visible : ¬ c.toNat < 0x20) (quote : c ≠ '"')
    (backslash : c ≠ '\\') :
    ∀ byte ∈ Utf8.encodeChar c, 0x20 ≤ byte.toNat ∧ byte ≠ byteOf '"' ∧ byte ≠ byteOf '\\' := by
  intro byte member
  by_cases ascii : c.toNat < 0x80
  · rw [Utf8.encodeChar_of_ascii ascii, List.mem_singleton] at member
    have code : byte.toNat = c.toNat := member ▸ Utf8.toNat_byte (by omega)
    refine ⟨by omega, ?_, ?_⟩
    · rintro rfl
      exact quote (Char.toNat_inj.1 code.symm)
    · rintro rfl
      exact backslash (Char.toNat_inj.1 code.symm)
  · have wide := Utf8.le_of_mem_encodeChar ascii member
    refine ⟨by omega, ?_, ?_⟩
    · rintro rfl
      exact absurd wide (by decide)
    · rintro rfl
      exact absurd wide (by decide)

theorem run_escapeChar (isKey : Bool) (c : Char) :
    run ⟨stack, .string isKey (.of bytes)⟩ (Utf8.encode (escapeChar c)) =
      some ⟨stack, .string isKey (.of ((Utf8.encodeChar c).reverse ++ bytes))⟩ := by
  have same := Char.ofNat_toNat c
  unfold escapeChar
  split
  · rename_i quote
    subst quote
    rfl
  rename_i quote
  split
  · rename_i backslash
    subst backslash
    rfl
  rename_i backslash
  split
  · rename_i newline
    subst newline
    rfl
  split
  · rename_i carriageReturn
    subst carriageReturn
    rfl
  split
  · rename_i tab
    subst tab
    rfl
  split
  · rename_i backspace
    rw [← same, backspace]
    rfl
  split
  · rename_i formFeed
    rw [← same, formFeed]
    rfl
  split
  · rename_i control
    rw [run_control isKey control, same]
  · rename_i visible
    rw [Utf8.encode_cons, Utf8.encode_nil, List.append_nil,
      run_raw isKey (raw_of_visible visible quote backslash)]

theorem run_escaped (isKey : Bool) (text : List Char) :
    run ⟨stack, .string isKey (.of bytes)⟩ (Utf8.encode (text.flatMap escapeChar)) =
      some ⟨stack, .string isKey (.of ((Utf8.encode text).reverse ++ bytes))⟩ := by
  induction text generalizing bytes with
  | nil => rfl
  | cons c text ih =>
    rw [List.flatMap_cons, Utf8.encode_append, run_append, run_escapeChar, Option.bind_some, ih]
    simp

theorem Opened.content?_of (text : String) :
    (Opened.of (Utf8.encode text.toList).reverse).content? = some text := by
  simp [Opened.of, content?, overdue, Utf8.decodeString?_encode]

theorem run_string (isKey : Bool) (text : String) :
    run (openString stack isKey) (Utf8.encode (text.toList.flatMap escapeChar ++ ['"'])) =
      closeString stack isKey (.of (Utf8.encode text.toList).reverse) := by
  have closing (opened : Bytes) : run ⟨stack, .string isKey (.of opened)⟩ (Utf8.encode ['"']) =
      closeString stack isKey (.of opened) := by
    have quote : Utf8.encode ['"'] = [byteOf '"'] := rfl
    rw [quote, run_singleton]
    rfl
  have opening : openString stack isKey = ⟨stack, .string isKey (.of [])⟩ := rfl
  rw [opening, Utf8.encode_append, run_append, run_escaped, Option.bind_some, List.append_nil, closing]

theorem encode_writeString (text : String) : Utf8.encode (writeString text) =
    byteOf '"' :: Utf8.encode (text.toList.flatMap escapeChar ++ ['"']) :=
  Utf8.encode_cons '"' _

theorem run_writeString (text : String) :
    run ⟨stack, .value⟩ (Utf8.encode (writeString text)) = some (settle stack (.str text)) := by
  have opened : step ⟨stack, .value⟩ (byteOf '"') = some (openString stack false) := rfl
  rw [encode_writeString, run_cons opened, run_string]
  unfold closeString
  split
  · contradiction
  · contradiction
  · rw [Opened.content?_of]

theorem run_key {fields : List (String × Json)} {key : String} (text : String) :
    run ⟨.object fields true key :: stack, .key⟩ (Utf8.encode (writeString text)) =
      some ⟨.object fields true text :: stack, .colon⟩ := by
  have opened : step ⟨.object fields true key :: stack, .key⟩ (byteOf '"') =
      some (openString (.object fields true key :: stack) true) := rfl
  rw [encode_writeString, run_cons opened, run_string]
  simp only [closeString, Opened.content?_of]

theorem encodeChar_digitChar {digit : Nat} (small : digit < 10) :
    Utf8.encodeChar digit.digitChar = [UInt8.ofNat (0x30 + digit)] := by
  interval_cases digit <;> rfl

theorem digitValue?_digit {digit : Nat} (small : digit < 10) :
    digitValue? (UInt8.ofNat (0x30 + digit)) = some digit := by
  interval_cases digit <;> rfl

def Begins (stack : List Open) (negative : Bool) (state : State) : Prop :=
  ∀ digit, 0 < digit → digit < 10 →
    step state (UInt8.ofNat (0x30 + digit)) = some ⟨stack, .number .digits negative digit⟩

theorem begins_value (stack : List Open) : Begins stack false ⟨stack, .value⟩ := by
  intro digit more small
  interval_cases digit <;> rfl

theorem begins_sign (stack : List Open) : Begins stack true ⟨stack, .number .sign true 0⟩ := by
  intro digit more small
  interval_cases digit <;> rfl

theorem run_toDigits {negative : Bool} (begins : Begins stack negative state) {magnitude : Nat}
    (more : 0 < magnitude) (fits : magnitude ≤ maxMagnitude) :
    run state (Utf8.encode (Nat.toDigits 10 magnitude)) =
      some ⟨stack, .number .digits negative magnitude⟩ := by
  induction magnitude using Nat.strongRecOn with
  | ind magnitude ih =>
    by_cases small : magnitude < 10
    · rw [Nat.toDigits_of_lt_base small, Utf8.encode_cons, Utf8.encode_nil, List.append_nil,
        encodeChar_digitChar small, run_cons (begins magnitude more small)]
      rfl
    · have last : magnitude % 10 < 10 := Nat.mod_lt _ (by decide)
      have whole : magnitude / 10 * 10 + magnitude % 10 = magnitude := by omega
      have grown : growNumber .digits negative (magnitude / 10)
          (UInt8.ofNat (0x30 + magnitude % 10)) = some (.number .digits negative magnitude) := by
        simp only [growNumber, digitValue?_digit last, Numeral.addDigit, whole]
        rw [Nat.min_eq_left (by omega)]
      have stepped : step ⟨stack, .number .digits negative (magnitude / 10)⟩
          (UInt8.ofNat (0x30 + magnitude % 10)) = some ⟨stack, .number .digits negative magnitude⟩ := by
        simp only [step, grown]
      rw [Nat.toDigits_of_base_le (by decide) (Nat.le_of_not_lt small), Utf8.encode_append, run_append,
        ih (magnitude / 10) (by omega) (by omega) (by omega), Option.bind_some, Utf8.encode_cons,
        Utf8.encode_nil, List.append_nil, encodeChar_digitChar last, run_cons stepped]
      rfl

theorem exists_toDigits (magnitude : Nat) :
    ∃ digit < 10, ∃ rest, Nat.toDigits 10 magnitude = Nat.digitChar digit :: rest := by
  induction magnitude using Nat.strongRecOn with
  | ind magnitude ih =>
    by_cases small : magnitude < 10
    · exact ⟨magnitude, small, [], Nat.toDigits_of_lt_base small⟩
    · obtain ⟨digit, lead, rest, same⟩ := ih (magnitude / 10) (by omega)
      refine ⟨digit, lead, rest ++ [(magnitude % 10).digitChar], ?_⟩
      rw [Nat.toDigits_of_base_le (by decide) (Nat.le_of_not_lt small), same, List.cons_append]

inductive Ended (stack : List Open) (value : Json) : State → Prop
  | settled : Ended stack value (settle stack value)
  | number {phase : NumberPhase} {negative : Bool} {magnitude : Nat}
      (whole : phase = .zero ∨ phase = .digits)
      (means : numberValue? phase negative magnitude = some value) :
      Ended stack value ⟨stack, .number phase negative magnitude⟩

theorem Ended.step (ended : Ended stack value state)
    (closes : byte = byteOf ',' ∨ byte = byteOf ']' ∨ byte = byteOf '\x7d') :
    step state byte = stepNext (settle stack value) byte := by
  cases ended with
  | settled =>
    cases stack with
    | nil => rfl
    | cons first rest => cases first <;> rfl
  | number whole means =>
    rename_i phase negative magnitude
    have stopped : growNumber phase negative magnitude byte = none := by
      rcases whole with rfl | rfl <;> rcases closes with rfl | rfl | rfl <;> rfl
    simp only [Json.step, stopped, means]

theorem Ended.result? (ended : Ended [] value state) : state.result? = some value := by
  cases ended with
  | settled => rfl
  | number whole means => exact means

/-- A value whose text is read as this value, whatever is open. -/
def Reads (value : Json) : Prop :=
  ∀ stack, ∃ state, run ⟨stack, .value⟩ (Utf8.encode value.write) = some state ∧
    Ended stack value state

theorem reads_of_settles
    (settles : ∀ stack, run ⟨stack, .value⟩ (Utf8.encode value.write) = some (settle stack value)) :
    Reads value :=
  fun stack => ⟨settle stack value, settles stack, .settled⟩

theorem numberValue?_digits {negative : Bool} {magnitude : Nat} (fits : magnitude ≤ maxMagnitude) :
    numberValue? .digits negative magnitude =
      some (.int (if negative then -magnitude else magnitude)) := by
  unfold numberValue?
  rw [if_neg (Nat.not_lt.2 fits)]

theorem reads_int {value : Int} (fits : value.natAbs ≤ maxMagnitude) : Reads (.int value) := by
  intro stack
  cases value with
  | ofNat magnitude =>
    cases magnitude with
    | zero => exact ⟨⟨stack, .number .zero false 0⟩, rfl, .number (Or.inl rfl) rfl⟩
    | succ magnitude =>
      exact ⟨_, run_toDigits (begins_value stack) (Nat.succ_pos magnitude) fits,
        .number (Or.inr rfl) (numberValue?_digits fits)⟩
  | negSucc magnitude =>
    have sign : Json.step ⟨stack, .value⟩ (byteOf '-') = some ⟨stack, .number .sign true 0⟩ := rfl
    have text : Utf8.encode (write (.int (.negSucc magnitude))) =
        byteOf '-' :: Utf8.encode (Nat.toDigits 10 (magnitude + 1)) := by
      rw [write]
      exact Utf8.encode_cons '-' _
    have whole : magnitude + 1 ≤ maxMagnitude := fits
    refine ⟨⟨stack, .number .digits true (magnitude + 1)⟩, ?_,
      .number (Or.inr rfl) (numberValue?_digits whole)⟩
    rw [text, run_cons sign, run_toDigits (begins_sign stack) (Nat.succ_pos magnitude) whole]

theorem run_closing (ended : Ended stack value state) {c : Char} (ascii : c.toNat < 0x80)
    (closes : byteOf c = byteOf ',' ∨ byteOf c = byteOf ']' ∨ byteOf c = byteOf '\x7d')
    (goes : stepNext (settle stack value) (byteOf c) = some next) (rest : List Char) :
    run state (Utf8.encode (c :: rest)) = run next (Utf8.encode rest) := by
  rw [Utf8.encode_cons, Utf8.encodeChar_of_ascii ascii]
  exact run_cons ((ended.step closes).trans goes) _

theorem run_writeItems (stack : List Open) {items : List Json} (any : items ≠ [])
    (reads : ∀ item ∈ items, Reads item) (done : List Json) :
    run ⟨.array done :: stack, .value⟩ (Utf8.encode (writeItems items ++ [']'])) =
      some (settle stack (.arr (done.reverse ++ items))) := by
  induction items generalizing done with
  | nil => exact absurd rfl any
  | cons item items ih =>
    obtain ⟨own, others⟩ := List.forall_mem_cons.1 reads
    obtain ⟨state, read, ended⟩ := own (.array done :: stack)
    cases items with
    | nil =>
      have closed : stepNext (settle (.array done :: stack) item) (byteOf ']') =
          some (settle stack (.arr (item :: done).reverse)) := rfl
      rw [writeItems, Utf8.encode_append, run_append, read, Option.bind_some,
        run_closing ended (by decide) (Or.inr (Or.inl rfl)) closed, List.reverse_cons]
      rfl
    | cons next items =>
      have goes : stepNext (settle (.array done :: stack) item) (byteOf ',') =
          some ⟨.array (item :: done) :: stack, .value⟩ := rfl
      rw [writeItems, List.append_assoc, List.cons_append, Utf8.encode_append, run_append, read,
        Option.bind_some, run_closing ended (by decide) (Or.inl rfl) goes,
        ih (List.cons_ne_nil _ _) others, List.reverse_cons, List.append_assoc]
      rfl

theorem run_writeFields (stack : List Open) {fields : List (String × Json)} (any : fields ≠ [])
    (reads : ∀ field ∈ fields, Reads field.2) (done : List (String × Json)) (key : String) :
    run ⟨.object done true key :: stack, .key⟩ (Utf8.encode (writeFields fields ++ ['\x7d'])) =
      some (settle stack (.obj (done.reverse ++ fields))) := by
  induction fields generalizing done key with
  | nil => exact absurd rfl any
  | cons field fields ih =>
    obtain ⟨own, others⟩ := List.forall_mem_cons.1 reads
    obtain ⟨name, value⟩ := field
    obtain ⟨state, read, ended⟩ := own (.object done true name :: stack)
    have colon (rest : List Char) :
        run ⟨.object done true key :: stack, .key⟩ (Utf8.encode (writeString name ++ ':' :: rest)) =
          run ⟨.object done true name :: stack, .value⟩ (Utf8.encode rest) := by
      rw [Utf8.encode_append, run_append, run_key, Option.bind_some]
      exact run_cons rfl _
    cases fields with
    | nil =>
      have closed : stepNext (settle (.object done true name :: stack) value) (byteOf '\x7d') =
          some (settle stack (.obj ((name, value) :: done).reverse)) := rfl
      rw [writeFields, List.append_assoc, List.cons_append, colon, Utf8.encode_append, run_append,
        read, Option.bind_some, run_closing ended (by decide) (Or.inr (Or.inr rfl)) closed,
        List.reverse_cons]
      rfl
    | cons next fields =>
      have goes : stepNext (settle (.object done true name :: stack) value) (byteOf ',') =
          some ⟨.object ((name, value) :: done) true name :: stack, .key⟩ := rfl
      have split : writeFields ((name, value) :: next :: fields) ++ ['\x7d'] =
          writeString name ++ ':' :: (value.write ++ ',' :: (writeFields (next :: fields) ++ ['\x7d'])) := by
        simp [writeFields]
      rw [split, colon, Utf8.encode_append, run_append, read, Option.bind_some,
        run_closing ended (by decide) (Or.inl rfl) goes, ih (List.cons_ne_nil _ _) others,
        List.reverse_cons, List.append_assoc]
      rfl

theorem Plain.starts (plain : value.Plain) :
    ∃ byte rest, Utf8.encode value.write = byte :: rest ∧ isSpace byte = false ∧
      byte ≠ byteOf ']' := by
  cases plain with
  | null => exact ⟨_, _, rfl, rfl, by decide⟩
  | bool value => cases value <;> exact ⟨_, _, rfl, rfl, by decide⟩
  | str text => exact ⟨_, _, by rw [write]; exact encode_writeString text, rfl, by decide⟩
  | arr | obj =>
    rw [write]
    exact ⟨_, _, Utf8.encode_cons _ _, rfl, by decide⟩
  | @int value =>
    rw [write]
    cases value with
    | negSucc magnitude => exact ⟨_, _, Utf8.encode_cons '-' _, rfl, by decide⟩
    | ofNat magnitude =>
      obtain ⟨digit, small, rest, digits⟩ := exists_toDigits magnitude
      refine ⟨UInt8.ofNat (0x30 + digit), Utf8.encode rest, ?_, ?_⟩
      · rw [Numeral.ofInt, Numeral.ofNat, digits, Utf8.encode_cons, encodeChar_digitChar small]
        rfl
      · interval_cases digit <;> exact ⟨rfl, by decide⟩

theorem exists_writeItems (item : Json) (items : List Json) :
    ∃ rest, writeItems (item :: items) = item.write ++ rest := by
  cases items with
  | nil => exact ⟨[], (List.append_nil _).symm⟩
  | cons next items => exact ⟨_, rfl⟩

theorem exists_writeFields (field : String × Json) (fields : List (String × Json)) :
    ∃ rest, writeFields (field :: fields) = writeString field.1 ++ rest := by
  cases fields with
  | nil => exact ⟨_, rfl⟩
  | cons next fields => exact ⟨_, List.append_assoc ..⟩

theorem run_firstItem {bytes : Bytes} (blank : isSpace byte = false) (opens : byte ≠ byteOf ']') :
    run ⟨.array [] :: stack, .firstItem⟩ (byte :: bytes) =
      run ⟨.array [] :: stack, .value⟩ (byte :: bytes) := by
  simp [run, step, blank, opens]

theorem reads_arr {items : List Json} (plain : ∀ item ∈ items, item.Plain)
    (reads : ∀ item ∈ items, Reads item) : Reads (.arr items) := by
  refine reads_of_settles (fun stack => ?_)
  have opened : run ⟨stack, .value⟩ (Utf8.encode (write (.arr items))) =
      run ⟨.array [] :: stack, .firstItem⟩ (Utf8.encode (writeItems items ++ [']'])) := by
    rw [write]
    exact run_cons rfl _
  rw [opened]
  cases items with
  | nil => rfl
  | cons item items =>
    obtain ⟨byte, rest, starts, blank, opens⟩ := (plain item List.mem_cons_self).starts
    obtain ⟨others, split⟩ := exists_writeItems item items
    have read := run_writeItems stack (List.cons_ne_nil item items) reads []
    rw [split, List.append_assoc, Utf8.encode_append, starts, List.cons_append] at read ⊢
    rw [run_firstItem blank opens, read]
    rfl

theorem reads_obj {fields : List (String × Json)} (reads : ∀ field ∈ fields, Reads field.2) :
    Reads (.obj fields) := by
  refine reads_of_settles (fun stack => ?_)
  have opened : run ⟨stack, .value⟩ (Utf8.encode (write (.obj fields))) =
      run ⟨.object [] true "" :: stack, .firstKey⟩ (Utf8.encode (writeFields fields ++ ['\x7d'])) := by
    rw [write]
    exact run_cons rfl _
  rw [opened]
  cases fields with
  | nil => rfl
  | cons field fields =>
    have read := run_writeFields stack (List.cons_ne_nil field fields) reads [] ""
    -- The first key begins with a quote, as every key does.
    obtain ⟨others, split⟩ := exists_writeFields field fields
    rw [split, List.append_assoc, Utf8.encode_append, encode_writeString] at read ⊢
    exact read

theorem Plain.reads (plain : value.Plain) : Reads value := by
  induction plain with
  | null => exact reads_of_settles (fun _ => rfl)
  | bool value => cases value <;> exact reads_of_settles (fun _ => rfl)
  | int fits => exact reads_int fits
  | str text => exact reads_of_settles (fun _ => by rw [write]; exact run_writeString text)
  | arr plain reads => exact reads_arr plain reads
  | obj _ reads => exact reads_obj reads

theorem Plain.read?_bytes (plain : value.Plain) : read? value.bytes = some value := by
  obtain ⟨state, read, ended⟩ := plain.reads []
  unfold read? Json.bytes
  rw [read]
  exact ended.result?

end TileServer.Json
