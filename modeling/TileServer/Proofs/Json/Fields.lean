import Mathlib.Data.List.Nodup
import TileServer.Json.Record
import TileServer.Proofs.Json.Reading

namespace TileServer.Json

/-- A way to write values and a way to read them that gives each of them back, also from the text. -/
structure Faithful (write : α → Json) (read : Json → Option α) : Prop where
  plain : ∀ value, (write value).Plain
  back : ∀ value, read (write value) = some value

variable {write : α → Json} {read : Json → Option α}

theorem Faithful.read?_bytes (faithful : Faithful write read) (value : α) :
    (read? (write value).bytes).bind read = some value := by
  rw [(faithful.plain value).read?_bytes, Option.bind_some, faithful.back]

theorem faithful_bool : Faithful .bool asBool? :=
  ⟨.bool, fun _ => rfl⟩

theorem faithful_str : Faithful .str asString? :=
  ⟨.str, fun _ => rfl⟩

theorem faithful_int32 : Faithful ofInt32 asInt32? := by
  have range (value : Int32) : -2147483648 ≤ value.toInt ∧ value.toInt ≤ 2147483647 := by
    have low := value.le_toInt
    have high := value.toInt_lt
    omega
  refine ⟨fun value => .int ?_, fun value => ?_⟩
  · have range := range value
    simp only [maxMagnitude]
    omega
  · rw [ofInt32, asInt32?, if_pos (range value), Int32.ofInt_toInt]

theorem faithful_uint32 : Faithful ofUInt32 asUInt32? := by
  refine ⟨fun value => .int ?_, fun value => ?_⟩
  · have range := value.toNat_lt
    simp only [maxMagnitude, Int.natAbs_natCast]
    omega
  · have range : (0 : Int) ≤ value.toNat ∧ (value.toNat : Int) ≤ 4294967295 := by
      have range := value.toNat_lt
      omega
    rw [ofUInt32, asUInt32?, if_pos range, Int.toNat_natCast, UInt32.ofNat_toNat]

theorem mapM_map {reader : β → Option α} {writer : α → β} {items : List α}
    (back : ∀ item ∈ items, reader (writer item) = some item) :
    (items.map writer).mapM reader = some items := by
  induction items with
  | nil => rfl
  | cons item items ih =>
    obtain ⟨own, others⟩ := List.forall_mem_cons.1 back
    rw [List.map_cons, List.mapM_cons, own, ih others]
    rfl

theorem eq_map_of_mapM {reader : β → Option α} {writer : α → β}
    (written : ∀ item value, reader item = some value → item = writer value) {items : List β}
    {values : List α} (read : items.mapM reader = some values) : items = values.map writer := by
  induction items generalizing values with
  | nil =>
    cases read
    rfl
  | cons item items ih =>
    rw [List.mapM_cons] at read
    obtain ⟨value, own, rest⟩ := Option.bind_eq_some_iff.1 read
    obtain ⟨others, each, whole⟩ := Option.bind_eq_some_iff.1 rest
    cases whole
    rw [List.map_cons, ← written item value own, ← ih each]

theorem Faithful.list (faithful : Faithful write read) :
    Faithful (fun items => .arr (items.map write)) (asList? read) where
  plain items := .arr (by simpa using fun item _ => faithful.plain item)
  back items := mapM_map (fun item _ => faithful.back item)

theorem Faithful.optional? (faithful : Faithful write read) (solid : ∀ value, write value ≠ .null)
    (value : Option α) : optional? read (value.map write) = some value := by
  cases value with
  | none => rfl
  | some value =>
    rw [Option.map_some, Json.optional?, faithful.back, Option.map_some]
    exact solid value

theorem Faithful.optional?_orNull (faithful : Faithful write read)
    (solid : ∀ value, write value ≠ .null) (value : Option α) :
    Json.optional? read (some (orNull write value)) = some value := by
  cases value with
  | none => rfl
  | some value => exact faithful.optional? solid (some value)

theorem Faithful.plain_orNull (faithful : Faithful write read) (value : Option α) :
    (orNull write value).Plain := by
  cases value with
  | none => exact .null
  | some value => exact faithful.plain value

def present (slots : List (String × Option Json)) : List (String × Json) :=
  slots.filterMap (fun slot => slot.2.map (fun value => (slot.1, value)))

theorem present_append (first second : List (String × Option Json)) :
    present (first ++ second) = present first ++ present second :=
  List.filterMap_append

@[simp] theorem present_nil : present [] = [] :=
  rfl

@[simp] theorem present_cons_some (name : String) (value : Json)
    (slots : List (String × Option Json)) :
    present ((name, some value) :: slots) = (name, value) :: present slots :=
  rfl

@[simp] theorem present_cons_map (name : String) (write : α → Json) (value : Option α)
    (slots : List (String × Option Json)) :
    present ((name, value.map write) :: slots) = field? name write value ++ present slots := by
  cases value <;> rfl

theorem plain_present {slots : List (String × Option Json)}
    (plain : ∀ slot ∈ slots, ∀ value ∈ slot.2, value.Plain) : (Json.obj (present slots)).Plain := by
  refine .obj (fun field member => ?_)
  obtain ⟨slot, there, given⟩ := List.mem_filterMap.1 member
  obtain ⟨value, holds, rfl⟩ := Option.map_eq_some_iff.1 given
  exact plain slot there value holds

theorem filter_present_of_missing {slots : List (String × Option Json)} {name : String}
    (missing : name ∉ slots.map Prod.fst) :
    (present slots).filter (fun field => field.1 == name) = [] := by
  refine List.filter_eq_nil_iff.2 (fun field member same => missing ?_)
  obtain ⟨slot, there, given⟩ := List.mem_filterMap.1 member
  obtain ⟨value, _, rfl⟩ := Option.map_eq_some_iff.1 given
  exact List.mem_map.2 ⟨slot, there, beq_iff_eq.1 same⟩

theorem single?_present {slots : List (String × Option Json)} (nodup : (slots.map Prod.fst).Nodup)
    {slot : String × Option Json} (member : slot ∈ slots) :
    single? (present slots) slot.1 = some slot.2 := by
  obtain ⟨front, back, rfl⟩ := List.append_of_mem member
  rw [List.map_append, List.map_cons] at nodup
  have elsewhere := (List.nodup_middle.1 nodup).notMem
  rw [List.mem_append, not_or] at elsewhere
  have own : present (front ++ slot :: back) = present front ++ (present [slot] ++ present back) := by
    rw [← present_append, ← present_append]
    rfl
  unfold single?
  rw [own, List.filter_append, List.filter_append, filter_present_of_missing elsewhere.1,
    filter_present_of_missing elsewhere.2, List.nil_append, List.append_nil]
  obtain ⟨name, value⟩ := slot
  cases value with
  | none => rfl
  | some value => simp [present]

theorem slots?_present (slots : List (String × Option Json)) {names : List String} (optional : Nat)
    (named : slots.map Prod.fst = names) (nodup : names.Nodup) :
    slots? names optional (.obj (present slots)) = some (slots.map Prod.snd) := by
  subst named
  have found : ∀ part ⊆ slots, (part.map Prod.fst).mapM (single? (present slots)) =
      some (part.map Prod.snd) := by
    intro part subset
    induction part with
    | nil => rfl
    | cons slot part ih =>
      obtain ⟨own, others⟩ := List.cons_subset.1 subset
      rw [List.map_cons, List.mapM_cons, single?_present nodup own, ih others]
      rfl
  exact found slots (List.Subset.refl slots)

theorem Faithful.of_slots (slots : α → List (String × Option Json)) (names : List String)
    (optional : Nat) (written : ∀ value, write value = .obj (present (slots value)))
    (named : ∀ value, (slots value).map Prod.fst = names) (nodup : names.Nodup)
    (plain : ∀ value, ∀ slot ∈ slots value, ∀ content ∈ slot.2, content.Plain)
    (back : ∀ value, slots? names optional (write value) = some ((slots value).map Prod.snd) →
      read (write value) = some value) : Faithful write read where
  plain value := by
    rw [written]
    exact plain_present (plain value)
  back value := by
    refine back value ?_
    rw [written]
    exact slots?_present (slots value) optional (named value) nodup

end TileServer.Json
