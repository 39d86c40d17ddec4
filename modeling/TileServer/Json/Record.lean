import TileServer.Json.Basic

namespace TileServer.Json

def asBool? : Json → Option Bool
  | .bool value => some value
  | _ => none

def asString? : Json → Option String
  | .str value => some value
  | _ => none

def asInt32? : Json → Option Int32
  | .int value => if -2147483648 ≤ value ∧ value ≤ 2147483647 then some (Int32.ofInt value) else none
  | _ => none

def asUInt32? : Json → Option UInt32
  | .int value => if 0 ≤ value ∧ value ≤ 4294967295 then some (UInt32.ofNat value.toNat) else none
  | _ => none

def ofInt32 (value : Int32) : Json := .int value.toInt

def ofUInt32 (value : UInt32) : Json := .int value.toNat

def asList? (item : Json → Option α) : Json → Option (List α)
  | .arr items => items.mapM item
  | _ => none

def single? (fields : List (String × Json)) (key : String) : Option (Option Json) :=
  match fields.filter (fun field => field.1 == key) with
  | [] => some none
  | [field] => some (some field.2)
  | _ => none

/-- The fields of a record in the order of their names, each with its value if it has one. In an
array all are there but at most `optional` at the end. -/
def slots? (names : List String) (optional : Nat) : Json → Option (List (Option Json))
  | .obj fields => names.mapM (single? fields)
  | .arr items =>
    if items.length ≤ names.length && names.length ≤ items.length + optional then
      some (items.map some ++ List.replicate (names.length - items.length) none)
    else none
  | _ => none

def required? (read : Json → Option α) : Option Json → Option α
  | some value => read value
  | none => none

def optional? (read : Json → Option α) : Option Json → Option (Option α)
  | none => some none
  | some .null => some none
  | some value => (read value).map some

def orElse? (missing : α) (read : Json → Option α) : Option Json → Option α
  | none => some missing
  | some value => read value

def field? (name : String) (write : α → Json) : Option α → List (String × Json)
  | some value => [(name, write value)]
  | none => []

def orNull (write : α → Json) : Option α → Json
  | some value => write value
  | none => .null

end TileServer.Json
