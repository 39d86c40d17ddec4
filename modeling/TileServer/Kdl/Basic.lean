namespace TileServer.Kdl

/-- A value of an entry. Integers fit 64 bits with a sign; of a number with a fraction or an exponent
only its kind is kept. -/
inductive Value
  | null
  | bool (value : Bool)
  | int (value : Int)
  | float
  | str (value : String)
  deriving Repr, DecidableEq

structure Entry where
  name : Option String
  value : Value
  deriving Repr, DecidableEq

inductive Node
  | mk (name : String) (entries : List Entry) (children : List Node)
  deriving Repr, Inhabited

mutual

def Node.decideEq : (one other : Node) → Decidable (one = other)
  | .mk name entries children, .mk name' entries' children' =>
    if own : name = name' ∧ entries = entries' then
      match Node.decideEqAll children children' with
      | .isTrue below => .isTrue (by rw [own.1, own.2, below])
      | .isFalse different => .isFalse (fun same => different (Node.mk.inj same).2.2)
    else .isFalse (fun same => own ⟨(Node.mk.inj same).1, (Node.mk.inj same).2.1⟩)

def Node.decideEqAll : (first others : List Node) → Decidable (first = others)
  | [], [] => .isTrue rfl
  | [], _ :: _ => .isFalse nofun
  | _ :: _, [] => .isFalse nofun
  | one :: rest, other :: others =>
    match Node.decideEq one other, Node.decideEqAll rest others with
    | .isTrue first, .isTrue behind => .isTrue (by rw [first, behind])
    | .isFalse different, _ => .isFalse (fun same => different (List.cons.inj same).1)
    | _, .isFalse different => .isFalse (fun same => different (List.cons.inj same).2)

end

instance : DecidableEq Node := Node.decideEq

namespace Node

def name : Node → String
  | mk name _ _ => name

def entries : Node → List Entry
  | mk _ entries _ => entries

def children : Node → List Node
  | mk _ _ children => children

def arguments (node : Node) : List Value :=
  (node.entries.filter (fun entry => entry.name.isNone)).map Entry.value

end Node

def Value.asString? : Value → Option String
  | .str value => some value
  | _ => none

def Value.asInt? : Value → Option Int
  | .int value => some value
  | _ => none

def Value.asBool? : Value → Option Bool
  | .bool value => some value
  | _ => none

def Node.firstString? (node : Node) : Option String :=
  node.arguments.head?.bind Value.asString?

def Node.firstInt? (node : Node) : Option Int :=
  node.arguments.head?.bind Value.asInt?

/-- A node without arguments says yes; otherwise its first argument decides if it is a boolean. -/
def Node.isSet (node : Node) : Bool :=
  (node.arguments.head?.bind Value.asBool?).getD true

end TileServer.Kdl
