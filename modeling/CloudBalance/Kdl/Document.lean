/-!
# KDL documents

A document is a list of nodes. A node has a name, entries (arguments without a name, properties with
one) and children, which are nodes again. Type annotations say nothing about the value and are not
kept.
-/

namespace CloudBalance.Kdl

inductive Value where
  | string (text : String)
  | integer (value : Int)
  /-- The number `mantissa * 10 ^ exponent`, written with a point or an exponent. -/
  | decimal (mantissa exponent : Int)
  | infinity (negative : Bool)
  | notANumber
  | bool (value : Bool)
  | null
  deriving DecidableEq, Repr

/-- An argument, or a property if it has a name. -/
structure Entry where
  name : Option String
  value : Value
  deriving DecidableEq, Repr

inductive Node where
  | mk (name : String) (entries : List Entry) (children : List Node)
  deriving Repr

namespace Node

def name : Node → String
  | .mk name _ _ => name

def entries : Node → List Entry
  | .mk _ entries _ => entries

def children : Node → List Node
  | .mk _ _ children => children

/-- The value of the first argument. -/
def firstArgument (node : Node) : Option Value :=
  (node.entries.find? (·.name.isNone)).map (·.value)

/-- The first argument, if it is a text. -/
def firstString (node : Node) : Option String :=
  match node.firstArgument with
  | some (.string text) => some text
  | _ => none

/-- The first argument, if it is an integer. -/
def firstInteger (node : Node) : Option Int :=
  match node.firstArgument with
  | some (.integer n) => some n
  | _ => none

/-- The children of a name. -/
def childrenNamed (node : Node) (name : String) : List Node :=
  node.children.filter (·.name == name)

/-- The first child of a name. -/
def child? (node : Node) (name : String) : Option Node :=
  node.children.find? (·.name == name)

end Node

mutual

/-- Whether two nodes are the same, down to their children. -/
def Node.decideEq : (a b : Node) → Decidable (a = b)
  | .mk name entries children, .mk name' entries' children' =>
    match decEq name name', decEq entries entries', Node.decideEqAll children children' with
    | isTrue names, isTrue values, isTrue nodes => isTrue (by rw [names, values, nodes])
    | isFalse differ, _, _ => isFalse fun same => differ (Node.mk.inj same).1
    | _, isFalse differ, _ => isFalse fun same => differ (Node.mk.inj same).2.1
    | _, _, isFalse differ => isFalse fun same => differ (Node.mk.inj same).2.2

def Node.decideEqAll : (a b : List Node) → Decidable (a = b)
  | [], [] => isTrue rfl
  | [], _ :: _ => isFalse nofun
  | _ :: _, [] => isFalse nofun
  | a :: as, b :: bs =>
    match Node.decideEq a b, Node.decideEqAll as bs with
    | isTrue first, isTrue rest => isTrue (by rw [first, rest])
    | isFalse differ, _ => isFalse fun same => differ (List.cons.inj same).1
    | _, isFalse differ => isFalse fun same => differ (List.cons.inj same).2

end

instance : DecidableEq Node := Node.decideEq

/-- The nodes at the top level. -/
abbrev Document := List Node

end CloudBalance.Kdl
