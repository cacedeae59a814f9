import CloudBalance.Json.Parser

/-!
# Decoding records

A record is written as an object, or as an array that lists its fields in the order in which they
are declared. Members of other names are skipped; a declared name that comes twice is a fault. A
choice between constants is written as the constant's name, and a choice between records as a
record with one more member that names the choice.
-/

namespace CloudBalance.Json

/-! ## Simple values -/

def toString? : Json → Option String
  | .string s => some s
  | _ => none

def toBool? : Json → Option Bool
  | .bool b => some b
  | _ => none

/-- An integer from `least` to `greatest`. -/
def toIntIn? (least greatest : Int) : Json → Option Int
  | .number (.integer n) => if least ≤ n && n ≤ greatest then some n else none
  | _ => none

/-- A natural number below `bound`. -/
def toNatBelow? (bound : Nat) (value : Json) : Option Nat :=
  (value.toIntIn? 0 (bound - 1)).map Int.toNat

def toList? {α : Type} (decode : Json → Option α) : Json → Option (List α)
  | .array items => items.mapM decode
  | _ => none

/-- A value or `null`. -/
def toOption? {α : Type} (decode : Json → Option α) : Json → Option (Option α)
  | .null => some none
  | value => (decode value).map some

/-- The name of a constant, alone or as the one name of an object that holds `null`. -/
def toChoice? : Json → Option String
  | .string s => some s
  | .object [(name, .null)] => some name
  | _ => none

/-! ## Records -/

/-- What a text gives for one declared field. -/
inductive Slot where
  | given (value : Json)
  /-- The object has no member of that name. -/
  | absent
  /-- The array ends before the field. -/
  | beyond

/-- The field must be there. -/
def Slot.required {α : Type} (decode : Json → Option α) : Slot → Option α
  | .given value => decode value
  | _ => none

/-- The field may be absent or `null`, but an array may not end before it. -/
def Slot.optional {α : Type} (decode : Json → Option α) : Slot → Option (Option α)
  | .given value => value.toOption? decode
  | .absent => some none
  | .beyond => none

/-- The field has the value `standard` where it is not written. -/
def Slot.orElse {α : Type} (standard : α) (decode : Json → Option α) : Slot → Option α
  | .given value => decode value
  | _ => some standard

/-- How often a name is used. -/
def countName (name : String) (members : List (String × Json)) : Nat :=
  members.countP (·.1 == name)

/-- What a value gives for the fields of the names `names`, in that order. -/
def slots? (names : List String) : Json → Option (List Slot)
  | .object members =>
    if names.all fun name => countName name members ≤ 1 then
      some (names.map fun name => ((members.lookup name).map Slot.given).getD .absent)
    else none
  | .array items =>
    if items.length ≤ names.length then
      some (items.map .given ++ List.replicate (names.length - items.length) .beyond)
    else none
  | _ => none

/-- For a choice between records: the name of the choice, which the member `tag` gives, and what is
left of the record. The record is read whole, so nothing in it may be unreadable. -/
def tagged? (tag : String) (room : Nat) (value : Json) : Option (String × Json) :=
  if value.isReadable room then
    match value with
    | .object members =>
      if countName tag members = 1 then do
        let choice ← (← members.lookup tag).toString?
        return (choice, .object (members.filter (·.1 != tag)))
      else none
    | .array (first :: rest) => do return (← first.toString?, .array rest)
    | _ => none
  else none

mutual

/-- The value in which each object has each name once, the last one standing for all. -/
def collapse : Json → Json
  | .array items => .array (collapseAll items)
  | .object members => .object (lastMembers (collapseMembers members))
  | value => value

def collapseAll : List Json → List Json
  | [] => []
  | item :: rest => item.collapse :: collapseAll rest

def collapseMembers : List (String × Json) → List (String × Json)
  | [] => []
  | (name, value) :: rest => (name, value.collapse) :: collapseMembers rest

end

/-- Reads a text into a value whole, before anything is known of its shape. -/
def parseWhole? (text : String) : Option Json := do
  let value ← parse? text
  if value.isReadable maxDepth then some value.collapse else none

/-- Decodes the value that a text holds. -/
def decode? {α : Type} (decode : Json → Option α) (text : String) : Option α :=
  (parse? text).bind decode

end CloudBalance.Json
