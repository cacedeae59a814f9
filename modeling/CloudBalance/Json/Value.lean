/-!
# JSON values

A value as it is read from a text. Two things in a text obey the grammar and yet have no value: a
string with half of a surrogate pair, and a number beyond the greatest double. They are kept as
`unreadable`, because a reader that skips a member must not stumble over it.
-/

namespace CloudBalance

/-- An integer of 64 bits, or any other number as a sign and `mantissa * 10 ^ exponent`. Zero has a
sign, too. -/
inductive Json.Number where
  | integer (value : Int)
  | decimal (negative : Bool) (mantissa : Nat) (exponent : Int)
  deriving DecidableEq, Repr

inductive Json where
  | null
  | bool (value : Bool)
  | number (value : Json.Number)
  | string (value : String)
  | array (items : List Json)
  | object (members : List (String × Json))
  | unreadable
  deriving Inhabited, Repr

namespace Json

/-- An object without the members that are absent. -/
def present (members : List (Option (String × Json))) : Json :=
  .object (members.filterMap id)

def ofNat (n : Nat) : Json := .number (.integer n)

def ofInt (n : Int) : Json := .number (.integer n)

/-- A value or `null`. -/
def ofOption {α : Type} (encode : α → Json) : Option α → Json
  | some a => encode a
  | none => .null

def ofList {α : Type} (encode : α → Json) (items : List α) : Json :=
  .array (items.map encode)

def strings (items : List String) : Json :=
  ofList .string items

/-! ## Values that can be read whole -/

/-- The greatest depth to which arrays and objects may be nested in a value that is read whole. -/
def maxDepth : Nat := 127

mutual

/-- Whether nothing in the value is unreadable and it is nested to at most `room` levels. -/
def isReadable (room : Nat) : Json → Bool
  | .array items => 0 < room && allReadable (room - 1) items
  | .object members => 0 < room && membersReadable (room - 1) members
  | .unreadable => false
  | _ => true

def allReadable (room : Nat) : List Json → Bool
  | [] => true
  | item :: rest => item.isReadable room && allReadable room rest

def membersReadable (room : Nat) : List (String × Json) → Bool
  | [] => true
  | (_, value) :: rest => value.isReadable room && membersReadable room rest

end

/-- The members with each name once, the last one of a name standing for all. -/
def lastMembers {α : Type} (members : List (String × α)) : List (String × α) :=
  members.foldr (fun m later => if later.any (·.1 == m.1) then later else m :: later) []

end Json

end CloudBalance
