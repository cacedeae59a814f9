import CloudBalance.Kdl.Document
import CloudBalance.Text.Digits

/-!
# Numbers in KDL

Integers in base two, eight, ten and sixteen, and decimal numbers with a point or an exponent. Digits
may be set apart by underscores. An integer is held in 128 bits, and the one value that has no
positive counterpart there is not accepted.
-/

namespace CloudBalance.Kdl

def isDigitOf (base : Nat) (c : Char) : Bool :=
  (Text.digit? base c).isSome

/-- The least natural number that is too great for an integer. -/
def integerBound : Nat := Nat.pow 2 127

/-- Digits that were read: their value and how many there are. -/
structure Digits where
  value : Nat
  count : Nat

/-- Reads digits and underscores, of which a digit comes first. -/
def readDigits? (base : Nat) (cs : List Char) : Option (Digits × List Char) :=
  let isPart := fun c => isDigitOf base c || c == '_'
  if cs.head?.any (isDigitOf base) then
    let digits := (cs.takeWhile isPart).filterMap (Text.digit? base)
    let value := Text.ofDigits base digits
    if value < integerBound then some (⟨value, digits.length⟩, cs.dropWhile isPart) else none
  else none

/-- Reads a sign, if there is one: whether it is a minus. -/
def readSign : List Char → Bool × List Char
  | '-' :: rest => (true, rest)
  | '+' :: rest => (false, rest)
  | cs => (false, cs)

def signed (negative : Bool) (n : Nat) : Int :=
  if negative then -n else n

/-- Reads the digits after a point, if there is one. -/
def readFraction? : List Char → Option (Option Digits × List Char)
  | '.' :: rest => (readDigits? 10 rest).map fun (digits, rest) => (some digits, rest)
  | cs => some (none, cs)

/-- Reads an exponent, if there is one. -/
def readExponent? : List Char → Option (Option Int × List Char)
  | 'e' :: rest | 'E' :: rest =>
    let (negative, rest) := readSign rest
    (readDigits? 10 rest).map fun (digits, rest) => (some (signed negative digits.value), rest)
  | cs => some (none, cs)

/-- Reads a number. -/
def readNumber? (cs : List Char) : Option (Value × List Char) :=
  let (negative, cs) := readSign cs
  let inBase (base : Nat) (rest : List Char) : Option (Value × List Char) :=
    (readDigits? base rest).map fun (digits, rest) => (.integer (signed negative digits.value), rest)
  match cs with
  | '0' :: 'x' :: rest => inBase 16 rest
  | '0' :: 'o' :: rest => inBase 8 rest
  | '0' :: 'b' :: rest => inBase 2 rest
  | _ => do
    let (whole, rest) ← readDigits? 10 cs
    let (fraction, rest) ← readFraction? rest
    let (exponent, rest) ← readExponent? rest
    match fraction, exponent with
    | none, none => return (.integer (signed negative whole.value), rest)
    | _, _ =>
      let fraction := fraction.getD ⟨0, 0⟩
      let mantissa := whole.value * Nat.pow 10 fraction.count + fraction.value
      return (.decimal (signed negative mantissa) (exponent.getD 0 - fraction.count), rest)

end CloudBalance.Kdl
