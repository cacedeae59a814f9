import CloudBalance.Json.Value
import CloudBalance.Text.Digits

/-!
# Reading JSON texts

`Json.parse?` reads one value with nothing but blanks around it. It works on the list of characters;
each step returns the value and the characters after it.
-/

namespace CloudBalance.Json

/-- The blanks of the grammar. -/
def isBlank (c : Char) : Bool :=
  c = ' ' || c = '\n' || c = '\t' || c = '\r'

def skipBlanks (cs : List Char) : List Char :=
  cs.dropWhile isBlank

/-! ## Strings -/

/-- The code that four digits stand for. -/
def hexCode? (a b c d : Char) : Option Nat :=
  ([a, b, c, d].mapM (Text.digit? 16)).map (Text.ofDigits 16)

/-- The character after a backslash that stands for one character. -/
def escape? : Char → Option Char
  | '"' => some '"'
  | '\\' => some '\\'
  | '/' => some '/'
  | 'b' => some '\x08'
  | 'f' => some '\x0c'
  | 'n' => some '\n'
  | 'r' => some '\r'
  | 't' => some '\t'
  | _ => none

/-- Reads the inside of a string and its closing quotation mark. The result lists code points, in
which a surrogate may still stand alone. -/
def scanString : List Char → Option (List Nat × List Char)
  | '"' :: rest => some ([], rest)
  | '\\' :: 'u' :: a :: b :: c :: d :: rest => do
    let code ← hexCode? a b c d
    let (codes, rest) ← scanString rest
    return (code :: codes, rest)
  | '\\' :: c :: rest => do
    let char ← escape? c
    let (codes, rest) ← scanString rest
    return (char.toNat :: codes, rest)
  | c :: rest => do
    if c.toNat < 0x20 || c = '\\' then none
    let (codes, rest) ← scanString rest
    return (c.toNat :: codes, rest)
  | [] => none

def isHighSurrogate (n : Nat) : Bool := 0xd800 ≤ n && n ≤ 0xdbff

def isLowSurrogate (n : Nat) : Bool := 0xdc00 ≤ n && n ≤ 0xdfff

/-- Joins each pair of surrogates to the character that it stands for. -/
def joinSurrogates? : List Nat → Option (List Char)
  | [] => some []
  | high :: low :: rest =>
    if isHighSurrogate high && isLowSurrogate low then
      (Char.ofNat (0x10000 + (high - 0xd800) * 0x400 + (low - 0xdc00)) :: ·) <$> joinSurrogates? rest
    else if isHighSurrogate high || isLowSurrogate high then none
    else (Char.ofNat high :: ·) <$> joinSurrogates? (low :: rest)
  | [n] => if isHighSurrogate n || isLowSurrogate n then none else some [Char.ofNat n]

/-- The text of a string whose code points are `codes`. -/
def textOf? (codes : List Nat) : Option String :=
  String.ofList <$> joinSurrogates? codes

/-! ## Numbers -/

/-- Half a unit above the greatest double: the least number that is read as infinite. -/
def infinityBound : Nat := Nat.pow 2 1024 - Nat.pow 2 970

/-- Whether `mantissa * 10 ^ exponent` is beyond every double. -/
def isBeyondDouble (mantissa : Nat) (exponent : Int) : Bool :=
  let places : Int := (Nat.toDigits 10 mantissa).length + exponent
  mantissa != 0 && (310 < places ||
    (-400 < places && infinityBound * Nat.pow 10 (-exponent).toNat ≤ mantissa * Nat.pow 10 exponent.toNat))

/-- A number from its sign, the digits before and after the point and the exponent. `plain` says
that neither a point nor an exponent was written. -/
def numberOf (negative : Bool) (whole fraction : List Char) (exponent : Int) (plain : Bool) : Json :=
  let mantissa := Text.natOfDigits (whole ++ fraction)
  let signed : Int := if negative then -mantissa else mantissa
  let exponent := exponent - fraction.length
  if plain && !(negative && mantissa == 0) && Int64.minValue.toInt ≤ signed && signed < UInt64.size then
    .number (.integer signed)
  else if isBeyondDouble mantissa exponent then .unreadable
  else .number (.decimal negative mantissa exponent)

/-- Reads the digits after `'.'`, if there is one. -/
def scanFraction : List Char → Option (List Char × List Char)
  | '.' :: rest =>
    match rest.takeWhile Char.isDigit with
    | [] => none
    | digits => some (digits, rest.dropWhile Char.isDigit)
  | cs => some ([], cs)

/-- Reads an exponent, if there is one: its value and whether it was written. -/
def scanExponent : List Char → Option ((Int × Bool) × List Char)
  | c :: rest =>
    if c = 'e' || c = 'E' then
      let (negative, rest) :=
        match rest with
        | '-' :: r => (true, r)
        | '+' :: r => (false, r)
        | r => (false, r)
      match rest.takeWhile Char.isDigit with
      | [] => none
      | digits =>
        let n : Int := Text.natOfDigits digits
        some ((if negative then -n else n, true), rest.dropWhile Char.isDigit)
    else some ((0, false), c :: rest)
  | [] => some ((0, false), [])

/-- Reads a number. A leading zero stands alone before the point. -/
def scanNumber (cs : List Char) : Option (Json × List Char) := do
  let (negative, cs) :=
    match cs with
    | '-' :: r => (true, r)
    | r => (false, r)
  let whole := cs.takeWhile Char.isDigit
  if whole.isEmpty || (whole.head? = some '0' && 1 < whole.length) then none
  let (fraction, rest) ← scanFraction (cs.dropWhile Char.isDigit)
  let ((exponent, written), rest) ← scanExponent rest
  return (numberOf negative whole fraction exponent (fraction.isEmpty && !written), rest)

/-! ## Values -/

/-- An object, unless one of its names has no text. -/
def objectOf (members : List (Option String × Json)) : Json :=
  match members.mapM fun (name, value) => name.map (·, value) with
  | some members => .object members
  | none => .unreadable

mutual

/-- Reads a value. Of the two counts that bound the recursion, each character in the text uses up
at most two. -/
def scanValue : Nat → List Char → Option (Json × List Char)
  | 0, _ => none
  | fuel + 1, cs =>
    match skipBlanks cs with
    | 'n' :: 'u' :: 'l' :: 'l' :: rest => some (.null, rest)
    | 't' :: 'r' :: 'u' :: 'e' :: rest => some (.bool true, rest)
    | 'f' :: 'a' :: 'l' :: 's' :: 'e' :: rest => some (.bool false, rest)
    | '"' :: rest => do
      let (codes, rest) ← scanString rest
      return (((textOf? codes).map .string).getD .unreadable, rest)
    | '[' :: rest =>
      match skipBlanks rest with
      | ']' :: rest => some (.array [], rest)
      | rest => do
        let (items, rest) ← scanItems fuel rest
        return (.array items, rest)
    | '\x7b' :: rest =>
      match skipBlanks rest with
      | '\x7d' :: rest => some (.object [], rest)
      | rest => do
        let (members, rest) ← scanMembers fuel rest
        return (objectOf members, rest)
    | rest => scanNumber rest

/-- Reads the items of an array and its closing bracket. -/
def scanItems : Nat → List Char → Option (List Json × List Char)
  | 0, _ => none
  | fuel + 1, cs => do
    let (item, rest) ← scanValue fuel cs
    match skipBlanks rest with
    | ']' :: rest => return ([item], rest)
    | ',' :: rest =>
      let (items, rest) ← scanItems fuel rest
      return (item :: items, rest)
    | _ => none

/-- Reads the members of an object and its closing brace. A name without a text is `none`. -/
def scanMembers : Nat → List Char → Option (List (Option String × Json) × List Char)
  | 0, _ => none
  | fuel + 1, cs =>
    match skipBlanks cs with
    | '"' :: rest => do
      let (codes, rest) ← scanString rest
      match skipBlanks rest with
      | ':' :: rest =>
        let (value, rest) ← scanValue fuel rest
        match skipBlanks rest with
        | '\x7d' :: rest => return ([(textOf? codes, value)], rest)
        | ',' :: rest =>
          let (members, rest) ← scanMembers fuel rest
          return ((textOf? codes, value) :: members, rest)
        | _ => none
      | _ => none
    | _ => none

end

/-- The value that a text holds. -/
def parse? (text : String) : Option Json := do
  let cs := text.toList
  let (value, rest) ← scanValue (2 * cs.length + 2) cs
  if (skipBlanks rest).isEmpty then some value else none

end CloudBalance.Json
