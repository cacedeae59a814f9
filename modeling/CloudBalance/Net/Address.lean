import CloudBalance.Text.Digits

/-!
# Network addresses

Addresses of both versions with their written forms. Reading is strict: a dotted quad has four
numbers without leading zeros, and an address of eight groups may leave out one run of zero groups
as `::` and may end in a dotted quad. Writing is canonical: the first longest run of at least two
zero groups is left out, and only an address mapped from version 4 ends in a dotted quad.
-/

namespace CloudBalance.Net

/-- Four numbers of version 4, or eight groups of version 6. -/
inductive Address where
  | v4 (a b c d : UInt8)
  | v6 (groups : Vector UInt16 8)
  deriving DecidableEq, Repr

namespace Address

/-! ## Reading -/

/-- The digits at the front of a text. -/
def takeDigits (base : Nat) : List Char → List Nat × List Char
  | [] => ([], [])
  | c :: rest =>
    match Text.digit? base c with
    | some n => (n :: (takeDigits base rest).1, (takeDigits base rest).2)
    | none => ([], c :: rest)

/-- Reads a number of a dotted quad: at most three digits, no leading zero, below 256. -/
def readOctet (cs : List Char) : Option (UInt8 × List Char) :=
  let (digits, rest) := takeDigits 10 cs
  let value := Text.ofDigits 10 digits
  if digits.isEmpty || 3 < digits.length || 255 < value then none
  else if digits.head? = some 0 && 1 < digits.length then none
  else some (value.toUInt8, rest)

/-- Reads a group: one to four digits of base sixteen. -/
def readGroup (cs : List Char) : Option (UInt16 × List Char) :=
  let (digits, rest) := takeDigits 16 cs
  if digits.isEmpty || 4 < digits.length then none
  else some ((Text.ofDigits 16 digits).toUInt16, rest)

/-- Reads the character `c`. -/
def readChar (c : Char) : List Char → Option (List Char)
  | d :: rest => if d = c then some rest else none
  | [] => none

/-- Reads a dotted quad. -/
def readQuad (cs : List Char) : Option ((UInt8 × UInt8 × UInt8 × UInt8) × List Char) := do
  let (a, cs) ← readOctet cs
  let (b, cs) ← readOctet (← readChar '.' cs)
  let (c, cs) ← readOctet (← readChar '.' cs)
  let (d, cs) ← readOctet (← readChar '.' cs)
  return ((a, b, c, d), cs)

/-- The group that two numbers of a dotted quad fill. -/
def groupOf (high low : UInt8) : UInt16 :=
  high.toUInt16 * 256 + low.toUInt16

/-- Groups separated by colons: those that were read, whether they end in a dotted quad, and the
characters after them. -/
structure Groups where
  groups : List UInt16
  endsInQuad : Bool
  rest : List Char

/-- Reads up to `room` groups. A colon stands before each group but the `first` one. A dotted quad
ends the groups and takes the room of two. -/
def readGroups (first : Bool) : Nat → List Char → Groups
  | 0, cs => ⟨[], false, cs⟩
  | room + 1, cs =>
    let start := if first then some cs else readChar ':' cs
    match if 0 < room then start.bind readQuad else none with
    | some ((a, b, c, d), rest) => ⟨[groupOf a b, groupOf c d], true, rest⟩
    | none =>
      match start.bind readGroup with
      | none => ⟨[], false, cs⟩
      | some (group, rest) =>
        let more := readGroups false room rest
        { more with groups := group :: more.groups }

/-- The address of eight groups. -/
def ofGroups? (groups : List UInt16) : Option Address :=
  if h : groups.length = 8 then some (.v6 ⟨groups.toArray, by simpa using h⟩) else none

/-- Reads an address of version 6. The groups that `::` leaves out are at least one. -/
def parse6? (cs : List Char) : Option Address :=
  let head := readGroups true 8 cs
  if head.groups.length = 8 then
    if head.rest.isEmpty then ofGroups? head.groups else none
  else if head.endsInQuad then none
  else do
    let tailText ← readChar ':' (← readChar ':' head.rest)
    let tail := readGroups true (7 - head.groups.length) tailText
    if tail.rest.isEmpty then
      let zeros := List.replicate (8 - head.groups.length - tail.groups.length) 0
      ofGroups? (head.groups ++ zeros ++ tail.groups)
    else none

/-- Reads an address. -/
def parse? (text : String) : Option Address :=
  match readQuad text.toList with
  | some ((a, b, c, d), rest) => if rest.isEmpty then some (.v4 a b c d) else none
  | none => parse6? text.toList

/-! ## Writing -/

def writeQuad (a b c d : UInt8) : String :=
  ".".intercalate ([a, b, c, d].map fun n => toString n.toNat)

def writeGroups (groups : List UInt16) : String :=
  ":".intercalate (groups.map fun g => String.ofList (Nat.toDigits 16 g.toNat))

/-- Start and length of the first longest run of zero groups. `place` is the place of the first group
of the list, `run` the number of zero groups just before it, `best` the longest run so far. -/
def longestZeros (place run : Nat) (best : Nat × Nat) : List UInt16 → Nat × Nat
  | [] => best
  | g :: rest =>
    if g = 0 then
      let run := run + 1
      longestZeros (place + 1) run (if best.2 < run then (place + 1 - run, run) else best) rest
    else longestZeros (place + 1) 0 best rest

def write6 (groups : List UInt16) : String :=
  match groups with
  | [0, 0, 0, 0, 0, 0xffff, high, low] =>
    "::ffff:" ++ writeQuad (high / 256).toUInt8 high.toUInt8 (low / 256).toUInt8 low.toUInt8
  | groups =>
    let (start, length) := longestZeros 0 0 (0, 0) groups
    if 1 < length then
      writeGroups (groups.take start) ++ "::" ++ writeGroups (groups.drop (start + length))
    else writeGroups groups

/-- The canonical written form. -/
def text : Address → String
  | .v4 a b c d => writeQuad a b c d
  | .v6 groups => write6 groups.toList

instance : ToString Address := ⟨text⟩

/-! ## Order -/

/-- A key that orders version 4 before version 6 and each by its numbers. -/
def sortKey : Address → List Nat
  | .v4 a b c d => [4, a.toNat, b.toNat, c.toNat, d.toNat]
  | .v6 groups => 6 :: groups.toList.map UInt16.toNat

/-- The distinct addresses of a list, in ascending order. -/
def sortedSet (addresses : List Address) : List Address :=
  (addresses.mergeSort fun x y => !decide (y.sortKey < x.sortKey)).eraseReps

end Address

end CloudBalance.Net
