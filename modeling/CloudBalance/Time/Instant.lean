import CloudBalance.Text.Blank
import CloudBalance.Text.Digits
import CloudBalance.Time.Calendar

/-!
# Points in time

An instant is a day and a time of that day in UTC, to the nanosecond. It is written as RFC 3339 asks,
with `Z` for the zone and as many digits of the second (none, three, six or nine) as hold its
value. Reading is lenient: blanks may stand between the parts, numbers may be shorter than usual,
and any offset below a day is taken.
-/

namespace CloudBalance.Time

abbrev nanosPerSecond : Nat := 1000000000

abbrev secondsPerDay : Nat := 86400

/-- A time of a day. In a leap second, which follows second 59 of a minute, `nanos` goes on above a
whole second. -/
structure Instant where
  date : Date
  second : Nat
  nanos : Nat
  valid : second < secondsPerDay ∧
    (nanos < nanosPerSecond ∨ (second % 60 = 59 ∧ nanos < 2 * nanosPerSecond))
  deriving DecidableEq, Repr

namespace Instant

instance : Inhabited Instant := ⟨⟨Date.epoch, 0, 0, by decide⟩⟩

/-- The instant of these numbers, if there is one. -/
def of? (date : Date) (second nanos : Nat) : Option Instant :=
  if h : second < secondsPerDay ∧
      (nanos < nanosPerSecond ∨ (second % 60 = 59 ∧ nanos < 2 * nanosPerSecond)) then
    some ⟨date, second, nanos, h⟩
  else none

/-- The instant so many nanoseconds after the epoch. -/
def ofEpochNanos (n : Int) : Instant :=
  let seconds := n / nanosPerSecond
  (of? (Date.ofDayNumber (seconds / secondsPerDay)) (seconds % secondsPerDay).toNat
    (n % nanosPerSecond).toNat).getD default

/-- Nanoseconds from `earlier` to `later`. A leap second counts when it lies before the other time
of day. -/
def nanosSince (later earlier : Instant) : Int :=
  let adjust : Int :=
    if earlier.second < later.second then if nanosPerSecond ≤ earlier.nanos then 1 else 0
    else if later.second < earlier.second then if nanosPerSecond ≤ later.nanos then -1 else 0
    else 0
  ((later.date.dayNumber - earlier.date.dayNumber) * secondsPerDay
      + (later.second - earlier.second) + adjust) * nanosPerSecond
    + (later.nanos - earlier.nanos)

/-- Whole minutes from `earlier` to `later`, with what is left over cut off. -/
def minutesSince (later earlier : Instant) : Int :=
  (later.nanosSince earlier).tdiv (60 * nanosPerSecond)

/-! ## Writing -/

/-- The digits of `n`, padded with zeros to `width` places. -/
def places (width n : Nat) : String :=
  let digits := Nat.toDigits 10 n
  String.ofList (List.replicate (width - digits.length) '0' ++ digits)

/-- Years outside four digits carry a sign. -/
def writeYear (year : Int) : String :=
  if 0 ≤ year ∧ year ≤ 9999 then places 4 year.toNat
  else (if year < 0 then "-" else "+") ++ places 4 year.natAbs

def writeDate (d : Date) : String :=
  writeYear d.year ++ "-" ++ places 2 d.month ++ "-" ++ places 2 d.day

/-- The digits after the point of a second. -/
def writeFraction (nanos : Nat) : String :=
  if nanos = 0 then ""
  else if nanos % 1000000 = 0 then "." ++ places 3 (nanos / 1000000)
  else if nanos % 1000 = 0 then "." ++ places 6 (nanos / 1000)
  else "." ++ places 9 nanos

def writeClock (t : Instant) : String :=
  let (second, nanos) :=
    if nanosPerSecond ≤ t.nanos then (t.second % 60 + 1, t.nanos - nanosPerSecond) else (t.second % 60, t.nanos)
  places 2 (t.second / 3600) ++ ":" ++ places 2 (t.second / 60 % 60) ++ ":" ++ places 2 second
    ++ writeFraction nanos

/-- The form in which times are stored. -/
def text (t : Instant) : String :=
  writeDate t.date ++ "T" ++ t.writeClock ++ "Z"

/-- The form in which messages show times. -/
def display (t : Instant) : String :=
  writeDate t.date ++ " " ++ t.writeClock ++ " UTC"

/-! ## Reading -/

def skipBlanks (cs : List Char) : List Char :=
  cs.dropWhile Text.isBlank

/-- Reads a number of one to `width` digits. -/
def readDigits (width : Nat) (cs : List Char) : Option (Nat × List Char) :=
  let digits := (cs.take width).takeWhile Char.isDigit
  if digits.isEmpty then none
  else some (Text.natOfDigits digits, cs.drop digits.length)

/-- Reads a number of at most two digits after blanks. -/
def readNumber (cs : List Char) : Option (Nat × List Char) :=
  readDigits 2 (skipBlanks cs)

/-- Reads a year: up to four digits, or any number of them after a sign. -/
def readYear (cs : List Char) : Option (Int × List Char) :=
  match skipBlanks cs with
  | '-' :: rest => (readDigits rest.length rest).map fun (n, rest) => (-(n : Int), rest)
  | '+' :: rest => (readDigits rest.length rest).map fun (n, rest) => ((n : Int), rest)
  | rest => (readDigits 4 rest).map fun (n, rest) => ((n : Int), rest)

/-- Reads the character `c` after blanks. -/
def readMark (c : Char) (cs : List Char) : Option (List Char) :=
  match skipBlanks cs with
  | d :: rest => if d = c then some rest else none
  | [] => none

/-- Reads the part of a second after a point, if there is one, in nanoseconds. Digits after the
ninth are dropped. -/
def readFraction : List Char → Option (Nat × List Char)
  | '.' :: rest => do
    let (n, after) ← readDigits 9 rest
    return (n * Nat.pow 10 (9 - (rest.length - after.length)), after.dropWhile Char.isDigit)
  | cs => some (0, cs)

/-- The two digits of a part of an offset. -/
def readPair : List Char → Option (Nat × List Char)
  | a :: b :: rest =>
    if a.isDigit && b.isDigit then some (Text.natOfDigits [a, b], rest) else none
  | _ => none

/-- Reads the distance from UTC in seconds. -/
def readOffset (cs : List Char) : Option (Int × List Char) :=
  match cs with
  | 'Z' :: rest | 'z' :: rest => some (0, rest)
  | sign :: rest =>
    if sign = '+' || sign = '-' || sign = '−' then do
      let (hours, rest) ← readPair rest
      let (minutes, rest) ← readPair (rest.dropWhile fun c => c = ':' || Text.isBlank c)
      if 59 < minutes then none
      let seconds : Int := hours * 3600 + minutes * 60
      return (if sign = '+' then seconds else -seconds, rest)
    else none
  | [] => none

/-- Reads the zone: `UTC` in any case or an offset. -/
def readZone (cs : List Char) : Option (Int × List Char) :=
  if (cs.take 3).map Char.toUpper = ['U', 'T', 'C'] then some (0, cs.drop 3) else readOffset cs

/-- The first and last year of the times that can be held. -/
def leastYear : Int := -262143

def greatestYear : Int := 262142

/-- The instant of a local date and time and an offset from UTC. Second 60 is a leap second. -/
def ofLocal? (date : Date) (hour minute second nanos : Nat) (offset : Int) : Option Instant :=
  if 23 < hour || 59 < minute || 60 < second || secondsPerDay ≤ offset.natAbs then none
  else
    let (second, nanos) := if second = 60 then (59, nanos + nanosPerSecond) else (second, nanos)
    let total : Int := ((hour * 60 + minute) * 60 + second : Nat) - offset
    let date := date.add (total / secondsPerDay)
    if date.year < leastYear || greatestYear < date.year then none
    else of? date (total % secondsPerDay).toNat nanos

/-- Reads a time. -/
def parse? (text : String) : Option Instant := do
  let (year, cs) ← readYear text.toList
  let (month, cs) ← readNumber (← readMark '-' cs)
  let (day, cs) ← readNumber (← readMark '-' cs)
  if year < leastYear || greatestYear < year then none
  let date ← Date.of? year month day
  let separator :: cs := cs | none
  if !(separator = 'T' || separator = 't' || separator = ' ') then none
  let (hour, cs) ← readNumber cs
  let (minute, cs) ← readNumber (← readMark ':' cs)
  let (second, cs) ← readNumber (← readMark ':' cs)
  let (nanos, cs) ← readFraction cs
  let (offset, cs) ← readZone (skipBlanks cs)
  if (skipBlanks cs).isEmpty then ofLocal? date hour minute second nanos offset else none

end Instant

end CloudBalance.Time
