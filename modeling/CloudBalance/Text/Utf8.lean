/-!
# Text in bytes

Text is stored in UTF-8. A file that is not UTF-8 has no text; the output of a program always has
one, in which each faulty sequence of bytes becomes one replacement character.
-/

namespace CloudBalance.Text

/-- The character that stands for bytes that are not text. -/
def replacement : Char := '\uFFFD'

/-- Whether `b` may continue a sequence. -/
def isContinuation (b : UInt8) : Bool :=
  0x80 ≤ b && b ≤ 0xbf

/-- For the first byte of a sequence of several bytes: how many bytes follow it, the bits of the
character that it holds, and the least and greatest value of the byte after it. -/
def leadByte? (b : UInt8) : Option (Nat × Nat × UInt8 × UInt8) :=
  if 0xc2 ≤ b && b ≤ 0xdf then some (1, b.toNat - 0xc0, 0x80, 0xbf)
  else if b == 0xe0 then some (2, 0, 0xa0, 0xbf)
  else if b == 0xed then some (2, 0x0d, 0x80, 0x9f)
  else if 0xe1 ≤ b && b ≤ 0xef then some (2, b.toNat - 0xe0, 0x80, 0xbf)
  else if b == 0xf0 then some (3, 0, 0x90, 0xbf)
  else if 0xf1 ≤ b && b ≤ 0xf3 then some (3, b.toNat - 0xf0, 0x80, 0xbf)
  else if b == 0xf4 then some (3, 4, 0x80, 0x8f)
  else none

/-- Reads up to `missing` continuation bytes into `acc`; `none` when they do not all come. -/
def continuation (acc : Nat) : Nat → List UInt8 → Option Nat × List UInt8
  | 0, bytes => (some acc, bytes)
  | _ + 1, [] => (none, [])
  | missing + 1, b :: rest =>
    if isContinuation b then continuation (acc * 64 + (b.toNat - 0x80)) missing rest
    else (none, b :: rest)

theorem continuation_length (acc missing : Nat) (bytes : List UInt8) :
    (continuation acc missing bytes).2.length ≤ bytes.length := by
  induction missing generalizing acc bytes with
  | zero => simp [continuation]
  | succ m ih =>
    cases bytes with
    | nil => simp [continuation]
    | cons b rest =>
      unfold continuation
      split
      · exact Nat.le_succ_of_le (ih _ _)
      · simp

/-- The character that starts with byte `b`, and the bytes after it. A fault is the longest start of
a sequence that could still have become a character, and at least one byte. -/
def decodeStep (b : UInt8) (rest : List UInt8) : Char × List UInt8 :=
  if b < 0x80 then (Char.ofNat b.toNat, rest)
  else
    match leadByte? b with
    | none => (replacement, rest)
    | some (missing, bits, least, greatest) =>
      if rest.head?.any fun second => least ≤ second && second ≤ greatest then
        match continuation bits missing rest with
        | (some code, after) => (Char.ofNat code, after)
        | (none, after) => (replacement, after)
      else (replacement, rest)

theorem decodeStep_length (b : UInt8) (rest : List UInt8) :
    (decodeStep b rest).2.length ≤ rest.length := by
  unfold decodeStep
  split
  · exact Nat.le_refl _
  · split
    · exact Nat.le_refl _
    · rename_i missing bits least greatest _
      split
      · have h := continuation_length bits missing rest
        split <;> simp_all
      · exact Nat.le_refl _

/-- Decodes bytes that may hold faults. -/
def decodeLossyList : List UInt8 → List Char
  | [] => []
  | b :: rest =>
    have := decodeStep_length b rest
    (decodeStep b rest).1 :: decodeLossyList (decodeStep b rest).2
  termination_by bytes => bytes.length

/-- The text of a program's output. -/
def decodeLossy (bytes : ByteArray) : String :=
  String.ofList (decodeLossyList bytes.toList)

/-- The text of a file, if it has one. -/
def decode? (bytes : ByteArray) : Option String :=
  String.fromUTF8? bytes

/-- The bytes of a text. -/
def encode (s : String) : ByteArray :=
  s.toUTF8

theorem decode?_encode (s : String) : decode? (encode s) = some s := by
  simp [decode?, encode, String.fromUTF8?]
  exact ⟨s.isValidUTF8, rfl⟩

end CloudBalance.Text
