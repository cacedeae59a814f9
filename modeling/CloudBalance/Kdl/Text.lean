import CloudBalance.Kdl.Space
import CloudBalance.Text.Digits

/-!
# Texts in KDL

A text is a bare word, or quoted on one line, or quoted over several lines between triple quotation
marks; within quotation marks a backslash starts an escape, unless number signs around the quotation
marks make the text raw. Of a text over several lines, the blanks before the closing marks are taken
off each line.
-/

namespace CloudBalance.Kdl

/-! ## Bare words -/

/-- The characters of bare words. -/
def isWordChar (c : Char) : Bool :=
  !("\\/()\x7b\x7d[];\"#=".toList.contains c || isSpace c || isNewline c || isForbidden c)

/-- The words that are too easily taken for values. -/
def reservedWords : List String :=
  ["true", "false", "null", "inf", "nan"]

/-- Whether a word starts like a number: with a digit after a sign and a point, each of which may be
missing. -/
def startsLikeNumber (cs : List Char) : Bool :=
  let unsigned :=
    match cs with
    | '+' :: rest | '-' :: rest => rest
    | _ => cs
  let digits :=
    match unsigned with
    | '.' :: rest => rest
    | _ => unsigned
  digits.head?.any Char.isDigit

/-- Reads a bare word. -/
def readWord? (cs : List Char) : Option (String × List Char) :=
  let word := cs.takeWhile isWordChar
  if word.isEmpty || startsLikeNumber word || reservedWords.contains (String.ofList word) then none
  else some (String.ofList word, cs.dropWhile isWordChar)

/-! ## Escapes -/

/-- A character of a quoted text, and whether it came from an escape. -/
structure Piece where
  char : Char
  escaped : Bool

/-- The character of a code that is written in one to six digits of base sixteen. -/
def charOfCode? (digits : List Char) : Option Char := do
  if digits.isEmpty || 6 < digits.length then none
  let code := Text.ofDigits 16 (← digits.mapM (Text.digit? 16))
  if code.isValidChar then some (Char.ofNat code) else none

/-- The character that a character after a backslash stands for. -/
def escape? : Char → Option Char
  | '"' => some '"'
  | '\\' => some '\\'
  | 'b' => some '\x08'
  | 'f' => some '\x0c'
  | 'n' => some '\n'
  | 'r' => some '\r'
  | 't' => some '\t'
  | 's' => some ' '
  | _ => none

def isBlankOrNewline (c : Char) : Bool :=
  isSpace c || isNewline c

/-- The characters that a quoted text stands for. A backslash before blanks and line breaks removes
them. -/
def unescape? : List Char → Option (List Piece)
  | [] => some []
  | '\\' :: 'u' :: '\x7b' :: rest => do
    let char ← charOfCode? (rest.takeWhile (· != '\x7d'))
    let pieces ← unescape? ((rest.dropWhile (· != '\x7d')).drop 1)
    return ⟨char, true⟩ :: pieces
  | '\\' :: c :: rest =>
    if isBlankOrNewline c then unescape? (rest.dropWhile isBlankOrNewline)
    else do
      let char ← escape? c
      let pieces ← unescape? rest
      return ⟨char, true⟩ :: pieces
  | c :: rest => do
    if c = '\\' then none
    let pieces ← unescape? rest
    return ⟨c, false⟩ :: pieces
  termination_by cs => cs.length
  decreasing_by
    · have := (List.dropWhile_suffix (l := rest) (· != '\x7d')).length_le
      simp only [List.length_drop, List.length_cons]
      omega
    · have := (List.dropWhile_suffix (l := rest) isBlankOrNewline).length_le
      simp only [List.length_cons]
      omega
    · simp only [List.length_cons]
      omega
    · simp

/-! ## Lines -/

/-- The lines of a text. An escaped line break ends no line. -/
def lines : List Piece → List (List Piece)
  | [] => [[]]
  | piece :: rest =>
    if isNewline piece.char && !piece.escaped then
      match rest with
      | next :: after =>
        if piece.char = '\r' && next.char = '\n' && !next.escaped then [] :: lines after
        else [] :: lines (next :: after)
      | [] => [[], []]
    else
      match lines rest with
      | line :: more => (piece :: line) :: more
      | [] => [[piece]]

def isBlankLine (line : List Piece) : Bool :=
  line.all fun piece => isSpace piece.char && !piece.escaped

/-- The line without the margin, which it must start with. -/
def removeMargin? : List Char → List Piece → Option (List Char)
  | [], line => some (line.map (·.char))
  | c :: margin, piece :: line =>
    if piece.char = c && !piece.escaped then removeMargin? margin line else none
  | _ :: _, [] => none

/-- The text of several lines, of which the last one is the margin of the others. Lines of blanks
are empty. -/
def joinLines? (lines : List (List Piece)) : Option (List Char) := do
  let last ← lines.getLast?
  if !isBlankLine last then none
  let margin := last.map (·.char)
  let texts ← lines.dropLast.mapM fun line =>
    if isBlankLine line then some [] else removeMargin? margin line
  return ['\n'].intercalate texts

/-! ## Quoted texts -/

/-- The text before the first occurrence of `close` and the text after it. Where `escapes`, a
character behind a backslash is not looked at. -/
def splitAt? (close : List Char) (escapes : Bool) : List Char → Option (List Char × List Char)
  | [] => none
  | c :: rest =>
    if close.isPrefixOf (c :: rest) then some ([], (c :: rest).drop close.length)
    else if c = '\\' && escapes then
      match rest with
      | d :: rest => (splitAt? close escapes rest).map fun (text, after) => (c :: d :: text, after)
      | [] => none
    else (splitAt? close escapes rest).map fun (text, after) => (c :: text, after)

/-- The characters of a text between quotation marks. -/
def pieces? (raw : Bool) (body : List Char) : Option (List Piece) :=
  if body.any isForbidden then none
  else if raw then some (body.map (⟨·, false⟩))
  else unescape? body

/-- Reads a text after `hashes` number signs; it is raw if there are any. -/
def readQuoted? (hashes : Nat) : List Char → Option (String × List Char)
  | '"' :: '"' :: '"' :: rest =>
    let signs := List.replicate hashes '#'
    match skipNewline? rest with
    | some rest => do
      let (body, after) ← splitAt? (['"', '"', '"'] ++ signs) (hashes == 0) rest
      let text ← joinLines? (lines (← pieces? (hashes != 0) body))
      return (String.ofList text, after)
    | none => none
  | '"' :: rest => do
    let (body, after) ← splitAt? ('"' :: List.replicate hashes '#') (hashes == 0) rest
    let pieces ← pieces? (hashes != 0) body
    if pieces.any fun piece => isNewline piece.char && !piece.escaped then none
    return (String.ofList (pieces.map (·.char)), after)
  | _ => none

/-- Reads a text. -/
def readText? (cs : List Char) : Option (String × List Char) :=
  match cs with
  | '"' :: _ => readQuoted? 0 cs
  | '#' :: _ =>
    let signs := cs.takeWhile (· == '#')
    readQuoted? signs.length (cs.drop signs.length)
  | _ => readWord? cs

end CloudBalance.Kdl
