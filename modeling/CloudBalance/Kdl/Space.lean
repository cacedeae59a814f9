/-!
# Characters and blanks of KDL

Which characters separate words and end lines, which may not occur, and how the blanks between two
words are skipped: spaces, comments between `/*` and `*/`, which nest, and line breaks behind a
backslash. Between nodes also plain line breaks and comments behind `//` are skipped.
-/

namespace CloudBalance.Kdl

/-- The blanks within a line. -/
def isSpace (c : Char) : Bool :=
  let n := c.toNat
  n == 0x09 || n == 0x20 || n == 0xa0 || n == 0x1680 || (0x2000 ≤ n && n ≤ 0x200a)
    || n == 0x202f || n == 0x205f || n == 0x3000

/-- The characters that end a line. -/
def isNewline (c : Char) : Bool :=
  let n := c.toNat
  (0x0a ≤ n && n ≤ 0x0d) || n == 0x85 || n == 0x2028 || n == 0x2029

/-- The characters that may stand only in comments. -/
def isForbidden (c : Char) : Bool :=
  let n := c.toNat
  n ≤ 0x08 || (0x0e ≤ n && n ≤ 0x1f) || (0x200e ≤ n && n ≤ 0x200f) || (0x202a ≤ n && n ≤ 0x202e)
    || (0x2066 ≤ n && n ≤ 0x2069) || n == 0xfeff

/-- The mark that may stand before a document. -/
def byteOrderMark : Char := '\ufeff'

/-- Skips one line break. -/
def skipNewline? : List Char → Option (List Char)
  | '\r' :: '\n' :: rest => some rest
  | c :: rest => if isNewline c then some rest else none
  | [] => none

/-- Skips to the end of a comment around which `depth` more comments are open. -/
def skipComment? : Nat → List Char → Option (List Char)
  | depth, '*' :: '/' :: rest =>
    match depth with
    | 0 => some rest
    | depth + 1 => skipComment? depth rest
  | depth, '/' :: '*' :: rest => skipComment? (depth + 1) rest
  | depth, _ :: rest => skipComment? depth rest
  | _, [] => none

/-- The text after a comment that goes to the end of the line. -/
def skipLine (cs : List Char) : List Char :=
  cs.dropWhile fun c => !isNewline c

/-- Skips for as long as `step` finds something to skip. -/
def skipAll (step : List Char → Option (List Char)) (cs : List Char) : List Char :=
  match step cs with
  | some rest => if rest.length < cs.length then skipAll step rest else cs
  | none => cs
  termination_by cs.length

/-- Skips one space or one comment. -/
def skipBlank? : List Char → Option (List Char)
  | '/' :: '*' :: rest => skipComment? 0 rest
  | c :: rest => if isSpace c then some rest else none
  | [] => none

/-- Skips the rest of a line behind a backslash, and the line break. -/
def skipContinuation? (cs : List Char) : Option (List Char) :=
  match skipAll skipBlank? cs with
  | [] => some []
  | '/' :: '/' :: rest =>
    match skipLine rest with
    | [] => some []
    | rest => skipNewline? rest
  | rest => skipNewline? rest

/-- Skips one blank between the words of a node. -/
def skipNodeSpace? : List Char → Option (List Char)
  | '\\' :: rest => skipContinuation? rest
  | cs => skipBlank? cs

/-- Skips one blank between nodes. -/
def skipLineSpace? : List Char → Option (List Char)
  | '/' :: '/' :: rest => some (skipLine rest)
  | cs => (skipNodeSpace? cs).orElse fun _ => skipNewline? cs

/-- Skips the blanks between the words of a node. -/
def skipNodeSpaces : List Char → List Char :=
  skipAll skipNodeSpace?

/-- Skips the blanks between nodes. -/
def skipLineSpaces : List Char → List Char :=
  skipAll skipLineSpace?

end CloudBalance.Kdl
