import CloudBalance.Kdl.Number
import CloudBalance.Kdl.Text

/-!
# Reading KDL

`Kdl.parse?` reads a document of version 2. It works on the list of characters; each step returns
what it read and the characters after it. What stands behind a slash and a dash is read and left out.
-/

namespace CloudBalance.Kdl

/-! ## Entries -/

/-- Reads the constants that start with a number sign. -/
def readKeyword? : List Char → Option (Value × List Char)
  | '#' :: 't' :: 'r' :: 'u' :: 'e' :: rest => some (.bool true, rest)
  | '#' :: 'f' :: 'a' :: 'l' :: 's' :: 'e' :: rest => some (.bool false, rest)
  | '#' :: 'n' :: 'u' :: 'l' :: 'l' :: rest => some (.null, rest)
  | '#' :: 'n' :: 'a' :: 'n' :: rest => some (.notANumber, rest)
  | '#' :: 'i' :: 'n' :: 'f' :: rest => some (.infinity false, rest)
  | '#' :: '-' :: 'i' :: 'n' :: 'f' :: rest => some (.infinity true, rest)
  | _ => none

/-- Reads a value without its annotation. -/
def readPlainValue? (cs : List Char) : Option (Value × List Char) :=
  match readText? cs with
  | some (text, rest) => some (.string text, rest)
  | none => (readKeyword? cs).orElse fun _ => readNumber? cs

/-- Skips a type annotation and the blanks after it; `none` if there is no annotation. -/
def skipAnnotation? : List Char → Option (List Char)
  | '(' :: rest => do
    let (_, rest) ← readText? (skipNodeSpaces rest)
    match skipNodeSpaces rest with
    | ')' :: rest => some (skipNodeSpaces rest)
    | _ => none
  | _ => none

/-- Reads a value. -/
def readValue? (cs : List Char) : Option (Value × List Char) :=
  match cs with
  | '(' :: _ => (skipAnnotation? cs).bind readPlainValue?
  | _ => readPlainValue? cs

/-- Reads an argument or a property. -/
def readEntry? (cs : List Char) : Option (Entry × List Char) :=
  match readText? cs with
  | some (name, rest) =>
    match skipNodeSpaces rest with
    | '=' :: after =>
      (readValue? (skipNodeSpaces after)).map fun (value, rest) => (⟨some name, value⟩, rest)
    | _ => some (⟨none, .string name⟩, rest)
  | none => (readValue? cs).map fun (value, rest) => (⟨none, value⟩, rest)

/-- The text behind the mark that leaves out what follows. -/
def skipMark? : List Char → Option (List Char)
  | '/' :: '-' :: rest => some (skipLineSpaces rest)
  | _ => none

/-- Reads the entries of a node. Blanks stand before an entry that is not left out. -/
def readEntries : Nat → List Char → List Entry × List Char
  | 0, cs => ([], cs)
  | fuel + 1, cs =>
    let start := skipNodeSpaces cs
    match skipMark? start with
    | some hidden =>
      match readEntry? hidden with
      | some (_, rest) => readEntries fuel rest
      | none => ([], start)
    | none =>
      if start.length < cs.length then
        match readEntry? start with
        | some (entry, rest) =>
          let (entries, rest) := readEntries fuel rest
          (entry :: entries, rest)
        | none => ([], start)
      else ([], start)

/-! ## Nodes -/

/-- Skips what ends a node. Inside of braces the closing brace does, too, and stays. -/
def skipTerminator? (nested : Bool) : List Char → Option (List Char)
  | [] => some []
  | ';' :: rest => some rest
  | '/' :: '/' :: rest => some (skipLine rest)
  | '\x7d' :: rest => if nested then some ('\x7d' :: rest) else none
  | cs => skipNewline? cs

/-- Reads the name of a node and, before it, an annotation. -/
def readName? (cs : List Char) : Option (String × List Char) :=
  match cs with
  | '(' :: _ => (skipAnnotation? cs).bind readText?
  | _ => readText? cs

mutual

/-- Reads nodes up to the end of the text, or up to the closing brace if they are `nested`. -/
def readNodes : Nat → Bool → List Char → Option (List Node × List Char)
  | 0, _, _ => none
  | fuel + 1, nested, cs =>
    match skipLineSpaces cs with
    | [] => some ([], [])
    | '\x7d' :: rest => some ([], '\x7d' :: rest)
    | start => do
      let (node, rest) ← readNode fuel ((skipMark? start).getD start)
      let (nodes, rest) ← readNodes fuel nested (← skipTerminator? nested rest)
      return (if (skipMark? start).isSome then nodes else node :: nodes, rest)

/-- Reads a node without what ends it. -/
def readNode : Nat → List Char → Option (Node × List Char)
  | 0, _ => none
  | fuel + 1, cs => do
    let (name, rest) ← readName? cs
    let (entries, rest) := readEntries (rest.length + 1) rest
    let (children, rest) ← readChildren fuel none rest
    return (⟨name, entries, children⟩, rest)

/-- Reads the children of a node, which stand between braces once. `found` are the children that were
read before. -/
def readChildren : Nat → Option (List Node) → List Char → Option (List Node × List Char)
  | 0, _, _ => none
  | fuel + 1, found, cs => do
    let start := skipNodeSpaces cs
    match (skipMark? start).getD start with
    | '\x7b' :: inside =>
      let (nodes, rest) ← readNodes fuel true inside
      match rest with
      | '\x7d' :: rest =>
        if (skipMark? start).isSome then readChildren fuel found rest
        else if found.isSome then none
        else readChildren fuel (some nodes) rest
      | _ => none
    | _ => if (skipMark? start).isSome then none else return (found.getD [], start)

end

/-- The document that a text holds. Of the count that bounds the recursion, each character uses up at
most three. -/
def parse? (text : String) : Option Document := do
  let cs :=
    match text.toList with
    | c :: rest => if c = byteOrderMark then rest else c :: rest
    | [] => []
  let (nodes, rest) ← readNodes (3 * cs.length + 3) false cs
  if rest.isEmpty then some nodes else none

end CloudBalance.Kdl
