import CloudBalance.Net.Address

/-!
# The command line

What the words behind the name of the program ask for. An option may be given once; its value is the
next word, or follows `=`, or follows the one letter of its short form. Short forms may be joined.
Behind `--` there are no options.
-/

namespace CloudBalance.Terminal

open Net (Address)

/-! ## Commands -/

/-- The nodes that a command is about. -/
structure Selection where
  group : Option String
  tag : Option String
  deriving DecidableEq, Repr

inductive Command where
  | auth
  | nodes (selection : Selection) (all : Bool)
  | create (name protocol : String) (balancerPort instancePort : UInt16) (selection : Selection)
  | destroy (address : Address)
  | list
  | version
  deriving DecidableEq, Repr

structure Arguments where
  verbose : Bool
  command : Command
  deriving DecidableEq, Repr

/-- Why the words name no command. -/
inductive ArgumentError where
  /-- The words are not as they should be. -/
  | usage
  /-- Help is asked for. -/
  | help
  deriving DecidableEq, Repr

/-! ## Options -/

structure OptionKind where
  name : String
  short : Option Char
  takesValue : Bool
  deriving DecidableEq, Repr

/-- The options that are given, each with its value. -/
abbrev Given := List (String × String)

namespace OptionKind

def help : OptionKind := ⟨"help", some 'h', false⟩

def verbose : OptionKind := ⟨"verbose", some 'v', false⟩

def group : OptionKind := ⟨"group", some 'g', true⟩

def tag : OptionKind := ⟨"tag", some 't', true⟩

def all : OptionKind := ⟨"all", some 'a', false⟩

def protocol : OptionKind := ⟨"protocol", some 'p', true⟩

def port : OptionKind := ⟨"port", none, true⟩

def instancePort : OptionKind := ⟨"instance-port", none, true⟩

/-- The options that every command has. -/
def common : List OptionKind := [help, verbose]

end OptionKind

/-- The value that is given for an option. -/
def Given.value? (given : Given) (kind : OptionKind) : Option String :=
  given.lookup kind.name

/-- Whether an option is given. -/
def Given.has (given : Given) (kind : OptionKind) : Bool :=
  given.any (·.1 == kind.name)

/-- What a word adds: nothing more than itself, or an option whose value is the next word. -/
inductive Reading where
  | complete (given : Given)
  | pending (given : Given) (name : String)

/-- One more option. -/
def give (given : Given) (kind : OptionKind) (value : String) : Except ArgumentError Given :=
  if kind = .help then .error .help
  else if Given.has given kind then .error .usage
  else .ok (given ++ [(kind.name, value)])

/-- Reads an option by its name, and its value behind `=`. -/
def readLong (kinds : List OptionKind) (given : Given) (text : List Char) :
    Except ArgumentError Reading :=
  let name := String.ofList (text.takeWhile (· != '='))
  let value := text.dropWhile (· != '=')
  match kinds.find? (·.name == name) with
  | none => .error .usage
  | some kind =>
    if kind.takesValue then
      match value with
      | [] => .ok (.pending given kind.name)
      | _ :: value => (give given kind (String.ofList value)).map .complete
    else if value.isEmpty then (give given kind "").map .complete
    else .error .usage

/-- Reads options by their letters. What follows the letter of an option with a value is the value. -/
def readShort (kinds : List OptionKind) (given : Given) : List Char → Except ArgumentError Reading
  | [] => .ok (.complete given)
  | letter :: rest =>
    match kinds.find? (·.short == some letter) with
    | none => .error .usage
    | some kind =>
      if kind.takesValue then
        match rest with
        | [] => .ok (.pending given kind.name)
        | '=' :: value => (give given kind (String.ofList value)).map .complete
        | value => (give given kind (String.ofList value)).map .complete
      else (give given kind "").bind fun given => readShort kinds given rest

/-- Whether a word is an option and not a value. -/
def isOption (word : String) : Bool :=
  match word.toList with
  | '-' :: _ :: _ => true
  | _ => false

/-- Reads a word that is an option. -/
def readOption (kinds : List OptionKind) (given : Given) (word : String) :
    Except ArgumentError Reading :=
  match word.toList with
  | '-' :: '-' :: name => readLong kinds given name
  | '-' :: letters => readShort kinds given letters
  | _ => .error .usage

/-- The options and the other words that were read, and the words that were not looked at. -/
structure Scan where
  given : Given
  words : List String
  rest : List String

/-- Reads words in order. Where a word names a further command, it is the last one that is looked
at; else there may be up to `room` words that are not options. -/
def scan (kinds : List OptionKind) (nested : Bool) (room : Nat) (found : Scan) :
    List String → Except ArgumentError Scan
  | [] => .ok found
  | "--" :: rest =>
    if nested || room < found.words.length + rest.length then .error .usage
    else .ok { found with words := found.words ++ rest }
  | word :: rest =>
    if isOption word then
      match readOption kinds found.given word with
      | .error e => .error e
      | .ok (.complete given) => scan kinds nested room { found with given } rest
      | .ok (.pending given name) =>
        match kinds.find? (·.name == name), rest with
        | some kind, value :: rest =>
          if isOption value then .error .usage
          else
            match give given kind value with
            | .error e => .error e
            | .ok given => scan kinds nested room { found with given } rest
        | _, _ => .error .usage
    else if nested then .ok { found with words := found.words ++ [word], rest }
    else if found.words.length < room then
      scan kinds nested room { found with words := found.words ++ [word] } rest
    else .error .usage
  termination_by words => words.length

/-- The further command that the words name, and the words behind it. -/
def scanName (words : List String) : Except ArgumentError (Given × String × List String) := do
  let found ← scan OptionKind.common true 0 ⟨[], [], []⟩ words
  match found.words with
  | ["help"] => throw .help
  | [name] => return (found.given, name, found.rest)
  | _ => throw .usage

/-- The options and the other words of a command. -/
def scanCommand (kinds : List OptionKind) (room : Nat) (words : List String) :
    Except ArgumentError (Given × List String) := do
  let found ← scan (OptionKind.common ++ kinds) false room ⟨[], [], []⟩ words
  return (found.given, found.words)

/-! ## Values -/

/-- The number of a port: digits after a sign, which may be missing. -/
def port? (text : String) : Option UInt16 :=
  let (negative, digits) :=
    match text.toList with
    | '-' :: rest => (true, rest)
    | '+' :: rest => (false, rest)
    | rest => (false, rest)
  let value := Text.natOfDigits digits
  if digits.isEmpty || !digits.all Char.isDigit || 65535 < value || (negative && value != 0) then none
  else some value.toUInt16

/-- The port that an option gives, or else `standard`. -/
def portOf {α : Type} (given : Given) (kind : OptionKind) (standard : α) (wrap : UInt16 → α) :
    Except ArgumentError α :=
  match given.value? kind with
  | none => .ok standard
  | some text =>
    match port? text with
    | some port => .ok (wrap port)
    | none => .error .usage

def Selection.ofGiven (given : Given) : Selection :=
  ⟨given.value? .group, given.value? .tag⟩

/-! ## Reading -/

/-- Reads the words behind a command that has neither options nor words of its own. -/
def readPlain (command : Command) (words : List String) : Except ArgumentError Arguments := do
  let (given, _) ← scanCommand [] 0 words
  return ⟨given.has .verbose, command⟩

def readNodes (words : List String) : Except ArgumentError Arguments := do
  let (given, _) ← scanCommand [.group, .tag, .all] 0 words
  return ⟨given.has .verbose, .nodes (.ofGiven given) (given.has .all)⟩

def readCreate (words : List String) : Except ArgumentError Arguments := do
  let (given, words) ← scanCommand [.protocol, .port, .instancePort, .group, .tag] 1 words
  let [name] := words | throw .usage
  let balancerPort ← portOf given .port 80 id
  let instancePort ← portOf given .instancePort none some
  return ⟨given.has .verbose, .create name ((given.value? .protocol).getD "HTTP") balancerPort
    (instancePort.getD balancerPort) (.ofGiven given)⟩

def readDestroy (words : List String) : Except ArgumentError Arguments := do
  let (given, words) ← scanCommand [] 1 words
  let [text] := words | throw .usage
  let some address := Address.parse? text | throw .usage
  return ⟨given.has .verbose, .destroy address⟩

/-- Reads the words behind the command for balancers. -/
def readBalancer (words : List String) : Except ArgumentError Arguments := do
  let (given, name, rest) ← scanName words
  let arguments ←
    match name with
    | "create" => readCreate rest
    | "destroy" => readDestroy rest
    | "list" => readPlain .list rest
    | _ => throw .usage
  return { arguments with verbose := arguments.verbose || given.has .verbose }

/-- What the words ask for. -/
def Arguments.parse (words : List String) : Except ArgumentError Arguments := do
  let (given, name, rest) ← scanName words
  let arguments ←
    match name with
    | "auth" => readPlain .auth rest
    | "nodes" => readNodes rest
    | "lb" => readBalancer rest
    | "version" => readPlain .version rest
    | _ => throw .usage
  return { arguments with verbose := arguments.verbose || given.has .verbose }

end CloudBalance.Terminal
