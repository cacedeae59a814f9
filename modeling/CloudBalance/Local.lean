import CloudBalance.Files.Error
import CloudBalance.Log
import CloudBalance.Program
import CloudBalance.Text.Utf8
import CloudBalance.Time.Instant

/-!
# The local machine

The questions that a program asks of the machine that it runs on: single operations on files, the
variables of its environment, the clock, its own number among the processes, and to note a record in
the log. `Attempt S ε` is a program that may end in a failure of type `ε`.
-/

namespace CloudBalance

/-- A program with questions of `S` that may fail with an `ε`. -/
abbrev Attempt (S : Signature) (ε : Type) : Type → Type :=
  ExceptT ε (Program S)

/-- A program whose result may be a failure, as an attempt whose failures are seen through `wrap`. -/
def Program.attempt {S : Signature} {ε ε' α : Type} (p : Program S (Except ε α)) (wrap : ε → ε') :
    Attempt S ε' α :=
  ExceptT.adapt wrap (ExceptT.mk p)

/-- An attempt that cannot fail: its result says what came out, a failure included. -/
def Attempt.outcome {S : Signature} {ε ε' α : Type} (p : Attempt S ε α) :
    Attempt S ε' (Except ε α) :=
  ExceptT.lift p.run

inductive Local.Query where
  | exists? (path : String)
  | isDirectory (path : String)
  | read (path : String)
  | write (path : String) (bytes : ByteArray)
  | rename (old new : String)
  | remove (path : String)
  | makeDirectories (path : String)
  | workingDirectory
  | environmentVariable (name : String)
  | now
  | processId
  | log (record : Log.Record)

abbrev Local : Signature where
  Query := Local.Query
  Answer
    | .exists? _ | .isDirectory _ => Bool
    | .read _ => Except FileError ByteArray
    | .write _ _ | .rename _ _ | .remove _ | .makeDirectories _ => Except FileError Unit
    | .workingDirectory => Except FileError String
    | .environmentVariable _ => Option String
    | .now => Time.Instant
    | .processId => UInt32
    | .log _ => Unit

namespace Local

def exists? (path : String) : Program Local Bool :=
  .perform (S := Local) (.exists? path)

def isDirectory (path : String) : Program Local Bool :=
  .perform (S := Local) (.isDirectory path)

def read (path : String) : Program Local (Except FileError ByteArray) :=
  .perform (S := Local) (.read path)

/-- The text of a file. -/
def readText (path : String) : Program Local (Except FileError String) := do
  match ← read path with
  | .ok bytes =>
    match Text.decode? bytes with
    | some text => return .ok text
    | none => return .error .notText
  | .error e => return .error e

def write (path : String) (bytes : ByteArray) : Program Local (Except FileError Unit) :=
  .perform (S := Local) (.write path bytes)

def rename (old new : String) : Program Local (Except FileError Unit) :=
  .perform (S := Local) (.rename old new)

def remove (path : String) : Program Local (Except FileError Unit) :=
  .perform (S := Local) (.remove path)

def makeDirectories (path : String) : Program Local (Except FileError Unit) :=
  .perform (S := Local) (.makeDirectories path)

def workingDirectory : Program Local (Except FileError String) :=
  .perform (S := Local) .workingDirectory

/-- The value of a variable of the environment. -/
def environment (name : String) : Program Local (Option String) :=
  .perform (S := Local) (.environmentVariable name)

def now : Program Local Time.Instant :=
  .perform (S := Local) .now

def processId : Program Local UInt32 :=
  .perform (S := Local) .processId

def note (level : Log.Level) (topic : Log.Topic) (message : String) : Program Local Unit :=
  .perform (S := Local) (.log ⟨level, topic, message⟩)

end Local

end CloudBalance
