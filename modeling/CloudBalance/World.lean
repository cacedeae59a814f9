import CloudBalance.Local
import CloudBalance.Net.Http
import CloudBalance.Net.Resolve

/-!
# The world

The questions that the program asks of everything outside it: to run the tool `usacloud`, to send a
request, to look up a name, to wait, to print a line, and the questions of the local machine.
-/

namespace CloudBalance

open Net (HttpRequest Resolution)

/-- What came of running a tool. -/
inductive ToolRun where
  | notFound
  | notStarted (cause : FileError)
  | exited (code : Int) (output errors : ByteArray)

inductive World.Query where
  /-- Run `usacloud` with these arguments. -/
  | tool (arguments : List String)
  /-- Whether there is a tool `usacloud`. -/
  | hasTool
  | send (request : HttpRequest)
  | resolve (host : String)
  | sleep (nanos : Nat)
  | print (line : String)
  | printError (line : String)
  | here (query : Local.Query)

abbrev World : Signature where
  Query := World.Query
  Answer
    | .tool _ => ToolRun
    | .hasTool => Bool
    /- The text of the reply, or why there is none. -/
    | .send _ => Except String ByteArray
    | .resolve _ => Resolution
    | .sleep _ | .print _ | .printError _ => Unit
    | .here query => Local.Answer query

/-- The questions of the local machine are asked of it. -/
def World.ofLocal {α : Type} (p : Program Local α) : Program World α :=
  p.expand fun q => .perform (S := World) (.here q)

instance : MonadLift (Program Local) (Program World) := ⟨World.ofLocal⟩

/-- An attempt on the local machine, whose failures are seen through `wrap`. -/
def World.attemptLocal {ε ε' α : Type} (p : Attempt Local ε α) (wrap : ε → ε') :
    Attempt World ε' α :=
  (World.ofLocal p.run).attempt wrap

namespace World

def tool (arguments : List String) : Program World ToolRun :=
  .perform (S := World) (.tool arguments)

def hasTool : Program World Bool :=
  .perform (S := World) .hasTool

def send (request : HttpRequest) : Program World (Except String ByteArray) :=
  .perform (S := World) (.send request)

def resolve (host : String) : Program World Resolution :=
  .perform (S := World) (.resolve host)

def sleep (nanos : Nat) : Program World Unit :=
  .perform (S := World) (.sleep nanos)

def print (line : String) : Program World Unit :=
  .perform (S := World) (.print line)

def printError (line : String) : Program World Unit :=
  .perform (S := World) (.printError line)

def note (level : Log.Level) (topic : Log.Topic) (message : String) : Program World Unit :=
  .perform (S := World) (.here (.log ⟨level, topic, message⟩))

end World

end CloudBalance
