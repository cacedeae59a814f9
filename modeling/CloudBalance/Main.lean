import CloudBalance.Command.Run
import Std.Time.DateTime.Timestamp

/-!
# The program

Answers the questions of a run by the machine at hand. The program is built without the means to
start other tools or to open connections, so it finds no tool, no server and no name that is not an
address.
-/

namespace CloudBalance

open Net (Address Resolution)

/-- Runs an operation on files. -/
def attemptFile {α : Type} (act : IO α) : IO (Except FileError α) := do
  try return .ok (← act)
  catch
    | .noFileOrDirectory .. => return .error .notFound
    | .alreadyExists .. => return .error .alreadyExists
    | e => return .error (.other (toString e))

/-- Whether a path can be opened. -/
def canOpen (path : String) : IO Bool := do
  try
    discard (IO.FS.Handle.mk path .read)
    return true
  catch _ => return false

/-- The number of this process, if the system shows it. -/
def ownProcess : IO UInt32 := do
  try
    let text ← IO.FS.readFile "/proc/self/stat"
    return (String.ofList (text.toList.takeWhile Char.isDigit)).toNat?.getD 0 |>.toUInt32
  catch _ => return 0

def answerLocal : (query : Local.Query) → IO (Local.Answer query)
  | .exists? path => canOpen path
  | .isDirectory path => canOpen (Path.join path ".")
  | .read path => attemptFile (IO.FS.readBinFile path)
  | .write path bytes => attemptFile (IO.FS.writeBinFile path bytes)
  | .rename old new => attemptFile (IO.FS.rename old new)
  | .remove path => attemptFile (IO.FS.removeFile path)
  | .makeDirectories path => attemptFile (IO.FS.createDirAll path)
  | .workingDirectory => attemptFile do return (← IO.currentDir).toString
  | .environmentVariable name => IO.getEnv name
  | .now => do
    let now ← Std.Time.Timestamp.now
    return Time.Instant.ofEpochNanos now.toNanosecondsSinceUnixEpoch.val
  | .processId => ownProcess
  | .log record => IO.eprintln record.text

def answerWorld : (query : World.Query) → IO (World.Answer query)
  | .tool _ => return ToolRun.notFound
  | .hasTool => return false
  | .send _ => return .error "no connection"
  | .resolve host => return Resolution.bySystem (fun _ => .error "no resolver") host
  | .sleep nanos => IO.sleep (nanos / 1000000).toUInt32
  | .print line => IO.println line
  | .printError line => IO.eprintln line
  | .here query => answerLocal query

/-- Carries out a program. -/
def execute {α : Type} : Program World α → IO (Option α)
  | .done result => return some result
  | .ask query next => do execute (next (← answerWorld query))
  | .halt => return none

end CloudBalance

/-- The exit code is that of the run, or 101 if the run broke off. -/
def main (words : List String) : IO UInt32 := do
  return (← CloudBalance.execute (CloudBalance.World.runProgram words)).getD 101
