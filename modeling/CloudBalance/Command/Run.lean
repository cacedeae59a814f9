import CloudBalance.Command.Assembly
import CloudBalance.Command.Auth
import CloudBalance.Command.Create
import CloudBalance.Command.Destroy
import CloudBalance.Command.List
import CloudBalance.Settings.Search

/-!
# Running the program

From the words on the command line to the exit code.
-/

namespace CloudBalance

open Terminal (Arguments Command)

namespace World

/-- The version of the program. -/
def versionText : String := "nimbus 0.3.0"

/-- The shape of a command line. -/
def usageLine : String :=
  "Usage: nimbus [-v] <auth | nodes | lb create | lb destroy | lb list | version>"

/-- What is printed when help is asked for. -/
def helpText : String :=
  "ノードの前に、ロケーションごとのロードバランサーを。\n\n" ++ usageLine

/-- What is printed when the words on the command line are wrong. -/
def usageText : String :=
  "error: invalid arguments\n\n" ++ usageLine

/-- The records that are logged: all but the smallest where the user wants it talkative, or else what
the environment says. -/
def logFilter (verbose : Bool) (setting : Option String) : Log.Filter :=
  if verbose then .everywhere Log.Level.debug.rank
  else (setting.bind Log.filter?).getD (.everywhere Log.Level.warn.rank)

/-- Asks a question, unless it is to log a record that the filter holds back. -/
def askFiltered (filter : Log.Filter) : (query : World.Query) → Program World (World.Answer query)
  | .here (.log record) =>
    if filter.admits record then .perform (S := World) (.here (.log record)) else .done ()
  | query => .perform (S := World) query

/-- The program without the records that a filter holds back. -/
def filterLog {α : Type} (filter : Log.Filter) (p : Program World α) : Program World α :=
  p.expand (askFiltered filter)

/-- How a run ends. -/
inductive Ending where
  | success
  | failure (cause : CommandError)
  /-- There are no settings. -/
  | noSettings

/-- Finds the settings; `none` if there are none. -/
def loadSettings : Attempt World CommandError (Option Settings) := do
  match ← Attempt.outcome (attemptLocal Settings.load id) with
  | .ok (path, settings) =>
    note .debug .program ("Loaded config: " ++ path)
    return some settings
  | .error .fileNotFound => return none
  | .error e => throw (.settings e)

/-- A command that needs the providers. -/
def commandAct (providers : Providers) (store : Ledger.Store) : Command → Session.Act Unit
  | .auth => Session.auth providers
  | .nodes selection all => Session.nodes providers selection all
  | .create name protocol balancerPort instancePort selection =>
    Session.create providers store ⟨name, protocol, balancerPort, instancePort, selection⟩
  | .destroy address => Session.destroy store address
  | .list => Session.list store
  | .version => return ()

/-- The providers of a command that asks none of them. -/
def noProviders : Assembly :=
  ⟨[], .sakura BalancerSettings.standardPlan, .dns⟩

/-- Carries out a command. The version and the ledger are shown without settings. -/
def perform (colour : Bool) (command : Command) : Attempt World CommandError Ending := do
  if command = .version then
    print versionText
    return .success
  let root ← attemptLocal (Local.workingDirectory.attempt id) .noWorkingDirectory
  if command = .list then
    ofSession noProviders colour (Session.list ⟨root⟩)
    return .success
  let some settings ← loadSettings | return .noSettings
  let assembly ← attemptLocal (Assembly.ofSettings settings) id
  ofSession assembly colour (commandAct assembly.providers ⟨root⟩ command)
  return .success

/-- Prints how a run ended and returns its exit code. -/
def finish (colour : Bool) : Ending → Program World UInt32
  | .success => return 0
  | .failure cause => do
    printError cause.report
    return 1
  | .noSettings => do
    printError (Terminal.Line.render colour
      [.styled .boldRed "Error:", .plain (" " ++ SettingsError.fileNotFound.message)])
    return 1

/-- Carries out what the arguments ask for. -/
def runArguments (arguments : Arguments) : Program World UInt32 := do
  let colour := Terminal.showsStyles (← Local.environment "CLICOLOR_FORCE")
  let filter := logFilter arguments.verbose (← Local.environment "RUST_LOG")
  filterLog filter do
    match ← (perform colour arguments.command).run with
    | .ok ending => finish colour ending
    | .error cause => finish colour (.failure cause)

/-- Runs the program on the words behind its name and returns its exit code. -/
def runProgram (words : List String) : Program World UInt32 := do
  match Arguments.parse words with
  | .ok arguments => runArguments arguments
  | .error .help =>
    print helpText
    return 0
  | .error .usage =>
    printError usageText
    return 2

end World

end CloudBalance
