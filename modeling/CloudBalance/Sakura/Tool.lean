import CloudBalance.Json.Printer
import CloudBalance.Sakura.Error
import CloudBalance.Sakura.Record
import CloudBalance.Text.Blank
import CloudBalance.World

/-!
# The tool `usacloud`

The operations of Sakura Cloud, each of which is one run of the tool. A run is told a zone to work in,
or none.
-/

namespace CloudBalance.Sakura

/-- What the tool may end in. -/
abbrev Call := Attempt World SakuraError

/-! ## Runs -/

/-- The arguments that choose a zone. -/
def zoneArguments : Option String → List String
  | some zone => ["--zone", zone]
  | none => []

/-- What a run of the tool printed. -/
def outputOf : ToolRun → Except SakuraError String
  | .notFound => .error .toolNotFound
  | .notStarted cause => .error (.notStarted cause)
  | .exited code output errors =>
    if code = 0 then .ok (Text.decodeLossy output)
    else .error (.commandFailed (Text.trim (Text.decodeLossy errors)))

/-- Whether an argument can be handed to a tool. -/
def isArgument (text : String) : Bool :=
  !text.toList.contains '\x00'

/-- Runs the tool in a zone, or in none, and returns what it printed. -/
def runTool (zone : Option String) (arguments : List String) : Call String := do
  let all := zoneArguments zone ++ arguments
  World.note .debug .sakuraTool ("Running: usacloud " ++ " ".intercalate all)
  if all.all isArgument then
    outputOf (← World.tool all)
  else throw (.notStarted (.other "nul byte found in provided data"))

/-- A run whose failure is seen through `explain`. -/
def runToolFor (explain : String → SakuraError) (zone : Option String) (arguments : List String) :
    Call String :=
  ExceptT.adapt
    (fun
      | .commandFailed text => explain text
      | other => other)
    (runTool zone arguments)

/-! ## Reading what was printed -/

/-- The records of a list. Nothing at all is an empty list. -/
def readList {α : Type} (decode : Json → Option α) (output : String) : Except SakuraError (List α) :=
  let text := Text.trim output
  if text.isEmpty || text = "[]" then .ok []
  else
    match Json.decode? (Json.toList? decode) text with
    | some items => .ok items
    | none => .error .malformed

/-- One record, which may be the first of a list. -/
def readOne {α : Type} (decode : Json → Option α) (output : String) : Except SakuraError α :=
  match Json.parseWhole? (Text.trim output) with
  | none => .error .malformed
  | some (.array []) => .error (.commandFailed "usacloud returned an empty result")
  | some (.array (first :: _)) => (decode first).elim (.error .malformed) .ok
  | some value => (decode value).elim (.error .malformed) .ok

/-! ## Operations -/

/-- Who is logged in. -/
def login (zone : Option String) : Call Login := do
  if ← World.hasTool then
    readOne Login.ofJson?
      (← runToolFor .notAuthenticated zone ["auth-status", "--output-type", "json"])
  else throw .toolNotFound

def listServers (zone : Option String) : Call (List Server) := do
  readList Server.ofJson? (← runTool zone ["server", "list", "--output-type", "json"])

/-- The server of an id. -/
def readServer (zone : Option String) (id : String) : Call Server := do
  readOne Server.ofJson?
    (← runToolFor (fun _ => .serverNotFound id) zone ["server", "read", id, "--output-type", "json"])

def listBalancers (zone : Option String) : Call (List Balancer) := do
  readList Balancer.ofJson? (← runTool zone ["proxy-lb", "list", "--output-type", "json"])

def createBalancer (zone : Option String) (parameters : Parameters) : Call Balancer := do
  readOne Balancer.ofJson?
    (← runToolFor .creationFailed zone
      ["proxy-lb", "create", "--parameters", parameters.toJson.compact, "--output-type", "json",
        "--yes"])

/-- Deletes the balancer of an id. -/
def deleteBalancer (zone : Option String) (id : String) : Call Unit := do
  let _ ← runToolFor .deletionFailed zone ["proxy-lb", "delete", id, "--yes"]

end CloudBalance.Sakura
