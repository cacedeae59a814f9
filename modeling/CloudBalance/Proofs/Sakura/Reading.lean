import CloudBalance.Proofs.Sakura.Store
import CloudBalance.Proofs.Text.Order

/-!
# What a creation asks at Sakura Cloud

All that a creation asks, from the first server to the balancer. Main statement: the servers are read in the order of
their ids, up to the first one whose address is not to be had, and only where all addresses are known a balancer in
front of them is asked for. It has a name exactly if the tool succeeds and prints a balancer with one. A zone or an id
that no argument of the tool can hold ends the creation before the server is read.
-/

namespace CloudBalance.Sakura

open World (abroad calls recording)

variable {zone : String} {s : List World.Event}

/-! ## Reading a server -/

/-- The arguments that read a server. -/
def serverReading (zone id : String) : List String :=
  ["--zone", zone, "server", "read", id, "--output-type", "json"]

/-- The server that the tool was asked for. -/
def serverIn (id : String) (answer : ToolRun) : Except SakuraError Server :=
  (explained (fun _ => .serverNotFound id) answer).bind (readOne Server.ofJson?)

/-- The address of this server. -/
def addressIn (id : String) (answer : ToolRun) : Except SakuraError String :=
  (serverIn id answer).bind fun server => server.sharedAddress.elim (.error (.serverWithoutAddress id)) .ok

/-- How it is found that the address of a server is not to be had: what is asked, and why. -/
inductive Stops (zone id : String) : List World.Event → SakuraError → Prop where
  /-- The tool cannot be told the zone and the id. -/
  | unfit (unfit : (serverReading zone id).all isArgument = false) : Stops zone id [] unrunnable
  | unread {answer : ToolRun} {e : SakuraError} (fit : (serverReading zone id).all isArgument = true)
      (refused : addressIn id answer = .error e) : Stops zone id [⟨.tool (serverReading zone id), answer⟩] e

/-- What the tool answered when it was asked for a server that has an address. -/
structure Reading (zone : String) where
  id : String
  fit : (serverReading zone id).all isArgument = true
  answer : ToolRun
  address : String
  read : addressIn id answer = .ok address

def Reading.call (reading : Reading zone) : World.Event :=
  ⟨.tool (serverReading zone reading.id), reading.answer⟩

section
variable {id : String} {post : Except SakuraError String → List World.Event → Prop}

theorem ensures_serverAddress (fit : (serverReading zone id).all isArgument = true) :
    (serverAddress zone id).run.Ensures recording s post ↔
      ∀ answer, post (addressIn id answer) (s ++ [⟨.tool (serverReading zone id), answer⟩]) := by
  have whole : (zoneArguments (some zone) ++ ["server", "read", id, "--output-type", "json"]).all isArgument = true :=
    fit
  rw [serverAddress, readServer, Attempt.ensures_bind, Attempt.ensures_bind, ensures_runToolFor whole]
  refine forall_congr' fun answer => ?_
  rw [addressIn, serverIn]
  cases explained (fun _ => .serverNotFound id) answer with
  | error e => exact Iff.rfl
  | ok output =>
    refine Attempt.ensures_known.trans ?_
    rw [Except.bind]
    cases readOne Server.ofJson? output with
    | error e => exact Iff.rfl
    | ok server =>
      dsimp only [Except.bind]
      cases server.sharedAddress with
      | none => exact Attempt.ensures_throw
      | some address => exact Attempt.ensures_pure

theorem ensures_serverAddress_unfit (unfit : (serverReading zone id).all isArgument = false) :
    (serverAddress zone id).run.Ensures recording s post ↔ post (.error unrunnable) s := by
  have whole : (zoneArguments (some zone) ++ ["server", "read", id, "--output-type", "json"]).all isArgument = false :=
    unfit
  rw [serverAddress, readServer, Attempt.ensures_bind, Attempt.ensures_bind, ensures_runToolFor_unrunnable whole]

end

theorem reads_or_stops (zone id : String) :
    (serverAddress zone id).run.Ensures recording s fun result after =>
      match result with
      | .ok address => ∃ reading : Reading zone, reading.id = id ∧ reading.address = address ∧
          after = s ++ [reading.call]
      | .error e => ∃ asked, Stops zone id asked e ∧ after = s ++ asked := by
  cases fit : (serverReading zone id).all isArgument with
  | false =>
    rw [ensures_serverAddress_unfit fit]
    exact ⟨[], .unfit fit, (List.append_nil s).symm⟩
  | true =>
    rw [ensures_serverAddress fit]
    intro answer
    cases read : addressIn id answer with
    | error e => exact ⟨_, .unread fit read, rfl⟩
    | ok address => exact ⟨⟨id, fit, answer, address, read⟩, rfl, rfl, rfl⟩

/-- The servers of a list are read one after another, up to the first one whose address is not to be had. -/
theorem ensures_addresses (zone : String) (ids : List String) :
    (ids.mapM (serverAddress zone)).run.Ensures recording s fun result after => ∃ readings : List (Reading zone),
      match result with
      | .ok addresses => ids = readings.map Reading.id ∧ addresses = readings.map Reading.address ∧
          after = s ++ readings.map Reading.call
      | .error e => ∃ id rest asked, Stops zone id asked e ∧ ids = readings.map Reading.id ++ id :: rest ∧
          after = s ++ (readings.map Reading.call ++ asked) := by
  -- what was asked for the ids before stands in `s`, so it differs from id to id
  induction ids generalizing s with
  | nil =>
    refine Attempt.ensures_pure.mpr ?_
    exact ⟨[], rfl, rfl, (List.append_nil s).symm⟩
  | cons id ids ih =>
    rw [List.mapM_cons, Attempt.ensures_bind]
    refine (reads_or_stops zone id).mono fun result between first => ?_
    cases result with
    | error e =>
      obtain ⟨asked, stops, rfl⟩ := first
      exact ⟨[], id, ids, asked, stops, rfl, rfl⟩
    | ok address =>
      obtain ⟨reading, rfl, rfl, rfl⟩ := first
      dsimp only
      rw [Attempt.ensures_bind]
      refine ih.mono fun result after later => ?_
      obtain ⟨readings, later⟩ := later
      cases result with
      | error e =>
        obtain ⟨id, rest, asked, stops, rfl, rfl⟩ := later
        exact ⟨reading :: readings, id, rest, asked, stops, rfl, by simp⟩
      | ok addresses =>
        obtain ⟨rfl, rfl, rfl⟩ := later
        refine Attempt.ensures_pure.mpr ?_
        exact ⟨reading :: readings, rfl, rfl, by simp⟩

/-- What is ensured of reading servers holds where the tool answers for each of them with an address. -/
theorem reached_of_ensures {readings : List (Reading zone)}
    {post : Except SakuraError (List String) → List World.Event → Prop}
    (ensured : ((readings.map Reading.id).mapM (serverAddress zone)).run.Ensures recording s post) :
    post (.ok (readings.map Reading.address)) (s ++ readings.map Reading.call) := by
  induction readings generalizing s post with
  | nil =>
    rw [List.map_nil, List.map_nil, List.append_nil]
    exact Attempt.ensures_pure.mp ensured
  | cons reading readings ih =>
    rw [List.map_cons, List.mapM_cons, Attempt.ensures_bind, ensures_serverAddress reading.fit] at ensured
    have later := ensured reading.answer
    rw [reading.read] at later
    dsimp only at later
    rw [Attempt.ensures_bind] at later
    have rest := Attempt.ensures_pure.mp (ih later)
    rwa [List.append_assoc] at rest

/-! ## What the tool is run for -/

/-- The arguments that ask for a balancer by the text of its parameters. -/
def asking (text : String) : List String :=
  ["proxy-lb", "create", "--parameters", text, "--output-type", "json", "--yes"]

/-- What the tool is run for, in a zone or in none. -/
def purpose (arguments : List String) : List String :=
  if arguments.head? = some "--zone" then (arguments.drop 2).take 2 else arguments.take 2

/-- The tool is run for a purpose. -/
def RunsFor (aim : List String) (event : World.Event) : Prop :=
  ∃ arguments answer, event = ⟨.tool arguments, answer⟩ ∧ purpose arguments = aim

theorem RunsFor.unique {aim other : List String} {event : World.Event} (runs : RunsFor aim event)
    (also : RunsFor other event) : aim = other := by
  obtain ⟨arguments, answer, rfl, rfl⟩ := runs
  obtain ⟨_, _, same, rfl⟩ := also
  rw [World.Query.tool.inj (congrArg Sigma.fst same)]

theorem runsFor_serverReading (zone id : String) (answer : ToolRun) :
    RunsFor ["server", "read"] ⟨.tool (serverReading zone id), answer⟩ :=
  ⟨_, answer, rfl, by simp [purpose, serverReading]⟩

theorem runsFor_asking {text : String} (answer : ToolRun) :
    RunsFor ["proxy-lb", "create"] ⟨.tool (asking text), answer⟩ :=
  ⟨_, answer, rfl, by simp [purpose, asking]⟩

variable {asked : List World.Event}

theorem reads_readings (readings : List (Reading zone)) :
    ∀ event ∈ readings.map Reading.call, RunsFor ["server", "read"] event := by
  intro event member
  obtain ⟨reading, _, rfl⟩ := List.mem_map.mp member
  exact runsFor_serverReading zone reading.id reading.answer

/-- Up to the server whose address is not to be had the tool is run only to read servers. -/
theorem Stops.reads {readings : List (Reading zone)} {id : String} {e : SakuraError} (stops : Stops zone id asked e) :
    ∀ event ∈ readings.map Reading.call ++ asked, RunsFor ["server", "read"] event := by
  refine List.forall_mem_append.mpr ⟨reads_readings readings, ?_⟩
  cases stops with
  | unfit => exact List.forall_mem_nil _
  | unread => exact List.forall_mem_singleton.mpr (runsFor_serverReading zone id _)

theorem not_asking {text : String} {answer : ToolRun} (reads : ∀ event ∈ asked, RunsFor ["server", "read"] event) :
    ⟨.tool (asking text), answer⟩ ∉ asked :=
  fun member => absurd ((reads _ member).unique (runsFor_asking answer)) (by decide)

/-! ## A creation -/

/-- The parameters of a balancer at a location, in front of servers with these addresses. -/
structure Fronts (plan : UInt32) (location : Location) (spec : BalancerSpec) (addresses : List String)
    (parameters : Parameters) : Prop where
  named : parameters.name = spec.nameAt location.id
  planned : parameters.plan = plan
  placed : parameters.region = regionOfZone location.id
  listens : parameters.bindPorts = [⟨modeOf spec.protocol, spec.balancerPort⟩]
  forwards : parameters.servers = addresses.map (⟨·, spec.instancePort, true⟩)
  tagged : parameters.tags = ["nimbus"]

/-- How a creation may go for ids in an order: what is asked, and the result. -/
inductive Creates (plan : UInt32) (location : Location) (spec : BalancerSpec) :
    List String → List World.Event → Except SakuraError String → Prop where
  /-- The servers are read up to one whose address is not to be had. -/
  | stopped {readings : List (Reading location.id)} {id : String} {rest : List String} {asked : List World.Event}
      {e : SakuraError} (stops : Stops location.id id asked e) :
      Creates plan location spec (readings.map Reading.id ++ id :: rest) (readings.map Reading.call ++ asked)
        (.error e)
  /-- All servers are read, and a balancer in front of them is asked for. -/
  | asked {readings : List (Reading location.id)} {text : String} {parameters : Parameters} {answer : ToolRun}
      (decoded : Json.decode? Parameters.ofJson? text = some parameters)
      (fronts : Fronts plan location spec (readings.map Reading.address) parameters) :
      Creates plan location spec (readings.map Reading.id)
        (readings.map Reading.call ++ [⟨.tool (asking text), answer⟩]) ((made answer).bind nameOf)

theorem decode?_parameters (parameters : Parameters) :
    Json.decode? Parameters.ofJson? parameters.toJson.compact = some parameters := by
  rw [Json.decode?, Json.parse?_compact parameters.isPlain_toJson, Option.bind_some, parameters.ofJson?_toJson]

variable {plan : UInt32} {location : Location} {spec : BalancerSpec} {ids : List String}

theorem ensures_create :
    (create plan location spec ids).run.Ensures recording [] fun outcome asked =>
      Creates plan location spec (Text.sortedSet ids) asked outcome := by
  rw [create_eq, Attempt.ensures_bind, serverAddresses]
  refine (ensures_addresses location.id (Text.sortedSet ids)).mono fun result between read => ?_
  obtain ⟨readings, read⟩ := read
  cases result with
  | error e =>
    obtain ⟨id, rest, asked, stops, order, rfl⟩ := read
    rw [order]
    exact .stopped stops
  | ok addresses =>
    obtain ⟨order, rfl, rfl⟩ := read
    rw [order]
    exact ensures_make.mpr fun answer => .asked (decode?_parameters _) ⟨rfl, rfl, rfl, rfl, rfl, rfl⟩

/-- There is a creation that reads these servers and to which the tool gives this answer. -/
theorem exists_run_of_readings {readings : List (Reading location.id)}
    (order : Text.sortedSet ids = readings.map Reading.id) (answer : ToolRun) :
    ∃ events, (create plan location spec ids).run.Runs recording [] events (some ((made answer).bind nameOf))
        (calls events) ∧
      calls events = readings.map Reading.call ++
        [⟨.tool (creation (parametersOf location spec plan (readings.map Reading.address))), answer⟩] := by
  have possible : ¬ (create plan location spec ids).run.Ensures recording [] fun outcome asked =>
      ¬ (outcome = (made answer).bind nameOf ∧ asked = readings.map Reading.call ++
        [⟨.tool (creation (parametersOf location spec plan (readings.map Reading.address))), answer⟩]) := by
    rw [create_eq, Attempt.ensures_bind, serverAddresses, order]
    -- nothing can be ensured against the answers of the readings and this one
    exact fun never => ensures_make.mp (reached_of_ensures never) answer ⟨rfl, rfl⟩
  exact World.exists_run_of_possible possible

theorem within_create : (create plan location spec ids).run.Within abroad := by
  have reads : (serverAddresses location.id ids).run.Within abroad := by
    refine within_serverAddresses.mono (fun query asks => ?_) id
    cases query with
    | tool => trivial
    | here query =>
      cases query with
      | log record => trivial
      | _ => cases asks
    | _ => cases asks
  refine Attempt.within_bind reads fun addresses => ?_
  refine Attempt.within_bind World.within_note fun _ => ?_
  refine Attempt.within_bind ?_ fun balancer => ?_
  · exact Attempt.within_bind (Attempt.within_adapt within_runTool) fun _ => Attempt.within_known
  · split <;> trivial

variable {outcome : Except SakuraError String} {order : List String}

/-- There is a name exactly if the tool was asked for a balancer and printed one with this name. -/
theorem Creates.ok_iff (creates : Creates plan location spec order asked outcome) {host : String} :
    outcome = .ok host ↔ ∃ text output errors balancer, ⟨.tool (asking text), .exited 0 output errors⟩ ∈ asked ∧
      readOne Balancer.ofJson? (Text.decodeLossy output) = .ok balancer ∧ balancer.fqdn = some host ∧ host ≠ "" := by
  cases creates with
  | stopped stops =>
    refine iff_of_false nofun ?_
    rintro ⟨text, output, errors, balancer, ran, _⟩
    exact not_asking stops.reads ran
  | @asked readings text parameters answer =>
    constructor
    · intro named
      cases printed : made answer with
      | error e =>
        rw [printed] at named
        cases named
      | ok balancer =>
        rw [printed] at named
        obtain ⟨output, errors, rfl, read⟩ := made_eq_ok.mp printed
        exact ⟨text, output, errors, balancer, List.mem_append_right _ (List.mem_singleton_self _), read,
          nameOf_eq_ok.mp named⟩
    · rintro ⟨other, output, errors, balancer, ran, read, named⟩
      -- the readings ask for no balancer, so this is the last run
      cases List.mem_singleton.mp ((List.mem_append.mp ran).resolve_left (not_asking (reads_readings readings)))
      rw [made_eq_ok.mpr ⟨output, errors, rfl, read⟩]
      exact nameOf_eq_ok.mpr named

/-- Where the tool can be told none of the ids, it is not run. -/
theorem Creates.silent (creates : Creates plan location spec order asked outcome) (some : order ≠ [])
    (unfit : ∀ id ∈ order, (serverReading location.id id).all isArgument = false) : asked = [] := by
  -- a server that was read is one that the tool was told
  have nothing : ∀ readings : List (Reading location.id), (∀ reading ∈ readings, reading.id ∈ order) →
      readings = [] := by
    intro readings among
    refine List.eq_nil_iff_forall_not_mem.mpr fun reading member => ?_
    simpa [reading.fit] using unfit reading.id (among reading member)
  cases creates with
  | @stopped readings id rest asked e stops =>
    cases nothing readings fun reading member => List.mem_append_left _ (List.mem_map_of_mem member)
    cases stops with
    | unfit => rfl
    | unread fit => simp [unfit id] at fit
  | @asked readings =>
    cases nothing readings fun reading member => List.mem_map_of_mem member
    exact absurd rfl some

/-- What a creation asks in full. The servers are read in the order of the bytes of their ids, and where one of them
cannot be read or has no address the creation ends there. Otherwise one balancer is asked for. -/
theorem reads_before_asking {σ : Type} {env : Environment World σ} {before after : σ} {events : List World.Event}
    {result : Option (Except SakuraError String)}
    (run : (create plan location spec ids).run.Runs env before events result after) :
    ∃ outcome order, result = some outcome ∧ (order.Pairwise fun a b => Text.bytes a < Text.bytes b) ∧
      (∀ id, id ∈ order ↔ id ∈ ids) ∧ Creates plan location spec order (calls events) outcome ∧
      ∀ host, outcome = .ok host ↔ ∃ text output errors balancer,
        ⟨.tool (asking text), .exited 0 output errors⟩ ∈ events ∧
          readOne Balancer.ofJson? (Text.decodeLossy output) = .ok balancer ∧
          balancer.fqdn = some host ∧ host ≠ "" := by
  obtain ⟨outcome, rfl⟩ := within_create.returns not_false run
  have creates := World.ensured_of_runs ensures_create run
  -- a run of the tool is a call, so it is found among the calls
  have ran : ∀ {text output errors}, ⟨.tool (asking text), .exited 0 output errors⟩ ∈ calls events ↔
      ⟨.tool (asking text), .exited 0 output errors⟩ ∈ events :=
    World.mem_calls.trans (and_iff_left trivial)
  refine ⟨outcome, _, rfl, Text.pairwise_sortedSet ids, fun _ => Text.mem_sortedSet, creates, fun host => ?_⟩
  simpa only [ran] using creates.ok_iff

/-! ## Runs -/

def frontSpec : BalancerSpec :=
  ⟨"web", .http, 80, 8080⟩

/-- What the tool prints of a server with an address. -/
def serverText : String :=
  "[\x7b\"ID\":1,\"Name\":\"a\",\"Interfaces\":[\x7b\"IPAddress\":\"192.0.2.1\"\x7d]\x7d]"

theorem serverIn_exited {id text : String} {errors : ByteArray} {server : Server}
    (read : readOne Server.ofJson? text = .ok server) :
    serverIn id (.exited 0 (Text.encode text) errors) = .ok server := by
  rw [serverIn, explained, if_pos rfl, Text.decodeLossy_encode, Except.bind, read]

theorem addressIn_serverText (id : String) :
    addressIn id (.exited 0 (Text.encode serverText) ByteArray.empty) = .ok "192.0.2.1" := by
  have read : readOne Server.ofJson? serverText =
      .ok ⟨"1", "a", [], none, none, none, some [⟨some "192.0.2.1", none⟩]⟩ := by
    decide +kernel
  rw [addressIn, serverIn_exited read]
  rfl

def frontReading (id : String) (fit : (serverReading "tk1a" id).all isArgument = true) : Reading "tk1a" :=
  ⟨id, fit, _, _, addressIn_serverText id⟩

def frontBalancer : Balancer :=
  ⟨"9", "web-tk1a", some "a.example", none, none, ["nimbus"]⟩

theorem reads_before_asking_two :
    ∃ events order, (create standardPlan (.zone "tk1a") frontSpec ["2", "1"]).run.Runs recording [] events
        (some (.ok "a.example")) (calls events) ∧
      (order.Pairwise fun a b => Text.bytes a < Text.bytes b) ∧ (∀ id, id ∈ order ↔ id ∈ ["2", "1"]) ∧
      Creates standardPlan (.zone "tk1a") frontSpec order (calls events) (.ok "a.example") ∧
      ∃ text output errors balancer, ⟨.tool (asking text), .exited 0 output errors⟩ ∈ events ∧
        readOne Balancer.ofJson? (Text.decodeLossy output) = .ok balancer ∧ balancer.fqdn = some "a.example" := by
  have sorted : Text.sortedSet ["2", "1"] = ["1", "2"] :=
    Text.sortedSet_eq (by decide +kernel) fun id => by simp [or_comm]
  obtain ⟨events, run, _⟩ := @exists_run_of_readings standardPlan (.zone "tk1a") frontSpec ["2", "1"]
    [frontReading "1" (by decide), frontReading "2" (by decide)] sorted (printed frontBalancer.toJson)
  have named : nameOf frontBalancer = .ok "a.example" := by decide
  rw [made_printed, Except.bind, named] at run
  obtain ⟨outcome, order, same, ascending, among, creates, ends⟩ := reads_before_asking run
  cases same
  obtain ⟨text, output, errors, balancer, ran, read, fqdn, _⟩ := (ends "a.example").mp rfl
  exact ⟨events, order, run, ascending, among, creates, text, output, errors, balancer, ran, read, fqdn⟩

/-- A machine on which the tool finds a server for whatever id it is told. -/
def servingOutside : World.Outside where
  tool _ := .exited 0 (Text.encode serverText) ByteArray.empty
  send _ := .error "no connection"
  resolve host := .error (.unknownHost host)

/-- The server of an id that holds the one character that no argument can hold is not read. -/
theorem not_read_where_nul :
    (∃ address, addressIn "a\x00b" (servingOutside.tool (serverReading "tk1a" "a\x00b")) = .ok address) ∧
      ∃ events, (create standardPlan (.zone "tk1a") frontSpec ["a\x00b"]).run.Runs World.onDisk ⟨[], []⟩ events
          (some (.error unrunnable)) ⟨[], []⟩ ∧
        ∀ arguments answer, ⟨.tool arguments, answer⟩ ∉ events := by
  have alone : Text.sortedSet ["a\x00b"] = ["a\x00b"] :=
    Text.sortedSet_eq (List.pairwise_singleton _ _) fun _ => Iff.rfl
  have ended : ((create standardPlan (.zone "tk1a") frontSpec ["a\x00b"]).run.run (World.reply servingOutside) ()).1 =
      some (.error unrunnable) := by
    decide +kernel
  obtain ⟨events, run⟩ := World.exists_run_of_abroad servingOutside within_create ended ⟨[], []⟩
  have creates := World.ensured_of_runs ensures_create run
  rw [alone] at creates
  have unfit : ∀ id ∈ ["a\x00b"], (serverReading (Location.zone "tk1a").id id).all isArgument = false := by decide
  have silent := creates.silent (List.cons_ne_nil _ _) unfit
  refine ⟨⟨_, addressIn_serverText _⟩, events, run, fun arguments answer ran => ?_⟩
  have called := World.mem_calls.mpr ⟨ran, trivial⟩
  rw [silent] at called
  cases called

end CloudBalance.Sakura
