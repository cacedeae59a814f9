import CloudBalance.Proofs.Json.Compact
import CloudBalance.Proofs.Sakura.Destroy
import CloudBalance.Proofs.Sakura.Record
import CloudBalance.Proofs.World.Provider

/-!
# What is made at Sakura Cloud

A creation first reads the servers in its zone and then asks for one balancer. Main statement: where it gets the
addresses of the servers, the tool is run once more, and the balancer that it prints decides.
-/

namespace CloudBalance.Sakura

open World (calls recording)

variable {s : List World.Event} {parameters : Parameters}

/-! ## Asking for a balancer -/

/-- The arguments that ask for a balancer. -/
def creation (parameters : Parameters) : List String :=
  ["proxy-lb", "create", "--parameters", parameters.toJson.compact, "--output-type", "json", "--yes"]

/-- The balancer that the tool made. -/
def made : ToolRun → Except SakuraError Balancer
  | .notFound => .error .toolNotFound
  | .notStarted cause => .error (.notStarted cause)
  | .exited code output errors =>
    if code = 0 then readOne Balancer.ofJson? (Text.decodeLossy output)
    else .error (.creationFailed (Text.trim (Text.decodeLossy errors)))

/-- What is said of a new balancer. -/
def nameOf (balancer : Balancer) : Except SakuraError String :=
  match balancer.fqdn.filter (!·.isEmpty) with
  | some fqdn => .ok fqdn
  | none => .error (.balancerWithoutName balancer.name)

theorem nameOf_eq_ok {balancer : Balancer} {host : String} :
    nameOf balancer = .ok host ↔ balancer.fqdn = some host ∧ host ≠ "" := by
  have named : balancer.fqdn.filter (!·.isEmpty) = some host ↔ balancer.fqdn = some host ∧ host ≠ "" := by
    simp [Option.filter_eq_some_iff]
  rw [nameOf, ← named]
  cases balancer.fqdn.filter (!·.isEmpty) with
  | none => simp
  | some fqdn => simp

theorem made_eq_ok {answer : ToolRun} {balancer : Balancer} :
    made answer = .ok balancer ↔ ∃ output errors, answer = .exited 0 output errors ∧
      readOne Balancer.ofJson? (Text.decodeLossy output) = .ok balancer := by
  cases answer with
  | notFound | notStarted => simp [made]
  | exited code output errors =>
    by_cases success : code = 0
    · simp [made, success]
    · simp [made, success]

theorem isArgument_of_printable {text : String} (printable : Json.Printable text.toList) :
    isArgument text = true := by
  rw [isArgument, Bool.not_eq_true', ← Bool.not_eq_true, List.contains_iff_mem]
  intro nul
  exact absurd (printable _ nul) (by decide)

theorem runnable_creation (parameters : Parameters) : (creation parameters).all isArgument = true := by
  have text := isArgument_of_printable (Json.printable_compact _ parameters.isPlain_toJson)
  have others : (["proxy-lb", "create", "--parameters", "--output-type", "json", "--yes"].all isArgument) = true := by
    decide
  simp only [List.all_cons, List.all_nil, Bool.and_eq_true, and_true] at others
  simp [creation, text, others]

theorem ensures_createBalancer {post : Except SakuraError Balancer → List World.Event → Prop} :
    (createBalancer none parameters).run.Ensures recording s post ↔
      ∀ answer, post (made answer) (s ++ [⟨.tool (creation parameters), answer⟩]) := by
  have runnable : (zoneArguments none ++ creation parameters).all isArgument = true := runnable_creation parameters
  rw [createBalancer, Attempt.ensures_bind, ← creation, ensures_runToolFor runnable]
  refine forall_congr' fun answer => ?_
  cases answer with
  | notFound | notStarted => exact Iff.rfl
  | exited code output errors =>
    by_cases success : code = 0
    · simp only [explained, made, success, if_true]
      exact Attempt.ensures_known
    · simp only [explained, made, success, if_false]
      exact Iff.rfl

/-- Asks for a balancer and returns its name. -/
def make (parameters : Parameters) : Call String := do
  World.note .info .sakuraBalancer ("Creating enhanced load balancer " ++ parameters.name ++ " ("
    ++ toString parameters.servers.length ++ " server(s))")
  let balancer ← createBalancer none parameters
  match balancer.fqdn.filter (!·.isEmpty) with
  | some fqdn => return fqdn
  | none => throw (.balancerWithoutName balancer.name)

theorem create_eq (plan : UInt32) (location : Location) (spec : BalancerSpec) (ids : List String) :
    create plan location spec ids =
      serverAddresses location.id ids >>= fun addresses => make (parametersOf location spec plan addresses) :=
  rfl

theorem ensures_make {post : Except SakuraError String → List World.Event → Prop} :
    (make parameters).run.Ensures recording s post ↔
      ∀ answer, post ((made answer).bind nameOf) (s ++ [⟨.tool (creation parameters), answer⟩]) := by
  rw [make, Attempt.ensures_bind, Attempt.ensures_lift, World.ensures_note]
  dsimp only
  rw [Attempt.ensures_bind, ensures_createBalancer]
  refine forall_congr' fun answer => ?_
  cases made answer with
  | error e => exact Iff.rfl
  | ok balancer =>
    dsimp only [Except.bind]
    rw [nameOf]
    cases balancer.fqdn.filter (!·.isEmpty) with
    | some fqdn => exact Attempt.ensures_pure
    | none => exact Attempt.ensures_throw

/-! ## Reading servers -/

/-- Runs of the tool in a zone, and the log. -/
def reading (zone : String) : Program.Scope World where
  asks
    | .tool arguments => ∃ rest, arguments = "--zone" :: zone :: rest
    | .here (.log _) => True
    | _ => False
  halts := False

theorem within_runTool_zone {zone : String} {arguments : List String} :
    (runTool (some zone) arguments).run.Within (reading zone) := by
  refine Attempt.within_bind (Attempt.within_lift (Program.within_perform.mpr trivial)) fun _ => ?_
  split
  · exact Attempt.within_bind (Attempt.within_lift (Program.within_perform.mpr ⟨arguments, rfl⟩))
      fun _ => Attempt.within_known
  · trivial

theorem within_serverAddress {zone id : String} : (serverAddress zone id).run.Within (reading zone) := by
  refine Attempt.within_bind ?_ fun server => ?_
  · exact Attempt.within_bind (Attempt.within_adapt within_runTool_zone) fun _ => Attempt.within_known
  · split <;> trivial

/-- The servers are read in their zone, and nothing else is asked. -/
theorem within_serverAddresses {zone : String} {ids : List String} :
    (serverAddresses zone ids).run.Within (reading zone) := by
  rw [serverAddresses]
  induction Text.sortedSet ids with
  | nil => trivial
  | cons id ids ih =>
    rw [List.mapM_cons]
    exact Attempt.within_bind within_serverAddress fun _ => Attempt.within_bind ih fun _ => trivial

/-! ## Making -/

variable {σ : Type} {env : Environment World σ} {before after : σ} {events : List World.Event} {plan : UInt32}
  {location : Location} {spec : BalancerSpec} {ids : List String}

/-- A creation first reads the addresses of the servers, and where it gets them it runs the tool once more. -/
theorem runs_create {outcome : Except SakuraError String}
    (run : (create plan location spec ids).run.Runs env before events (some outcome) after) :
    ∃ first read between rest, (serverAddresses location.id ids).run.Runs env before first (some read) between ∧
      events = first ++ rest ∧
      match read with
      | .error e => rest = [] ∧ after = between ∧ outcome = .error e
      | .ok addresses => Program.Steps env between rest after ∧
        ∃ answer, calls rest = [⟨.tool (creation (parametersOf location spec plan addresses)), answer⟩] ∧
          outcome = (made answer).bind nameOf := by
  rw [create_eq] at run
  rcases Attempt.runs_bind.mp run with ⟨first, addresses, between, rest, read, later, rfl⟩ | ⟨e, read, same⟩ | ⟨_, same⟩
  · have asked : (make (parametersOf location spec plan addresses)).run.Ensures recording [] fun outcome asked =>
        ∃ answer, asked = [⟨.tool (creation (parametersOf location spec plan addresses)), answer⟩] ∧
          outcome = (made answer).bind nameOf :=
      ensures_make.mpr fun answer => ⟨answer, rfl, rfl⟩
    exact ⟨first, .ok addresses, between, rest, read, rfl, later.steps, World.ensured_of_runs asked later⟩
  · cases same
    exact ⟨events, .error e, after, [], read, (List.append_nil events).symm, rfl, rfl, rfl⟩
  · cases same

end CloudBalance.Sakura
