import CloudBalance.Proofs.Sakura.Reading

/-!
# What a failed creation leaves at Sakura Cloud

Main statement: no creation deletes anything. Where one fails, the tool has made no balancer, or it has made one in the
last run and has printed none with a name. This balancer stays.
-/

namespace CloudBalance.Sakura

open World (calls recording)

variable {aim other : List String} {event : World.Event} {events asked : List World.Event}

/-! ## Runs that succeed -/

/-- The tool is run for a purpose, and succeeds. -/
def SucceedsIn (aim : List String) (event : World.Event) : Prop :=
  ∃ arguments output errors, event = ⟨.tool arguments, .exited 0 output errors⟩ ∧ purpose arguments = aim

theorem SucceedsIn.runsFor (succeeds : SucceedsIn aim event) : RunsFor aim event := by
  obtain ⟨arguments, output, errors, rfl, same⟩ := succeeds
  exact ⟨arguments, _, rfl, same⟩

theorem RunsFor.not_succeedsIn (runs : RunsFor aim event) (differ : aim ≠ other) : ¬ SucceedsIn other event :=
  fun succeeds => differ (runs.unique succeeds.runsFor)

theorem RunsFor.mem_calls (runs : RunsFor aim event) : event ∈ calls events ↔ event ∈ events := by
  obtain ⟨arguments, answer, rfl, _⟩ := runs
  exact World.mem_calls.trans (and_iff_left trivial)

/-- After every run that makes a balancer one is deleted. -/
def Undoes (events : List World.Event) : Prop :=
  ∀ first made rest, events = first ++ made :: rest → SucceedsIn ["proxy-lb", "create"] made →
    ∃ event ∈ rest, SucceedsIn ["proxy-lb", "delete"] event

/-! ## Failing -/

/-- Why a balancer that was made has no name. -/
inductive Unnamed (output : String) : SakuraError → Prop where
  /-- What was printed is no balancer. -/
  | unread {e : SakuraError} (refused : readOne Balancer.ofJson? output = .error e) : Unnamed output e
  | nameless {balancer : Balancer} (read : readOne Balancer.ofJson? output = .ok balancer)
      (nameless : balancer.fqdn = none ∨ balancer.fqdn = some "") :
      Unnamed output (.balancerWithoutName balancer.name)

/-- What a failed creation leaves, by what it asked. -/
inductive Leaves : List World.Event → SakuraError → Prop where
  /-- No balancer was made. -/
  | nothing {asked : List World.Event} {e : SakuraError}
      (none : ∀ event ∈ asked, ¬ SucceedsIn ["proxy-lb", "create"] event) : Leaves asked e
  /-- After servers were read one balancer was made, which has no name. -/
  | balancer {reads : List World.Event} {text : String} {output errors : ByteArray} {e : SakuraError}
      (read : ∀ event ∈ reads, RunsFor ["server", "read"] event) (unnamed : Unnamed (Text.decodeLossy output) e) :
      Leaves (reads ++ [⟨.tool (asking text), .exited 0 output errors⟩]) e

theorem nameOf_eq_error {balancer : Balancer} {e : SakuraError} (refused : nameOf balancer = .error e) :
    (balancer.fqdn = none ∨ balancer.fqdn = some "") ∧ e = .balancerWithoutName balancer.name := by
  cases given : balancer.fqdn with
  | none =>
    rw [nameOf, given, Option.filter_none] at refused
    cases refused
    exact ⟨.inl rfl, rfl⟩
  | some host =>
    by_cases empty : host = ""
    · rw [nameOf, given, empty] at refused
      cases refused
      exact ⟨.inr (congrArg some empty), rfl⟩
    · rw [nameOf_eq_ok.mpr ⟨given, empty⟩] at refused
      cases refused

theorem unnamed_of_error {output errors : ByteArray} {e : SakuraError}
    (refused : (made (.exited 0 output errors)).bind nameOf = .error e) : Unnamed (Text.decodeLossy output) e := by
  rw [made, if_pos rfl] at refused
  cases read : readOne Balancer.ofJson? (Text.decodeLossy output) with
  | error cause =>
    rw [read] at refused
    cases refused
    exact .unread read
  | ok balancer =>
    rw [read] at refused
    obtain ⟨nameless, rfl⟩ := nameOf_eq_error refused
    exact .nameless read nameless

variable {plan : UInt32} {location : Location} {spec : BalancerSpec} {ids order : List String} {e : SakuraError}

theorem Creates.runsFor {outcome : Except SakuraError String}
    (creates : Creates plan location spec order asked outcome) :
    ∀ event ∈ asked, RunsFor ["server", "read"] event ∨ RunsFor ["proxy-lb", "create"] event := by
  intro event member
  cases creates with
  | stopped stops => exact .inl (stops.reads event member)
  | @asked readings =>
    rcases List.mem_append.mp member with early | late
    · exact .inl (reads_readings readings event early)
    · cases List.mem_singleton.mp late
      exact .inr (runsFor_asking _)

theorem Creates.leaves (creates : Creates plan location spec order asked (.error e)) : Leaves asked e := by
  have differ : ["server", "read"] ≠ ["proxy-lb", "create"] := by decide
  generalize same : Except.error e = outcome at creates
  cases creates with
  | stopped stops => exact .nothing fun event member => (stops.reads event member).not_succeedsIn differ
  | @asked readings text _ answer =>
    -- only a last run that succeeds has made a balancer
    by_cases success : ∃ output errors, answer = .exited 0 output errors
    · obtain ⟨output, errors, rfl⟩ := success
      exact .balancer (reads_readings readings) (unnamed_of_error same.symm)
    · refine .nothing fun event member => ?_
      rcases List.mem_append.mp member with early | late
      · exact (reads_readings readings event early).not_succeedsIn differ
      · cases List.mem_singleton.mp late
        rintro ⟨_, output, errors, exited, _⟩
        cases exited
        exact success ⟨output, errors, rfl⟩

theorem Creates.deletes_nothing {outcome : Except SakuraError String}
    (creates : Creates plan location spec order (calls events) outcome) :
    ∀ event ∈ events, ¬ RunsFor ["proxy-lb", "delete"] event := by
  intro event member deletes
  rcases creates.runsFor event (deletes.mem_calls.mpr member) with reads | makes
  · exact absurd (reads.unique deletes) (by decide)
  · exact absurd (makes.unique deletes) (by decide)

/-- What a creation leaves that fails. It deletes nothing, and either the tool made no balancer or the last run made
one that has no name, which stays. -/
theorem leaves_balancer_without_name {σ : Type} {env : Environment World σ} {before after : σ}
    (run : (create plan location spec ids).run.Runs env before events (some (.error e)) after) :
    (∀ event ∈ events, ¬ RunsFor ["proxy-lb", "delete"] event) ∧ Leaves (calls events) e := by
  have creates := World.ensured_of_runs ensures_create run
  exact ⟨creates.deletes_nothing, creates.leaves⟩

/-! ## A creation that fails in the end -/

def namelessBalancer : Balancer :=
  ⟨"9", "web-tk1a", none, none, none, ["nimbus"]⟩

/-- The tool makes a balancer and prints no name of it. -/
theorem exists_run_nameless :
    ∃ events, (create standardPlan (.zone "tk1a") frontSpec ["1"]).run.Runs recording [] events
        (some (.error (.balancerWithoutName "web-tk1a"))) (calls events) ∧
      ∃ made ∈ events, SucceedsIn ["proxy-lb", "create"] made := by
  have sorted : Text.sortedSet ["1"] = ["1"] := Text.sortedSet_eq (List.pairwise_singleton _ _) fun _ => Iff.rfl
  obtain ⟨events, run, asked⟩ := @exists_run_of_readings standardPlan (.zone "tk1a") frontSpec ["1"]
    [frontReading "1" (by decide)] sorted (printed namelessBalancer.toJson)
  have unnamed : nameOf namelessBalancer = .error (.balancerWithoutName "web-tk1a") := by decide
  rw [made_printed, Except.bind, unnamed] at run
  let parameters := parametersOf (.zone "tk1a") frontSpec standardPlan ["192.0.2.1"]
  have succeeds : SucceedsIn ["proxy-lb", "create"] ⟨.tool (creation parameters), printed namelessBalancer.toJson⟩ :=
    ⟨_, _, _, rfl, by simp [purpose, creation]⟩
  have called : ⟨.tool (creation parameters), printed namelessBalancer.toJson⟩ ∈ calls events := by
    rw [asked]
    exact List.mem_append_right _ (List.mem_singleton_self _)
  exact ⟨events, run, _, succeeds.runsFor.mem_calls.mp called, succeeds⟩

theorem leaves_balancer_without_name_web :
    ∃ events e, (create standardPlan (.zone "tk1a") frontSpec ["1"]).run.Runs recording [] events
        (some (.error e)) (calls events) ∧
      (∃ made ∈ events, SucceedsIn ["proxy-lb", "create"] made) ∧
      (∀ event ∈ events, ¬ RunsFor ["proxy-lb", "delete"] event) ∧ Leaves (calls events) e := by
  obtain ⟨events, run, makes⟩ := exists_run_nameless
  exact ⟨events, _, run, makes, leaves_balancer_without_name run⟩

/-- A creation may fail and leave a balancer behind. -/
theorem not_undoes :
    ∃ events e, (create standardPlan (.zone "tk1a") frontSpec ["1"]).run.Runs recording [] events
        (some (.error e)) (calls events) ∧ ¬ Undoes events := by
  obtain ⟨events, run, made, among, succeeds⟩ := exists_run_nameless
  refine ⟨events, _, run, fun undoes => ?_⟩
  obtain ⟨first, rest, split⟩ := List.append_of_mem among
  obtain ⟨event, late, deletes⟩ := undoes first made rest split succeeds
  have later : event ∈ events := split ▸ List.mem_append_right _ (List.mem_cons_of_mem _ late)
  exact (World.ensured_of_runs ensures_create run).deletes_nothing event later deletes.runsFor

end CloudBalance.Sakura
