import CloudBalance.Proofs.World.Machine
import CloudBalance.Sakura.Placement

/-!
# What is deleted at Sakura Cloud

All that a destruction asks, from the list of the balancers to the deletion. Main statement: of the balancers
of the list only ours are tried, by the virtual address or else by the name, and only where one of them alone
answers on the address is anything deleted, which is that balancer. An id that no argument of a tool can hold
deletes nothing.
-/

namespace CloudBalance.Sakura

open Net (Address Resolution)
open World (calls recording abroad leadsTo)

variable {address : Address} {s : List World.Event}

/-! ## Runs of the tool -/

def listing : List String :=
  ["proxy-lb", "list", "--output-type", "json"]

def deletion (id : String) : List String :=
  ["proxy-lb", "delete", id, "--yes"]

/-- The failure of a run that the arguments do not allow. -/
def unrunnable : SakuraError :=
  .notStarted (.other "nul byte found in provided data")

variable {arguments : List String}

theorem ensures_runTool {zone : Option String}
    (runnable : (zoneArguments zone ++ arguments).all isArgument = true)
    {post : Except SakuraError String → List World.Event → Prop} :
    (runTool zone arguments).run.Ensures recording s post ↔
      ∀ answer, post (outputOf answer) (s ++ [⟨.tool (zoneArguments zone ++ arguments), answer⟩]) := by
  rw [runTool, Attempt.ensures_bind, Attempt.ensures_lift, World.ensures_note]
  dsimp only
  rw [if_pos runnable, Attempt.ensures_bind, Attempt.ensures_lift, World.ensures_tool]
  exact forall_congr' fun answer => Attempt.ensures_known

theorem ensures_runTool_unrunnable {zone : Option String}
    (unfit : (zoneArguments zone ++ arguments).all isArgument = false)
    {post : Except SakuraError String → List World.Event → Prop} :
    (runTool zone arguments).run.Ensures recording s post ↔ post (.error unrunnable) s := by
  rw [runTool, Attempt.ensures_bind, Attempt.ensures_lift, World.ensures_note]
  dsimp only
  rw [if_neg (by simp [unfit]), Attempt.ensures_throw]
  rfl

/-- What came of a run whose failure is seen through `explain`. -/
def explained (explain : String → SakuraError) : ToolRun → Except SakuraError String
  | .notFound => .error .toolNotFound
  | .notStarted cause => .error (.notStarted cause)
  | .exited code output errors =>
    if code = 0 then .ok (Text.decodeLossy output)
    else .error (explain (Text.trim (Text.decodeLossy errors)))

section
variable {zone : Option String} {explain : String → SakuraError}
  {post : Except SakuraError String → List World.Event → Prop}

theorem ensures_runToolFor (runnable : (zoneArguments zone ++ arguments).all isArgument = true) :
    (runToolFor explain zone arguments).run.Ensures recording s post ↔
      ∀ answer, post (explained explain answer) (s ++ [⟨.tool (zoneArguments zone ++ arguments), answer⟩]) := by
  rw [runToolFor, Attempt.ensures_adapt, ensures_runTool runnable]
  refine forall_congr' fun answer => ?_
  cases answer with
  | notFound | notStarted => exact Iff.rfl
  | exited code output errors =>
    by_cases success : code = 0
    · simp only [outputOf, explained, success, if_true, Except.mapError]
    · simp only [outputOf, explained, success, if_false, Except.mapError]

theorem ensures_runToolFor_unrunnable (unfit : (zoneArguments zone ++ arguments).all isArgument = false) :
    (runToolFor explain zone arguments).run.Ensures recording s post ↔ post (.error unrunnable) s := by
  rw [runToolFor, Attempt.ensures_adapt, ensures_runTool_unrunnable unfit]
  rfl

end

theorem within_runTool {zone : Option String} : (runTool zone arguments).run.Within abroad := by
  refine Attempt.within_bind World.within_note fun _ => ?_
  split
  · exact Attempt.within_bind (Attempt.within_lift (Program.within_perform.mpr trivial))
      fun _ => Attempt.within_known
  · trivial

/-- The balancers that the tool listed. -/
def listed (answer : ToolRun) : Except SakuraError (List Balancer) :=
  match outputOf answer with
  | .ok output => readList Balancer.ofJson? output
  | .error e => .error e

/-- What came of a deletion. -/
def deleted : ToolRun → Except SakuraError Unit
  | .notFound => .error .toolNotFound
  | .notStarted cause => .error (.notStarted cause)
  | .exited code _ errors =>
    if code = 0 then .ok () else .error (.deletionFailed (Text.trim (Text.decodeLossy errors)))

theorem ensures_listBalancers {post : Except SakuraError (List Balancer) → List World.Event → Prop} :
    (listBalancers none).run.Ensures recording s post ↔
      ∀ answer, post (listed answer) (s ++ [⟨.tool listing, answer⟩]) := by
  have runnable : (zoneArguments none ++ listing).all isArgument = true := by decide
  rw [listBalancers, Attempt.ensures_bind, ← listing, ensures_runTool runnable]
  refine forall_congr' fun answer => ?_
  rw [listed]
  cases outputOf answer with
  | ok output => exact Attempt.ensures_known
  | error e => exact Iff.rfl

theorem runnable_deletion (id : String) : (deletion id).all isArgument = isArgument id := by
  have first : isArgument "proxy-lb" = true := by decide
  have second : isArgument "delete" = true := by decide
  have last : isArgument "--yes" = true := by decide
  simp [deletion, first, second, last]

theorem ensures_deleteBalancer {id : String} (argument : isArgument id = true)
    {post : Except SakuraError Unit → List World.Event → Prop} :
    (deleteBalancer none id).run.Ensures recording s post ↔
      ∀ answer, post (deleted answer) (s ++ [⟨.tool (deletion id), answer⟩]) := by
  have runnable : (zoneArguments none ++ deletion id).all isArgument = true := by
    rw [zoneArguments, List.nil_append, runnable_deletion, argument]
  rw [deleteBalancer, Attempt.ensures_bind, ← deletion, ensures_runToolFor runnable]
  refine forall_congr' fun answer => ?_
  cases answer with
  | notFound | notStarted => exact Iff.rfl
  | exited code output errors =>
    by_cases success : code = 0
    · simp only [explained, deleted, success, if_true]
      exact Attempt.ensures_pure
    · simp only [explained, deleted, success, if_false]
      exact Iff.rfl

theorem ensures_deleteBalancer_unrunnable {id : String} (unfit : isArgument id = false)
    {post : Except SakuraError Unit → List World.Event → Prop} :
    (deleteBalancer none id).run.Ensures recording s post ↔ post (.error unrunnable) s := by
  have unrunnable : (zoneArguments none ++ deletion id).all isArgument = false := by
    rw [zoneArguments, List.nil_append, runnable_deletion, unfit]
  rw [deleteBalancer, Attempt.ensures_bind, ← deletion, ensures_runToolFor_unrunnable unrunnable]

theorem within_listBalancers : (listBalancers none).run.Within abroad :=
  Attempt.within_bind within_runTool fun _ => Attempt.within_known

theorem within_deleteBalancer (id : String) : (deleteBalancer none id).run.Within abroad :=
  Attempt.within_bind (Attempt.within_adapt within_runTool) fun _ => trivial

/-! ## Trying -/

/-- How it was found out whether a balancer answers on the address. -/
inductive Trial (address : Address) where
  | byAddress (balancer : Balancer) (same : balancer.virtualIp = some address)
  | byName (balancer : Balancer) (other : balancer.virtualIp ≠ some address) (host : String)
      (named : balancer.fqdn = some host) (answer : Resolution)
  | unnamed (balancer : Balancer) (other : balancer.virtualIp ≠ some address) (nameless : balancer.fqdn = none)

namespace Trial

def balancer : Trial address → Balancer
  | .byAddress balancer _ | .byName balancer _ _ _ _ | .unnamed balancer _ _ => balancer

def asked : Trial address → List World.Event
  | .byName _ _ host _ answer => [⟨.resolve host, answer⟩]
  | .byAddress _ _ | .unnamed _ _ _ => []

/-- Whether the balancer answers on the address. -/
def passes : Trial address → Bool
  | .byAddress _ _ => true
  | .byName _ _ _ _ answer => leadsTo address answer
  | .unnamed _ _ _ => false

end Trial

/-- The balancers that answer on the address. -/
def found (trials : List (Trial address)) : List Balancer :=
  (trials.filter Trial.passes).map Trial.balancer

theorem ensures_answersOn (balancer : Balancer) :
    (answersOn address balancer).Ensures recording s fun passed after =>
      ∃ trial : Trial address, trial.balancer = balancer ∧ after = s ++ trial.asked ∧ passed = trial.passes := by
  rw [answersOn]
  by_cases same : balancer.virtualIp = some address
  · rw [if_pos same]
    exact Program.ensures_done.mpr ⟨.byAddress balancer same, rfl, (List.append_nil s).symm, rfl⟩
  · rw [if_neg same]
    cases named : balancer.fqdn with
    | none => exact Program.ensures_done.mpr ⟨.unnamed balancer same named, rfl, (List.append_nil s).symm, rfl⟩
    | some host =>
      dsimp only
      rw [Program.ensures_bind, World.ensures_resolve]
      intro answer
      cases answer with
      | ok addresses =>
        exact Program.ensures_done.mpr ⟨.byName balancer same host named (.ok addresses), rfl, rfl, rfl⟩
      | error e =>
        rw [Program.ensures_bind, World.ensures_note]
        exact Program.ensures_done.mpr ⟨.byName balancer same host named (.error e), rfl, rfl, rfl⟩

theorem ensures_candidates (balancers : List Balancer) :
    (candidates address balancers).Ensures recording s fun chosen after =>
      ∃ trials : List (Trial address), trials.map Trial.balancer = balancers.filter isManaged ∧
        after = s ++ trials.flatMap Trial.asked ∧ chosen = found trials :=
  World.ensures_filterM fun balancer _ => ensures_answersOn balancer

theorem within_candidates (balancers : List Balancer) : (candidates address balancers).Within abroad := by
  refine Program.Within.filterM fun balancer => ?_
  rw [answersOn]
  split
  · trivial
  · split
    · trivial
    · refine (Program.within_perform.mpr trivial).bind fun answer => ?_
      cases answer with
      | ok addresses => trivial
      | error e => exact (Program.within_perform.mpr trivial).bind fun _ => trivial

/-! ## Destroying -/

/-- What is said of balancers that cannot be told apart. -/
def ambiguity (address : Address) (balancers : List Balancer) : CloudError :=
  .invalidArgument (address.text ++ " answers on more than one enhanced load balancer: "
    ++ ", ".intercalate (balancers.map (·.name)))

/-- What is done with the balancers that answer on the address: what is asked, and the result. -/
inductive Settles (address : Address) : List Balancer → List World.Event → Except CloudError Bool → Prop where
  | none : Settles address [] [] (.ok false)
  | one {balancer : Balancer} {answer : ToolRun} (argument : isArgument balancer.id = true) :
      Settles address [balancer] [⟨.tool (deletion balancer.id), answer⟩]
        (((deleted answer).map fun _ => true).mapError SakuraError.toCloudError)
  /-- The tool cannot be told the id. -/
  | unfit {balancer : Balancer} (unfit : isArgument balancer.id = false) :
      Settles address [balancer] [] (.error unrunnable.toCloudError)
  | many {balancers : List Balancer} (several : 2 ≤ balancers.length) :
      Settles address balancers [] (.error (ambiguity address balancers))

/-- How a destruction may go: what is asked, which of our balancers answer on the address, and the result. -/
inductive Course (address : Address) : List World.Event → List Balancer → Except CloudError Bool → Prop where
  /-- The balancers are not to be had. -/
  | unlisted {answer : ToolRun} {e : SakuraError} (refused : listed answer = .error e) :
      Course address [⟨.tool listing, answer⟩] [] (.error e.toCloudError)
  /-- Ours are tried, in the order of the list, and those that answer on the address are settled. -/
  | settled {answer : ToolRun} {balancers : List Balancer} {trials : List (Trial address)}
      {asked : List World.Event} {outcome : Except CloudError Bool} (known : listed answer = .ok balancers)
      (tried : trials.map Trial.balancer = balancers.filter isManaged)
      (settles : Settles address (found trials) asked outcome) :
      Course address (⟨.tool listing, answer⟩ :: (trials.flatMap Trial.asked ++ asked)) (found trials) outcome

theorem ensures_destroy :
    (destroy address).run.Ensures recording [] fun outcome asked =>
      ∃ balancers, Course address asked balancers outcome := by
  rw [destroy, Attempt.ensures_bind, Attempt.ensures_adapt, ensures_listBalancers]
  intro answer
  cases known : listed answer with
  | error e => exact ⟨[], .unlisted known⟩
  | ok balancers =>
    dsimp only [Except.mapError]
    rw [Attempt.ensures_bind, Attempt.ensures_lift]
    refine (ensures_candidates balancers).mono ?_
    rintro _ _ ⟨trials, tried, rfl, rfl⟩
    dsimp only
    rw [Attempt.ensures_bind, Attempt.ensures_known]
    -- from here on only the number of balancers that were found decides
    have course : ∀ {asked outcome}, Settles address (found trials) asked outcome →
        ∃ balancers, Course address ([⟨.tool listing, answer⟩] ++ trials.flatMap Trial.asked ++ asked)
          balancers outcome :=
      fun settles => ⟨_, .settled known tried settles⟩
    have idle : ∀ {outcome}, Settles address (found trials) [] outcome →
        ∃ balancers, Course address ([⟨.tool listing, answer⟩] ++ trials.flatMap Trial.asked)
          balancers outcome :=
      fun settles => by simpa only [List.append_nil] using course settles
    rcases chosen : found trials with _ | ⟨balancer, _ | ⟨second, others⟩⟩
    all_goals rw [chosen] at course idle
    · dsimp only [deletionTarget]
      rw [Attempt.ensures_bind, Attempt.ensures_lift, World.ensures_note]
      exact Attempt.ensures_pure.mpr (idle .none)
    · dsimp only [deletionTarget]
      rw [Attempt.ensures_bind, Attempt.ensures_lift, World.ensures_note]
      dsimp only
      rw [Attempt.ensures_bind, Attempt.ensures_adapt]
      cases argument : isArgument balancer.id with
      | true =>
        rw [ensures_deleteBalancer argument]
        intro reply
        have settled := course (@Settles.one address balancer reply argument)
        cases told : deleted reply with
        | ok _ =>
          rw [told] at settled
          exact Attempt.ensures_pure.mpr settled
        | error e =>
          rw [told] at settled
          exact settled
      | false =>
        rw [ensures_deleteBalancer_unrunnable argument]
        exact idle (.unfit argument)
    · exact idle (.many (by simp))

theorem within_destroy : (destroy address).run.Within abroad := by
  refine Attempt.within_bind (Attempt.within_adapt within_listBalancers) fun balancers => ?_
  refine Attempt.within_bind (Attempt.within_lift (within_candidates balancers)) fun candidates => ?_
  refine Attempt.within_bind Attempt.within_known fun target => ?_
  cases target with
  | some balancer =>
    refine Attempt.within_bind World.within_note fun _ => ?_
    exact Attempt.within_bind (Attempt.within_adapt (within_deleteBalancer balancer.id)) fun _ => trivial
  | none => exact Attempt.within_bind World.within_note fun _ => trivial

/-! ## What is run -/

theorem deleted_ok_iff {answer : ToolRun} :
    deleted answer = .ok () ↔ ∃ output errors, answer = .exited 0 output errors := by
  cases answer with
  | notFound | notStarted => simp [deleted]
  | exited code output errors => by_cases success : code = 0 <;> simp [deleted, success]

variable {asked : List World.Event} {balancers : List Balancer} {outcome : Except CloudError Bool}

theorem Settles.true_iff (settles : Settles address balancers asked outcome) :
    outcome = .ok true ↔ ∃ balancer output errors, balancers = [balancer] ∧
      ⟨.tool (deletion balancer.id), .exited 0 output errors⟩ ∈ asked := by
  cases settles with
  | none | unfit | many => simp
  | @one balancer answer argument =>
    cases told : deleted answer with
    | ok _ =>
      obtain ⟨output, errors, rfl⟩ := deleted_ok_iff.mp told
      exact ⟨fun _ => ⟨balancer, output, errors, rfl, List.mem_singleton_self _⟩, fun _ => rfl⟩
    | error e =>
      constructor
      · intro impossible
        cases impossible
      · rintro ⟨other, output, errors, same, ran⟩
        cases same
        cases List.mem_singleton.mp ran
        cases told

/-- Of the runs of the tool, those that do not list the balancers are the ones by which they are settled. -/
theorem mem_deletions {answer reply : ToolRun} {trials : List (Trial address)} (other : arguments ≠ listing) :
    ⟨.tool arguments, reply⟩ ∈
        (⟨.tool listing, answer⟩ :: (trials.flatMap Trial.asked ++ asked) : List World.Event) ↔
      ⟨.tool arguments, reply⟩ ∈ asked := by
  have first : (⟨.tool arguments, reply⟩ : World.Event) ≠ ⟨.tool listing, answer⟩ := by
    intro same
    cases same
    exact other rfl
  have tried : (⟨.tool arguments, reply⟩ : World.Event) ∉ trials.flatMap Trial.asked := by
    intro member
    obtain ⟨trial, _, ran⟩ := List.mem_flatMap.mp member
    cases trial with
    | byAddress | unnamed => cases ran
    | byName => cases List.mem_singleton.mp ran
  rw [List.mem_cons, or_iff_right first, List.mem_append, or_iff_right tried]

theorem Course.runs (course : Course address asked balancers outcome) {answer : ToolRun}
    (ran : ⟨.tool arguments, answer⟩ ∈ asked) (other : arguments ≠ listing) :
    ∃ balancer, balancers = [balancer] ∧ isManaged balancer = true ∧ isArgument balancer.id = true ∧
      arguments = deletion balancer.id := by
  cases course with
  | unlisted =>
    cases List.mem_singleton.mp ran
    exact absurd rfl other
  | @settled _ _ trials _ _ _ tried settles =>
    -- a run that does not list stands after the look-ups
    have late := (mem_deletions other).mp ran
    generalize chosen : found trials = balancers at settles
    cases settles with
    | none | unfit | many => cases late
    | @one balancer _ argument =>
      cases List.mem_singleton.mp late
      have among : balancer ∈ found trials := chosen ▸ List.mem_singleton_self balancer
      exact ⟨balancer, rfl, (World.mem_of_chosen tried among).2, argument, rfl⟩

theorem Course.true_iff (course : Course address asked balancers outcome) :
    outcome = .ok true ↔ ∃ balancer output errors, balancers = [balancer] ∧
      ⟨.tool (deletion balancer.id), .exited 0 output errors⟩ ∈ asked := by
  cases course with
  | unlisted => simp
  | settled _ _ settles =>
    rw [settles.true_iff]
    refine exists_congr fun balancer => exists₂_congr fun output errors => and_congr_right fun _ => ?_
    have other : deletion balancer.id ≠ listing := by simp [deletion, listing]
    exact (mem_deletions other).symm

/-- What a destruction asks in full. Of the balancers of the list ours are tried, and those that answer on the
address decide. No tool is run but to list them and to delete the only one of these, unless its id is none that
an argument can hold, and it is true that a balancer was destroyed exactly if that run succeeds. -/
theorem runs_only_found {σ : Type} {env : Environment World σ} {before after : σ} {events : List World.Event}
    {result : Option (Except CloudError Bool)}
    (run : (destroy address).run.Runs env before events result after) :
    ∃ outcome balancers, result = some outcome ∧ Course address (calls events) balancers outcome ∧
      (outcome = .ok true ↔ ∃ balancer output errors, balancers = [balancer] ∧
        ⟨.tool (deletion balancer.id), .exited 0 output errors⟩ ∈ events) ∧
      ∀ arguments answer, ⟨.tool arguments, answer⟩ ∈ events → arguments ≠ listing →
        ∃ balancer, balancers = [balancer] ∧ isManaged balancer = true ∧ isArgument balancer.id = true ∧
          arguments = deletion balancer.id := by
  obtain ⟨outcome, rfl⟩ := within_destroy.returns not_false run
  obtain ⟨balancers, course⟩ := World.ensured_of_runs ensures_destroy run
  -- a run of the tool is a call, so it is found among the calls
  have ran : ∀ {arguments answer}, ⟨.tool arguments, answer⟩ ∈ calls events ↔
      ⟨.tool arguments, answer⟩ ∈ events :=
    World.mem_calls.trans (and_iff_left trivial)
  refine ⟨outcome, balancers, rfl, course, ?_, fun arguments answer member => course.runs (ran.mpr member)⟩
  simpa only [ran] using course.true_iff

/-- A machine on which the tool lists one balancer of ours and deletes what it is told to. -/
def webOutside : World.Outside where
  tool arguments :=
    if arguments = listing then
      .exited 0 (Text.encode ("[\x7b\"ID\":\"1\",\"Name\":\"a\",\"VirtualIPAddress\":\"198.51.100.1\","
        ++ "\"Tags\":[\"nimbus\"]\x7d]")) ByteArray.empty
    else .exited 0 ByteArray.empty ByteArray.empty
  send _ := .error "no connection"
  resolve host := .error (.unknownHost host)

theorem runs_web (disk : Disk) :
    ∃ events, (destroy (.v4 198 51 100 1)).run.Runs World.onDisk disk events (some (.ok true)) disk := by
  have ended : ((destroy (.v4 198 51 100 1)).run.run (World.reply webOutside) ()).1 = some (.ok true) := by
    decide +kernel
  exact World.exists_run_of_abroad webOutside within_destroy ended disk

theorem runs_only_found_web :
    ∃ events balancers, (destroy (.v4 198 51 100 1)).run.Runs World.onDisk ⟨[], []⟩ events
        (some (.ok true)) ⟨[], []⟩ ∧
      Course (.v4 198 51 100 1) (calls events) balancers (.ok true) ∧
      ∃ balancer, balancers = [balancer] := by
  obtain ⟨events, run⟩ := runs_web ⟨[], []⟩
  obtain ⟨outcome, balancers, same, course, destroyed, _⟩ := runs_only_found run
  cases same
  obtain ⟨balancer, _, _, alone, _⟩ := destroyed.mp rfl
  exact ⟨events, balancers, run, course, balancer, alone⟩

/-- A balancer of ours whose id holds the one character that no argument can hold. -/
def nulBalancer : Balancer :=
  ⟨"a\x00b", "a", none, some "198.51.100.1", none, ["nimbus"]⟩

def nulListing : ToolRun :=
  .exited 0 (Text.encode ("[\x7b\"ID\":\"a\\u0000b\",\"Name\":\"a\",\"VirtualIPAddress\":\"198.51.100.1\","
    ++ "\"Tags\":[\"nimbus\"]\x7d]")) ByteArray.empty

theorem not_run_where_nul :
    listed nulListing = .ok [nulBalancer] ∧ isManaged nulBalancer = true ∧
      nulBalancer.virtualIp = some (.v4 198 51 100 1) ∧
      ∃ events asked, (destroy (.v4 198 51 100 1)).run.Runs recording [] events
          (some (.error unrunnable.toCloudError)) asked ∧
        ∀ answer, ⟨.tool (deletion nulBalancer.id), answer⟩ ∉ events := by
  have known : listed nulListing = .ok [nulBalancer] := by decide +kernel
  have same : nulBalancer.virtualIp = some (.v4 198 51 100 1) := by decide +kernel
  have unfit : isArgument nulBalancer.id = false := by decide
  have alone : candidates (.v4 198 51 100 1) [nulBalancer] = .done [nulBalancer] := by
    have managed : [nulBalancer].filter isManaged = [nulBalancer] := by decide
    simp [candidates, managed, List.filterM, List.filterAuxM, answersOn, same]
  have possible : ¬ (destroy (.v4 198 51 100 1)).run.Ensures recording [] fun outcome asked =>
      ¬ (outcome = .error unrunnable.toCloudError ∧ asked = [⟨.tool listing, nulListing⟩]) := by
    rw [destroy, Attempt.ensures_bind, Attempt.ensures_adapt, ensures_listBalancers]
    intro never
    have ends := never nulListing
    rw [known] at ends
    dsimp only [Except.mapError] at ends
    rw [alone] at ends
    simp only [deletionTarget, Attempt.ensures_bind, Attempt.ensures_lift, Attempt.ensures_adapt,
      Attempt.ensures_known, Program.ensures_done, World.ensures_note,
      ensures_deleteBalancer_unrunnable unfit] at ends
    exact ends ⟨rfl, rfl⟩
  obtain ⟨events, _, _, run, rfl, rfl⟩ := Program.exists_run possible
  have asked := World.calls_of_recording run
  refine ⟨known, by decide, same, events, _, run, fun answer ran => ?_⟩
  have called := World.mem_calls.mpr ⟨ran, trivial⟩
  rw [← List.nil_append (calls events), ← asked] at called
  have other : deletion nulBalancer.id ≠ listing := by simp [deletion, listing]
  exact other (World.Query.tool.inj (congrArg Sigma.fst (List.mem_singleton.mp called)))

end CloudBalance.Sakura
