import CloudBalance.Proofs.Balancer.Made
import CloudBalance.Proofs.Scope
import CloudBalance.Proofs.Text.Order
import Mathlib.Data.List.Lex

/-!
# The addresses of what was made

Balancers can be made for a report or for nothing but the addresses. Main statement: both ask the same questions in the
same order and return under the same answers. The addresses are those of the report, and where one fails the other one
does, with the failure of the one call that went wrong in place of the failure of the whole work.
-/

namespace CloudBalance

open Net (Address)

/-! ## Addresses once each -/

namespace Net.Address

theorem sortKey_injective {first second : Address} (same : first.sortKey = second.sortKey) :
    first = second := by
  cases first with
  | v4 a b c d =>
    cases second with
    | v4 a' b' c' d' => simpa [sortKey, UInt8.toNat_inj] using same
    | v6 groups => simp [sortKey] at same
  | v6 groups =>
    cases second with
    | v4 a b c d => simp [sortKey] at same
    | v6 groups' =>
      have injective : Function.Injective UInt16.toNat := fun _ _ => UInt16.toNat_inj.mp
      have lists : groups.toList.map UInt16.toNat = groups'.toList.map UInt16.toNat := by
        simpa [sortKey] using same
      rw [Vector.toList_inj.mp (injective.list_map lists)]

theorem mem_sortedSet {address : Address} {addresses : List Address} :
    address ∈ sortedSet addresses ↔ address ∈ addresses := by
  rw [sortedSet, Text.mem_eraseReps, List.mem_mergeSort]

theorem nodup_sortedSet (addresses : List Address) : (sortedSet addresses).Nodup := by
  have trans : ∀ a b c : Address, (!decide (b.sortKey < a.sortKey)) = true →
      (!decide (c.sortKey < b.sortKey)) = true → (!decide (c.sortKey < a.sortKey)) = true := by
    intro a b c ab bc
    simp only [Bool.not_eq_true', decide_eq_false_iff_not, not_lt] at ab bc ⊢
    exact ab.trans bc
  have total : ∀ a b : Address,
      (!decide (b.sortKey < a.sortKey) || !decide (a.sortKey < b.sortKey)) = true := by
    intro a b
    simpa using le_total a.sortKey b.sortKey
  refine (Text.pairwise_eraseReps ?_ (List.pairwise_mergeSort trans total addresses)).imp And.right
  intro a b ab ba
  -- the keys are ordered by their numbers, and an address is told by its key
  simp only [Bool.not_eq_true', decide_eq_false_iff_not, not_lt] at ab ba
  exact sortKey_injective (ab.antisymm ba)

end Net.Address

/-- The addresses of a report are those that some name in it leads to. -/
theorem Report.mem_addresses {report : Report} {address : Address} :
    address ∈ report.addresses ↔ ∃ location dnsName found,
      (location, Outcome.resolved dnsName found) ∈ report.locations ∧ address ∈ found := by
  simp only [addresses, Net.Address.mem_sortedSet, List.mem_flatMap]
  constructor
  · rintro ⟨⟨location, outcome⟩, entry, inside⟩
    cases outcome with
    | resolved dnsName found => exact ⟨location, dnsName, found, entry, inside⟩
    | unresolved => cases inside
  · rintro ⟨location, dnsName, found, entry, inside⟩
    exact ⟨_, entry, inside⟩

namespace Service

open Time (RetryPolicy)

variable {σ : Type} {env : Environment Service σ} {s s' : σ}
  {events : List Service.Event} {policy : RetryPolicy} {filter : NodeFilter} {request : Request}
  {spec its : BalancerSpec} {location : Location} {ids : List String} {cause : CloudError}

/-! ## What may be asked -/

/-- What is asked once the nodes are listed, where balancers may still be made or not. -/
def onceListed (making : Prop) : Program.Scope Service where
  asks
    | .create .. => making
    | .resolve _ | .sleep _ | .log _ => True
    | .list | .destroy _ => False
  halts := True

variable {making : Prop}

theorem within_note {level : Log.Level} {topic : Log.Topic} {message : String} {ε : Type} :
    (liftM (note level topic message) : Attempt Service ε Unit).run.Within (onceListed making) :=
  Attempt.within_lift (Program.within_perform.mpr trivial)

theorem onceListed_of_looking (query : Service.Query) (asks : looking.asks query) : (onceListed making).asks query := by
  cases query with
  | resolve | sleep | log => trivial
  | list | create | destroy => cases asks

/-- One call is made, and what follows is about the name of the new balancer. Without one the work ends. -/
theorem place_eq {made : Report} {group : NodeGroup} :
    ∃ (message : String) (follow : Except CloudError String → Attempt Service CloudError Report),
      place policy spec made group = (do
        note .debug .balancer message
        let answer ← Attempt.outcome (create group.location spec group.providerIds)
        follow answer) ∧
      (∀ answer, (follow answer).run.Within (onceListed making)) ∧
      ∀ cause, ∃ message, follow (.error cause) = (do
        note .warn .balancer message
        throw (.createAborted group.location.id made cause)) := by
  refine ⟨_, _, rfl, fun answer => ?_, fun cause => ⟨_, rfl⟩⟩
  cases answer with
  | error cause => exact Attempt.within_bind within_note fun _ => trivial
  | ok dnsName =>
    refine Attempt.within_bind (Attempt.within_lift ?_) fun found => ?_
    · exact within_resolveFrom onceListed_of_looking (.inl trivial)
    have reported : ∀ outcome, (do
        note .debug .balancer ("<< created load balancer (" ++ spec.name ++ ") DNS (" ++ dnsName ++ ")")
        return made.insert group.location outcome
        : Attempt Service CloudError Report).run.Within (onceListed making) :=
      fun _ => Attempt.within_bind within_note fun _ => trivial
    cases found with
    | some addresses => exact reported _
    | none => exact Attempt.within_bind within_note fun _ => reported _

theorem within_place {made : Report} {group : NodeGroup} :
    (place policy spec made group).run.Within (onceListed True) := by
  obtain ⟨message, follow, same, within, _⟩ := @place_eq policy spec True made group
  rw [same]
  refine Attempt.within_bind within_note fun _ => ?_
  exact Attempt.within_bind (Program.Within.map (Program.within_perform.mpr trivial)) within

/-! ## What a failed call leads to -/

/-- The failure of a call ends the work at its location. -/
theorem failed_place {made : Report} {group : NodeGroup} {result : Option (Except CloudError Report)}
    (run : (place policy spec made group).run.Runs env s events result s')
    (call : ⟨.create location its ids, .error cause⟩ ∈ events) :
    result = some (.error (.createAborted location.id made cause)) := by
  obtain ⟨message, follow, same, within, stops⟩ := @place_eq policy spec False made group
  rw [same] at run
  obtain ⟨_, _, body, silent⟩ := runs_note_bind run
  rw [← mem_steps rfl, silent, mem_steps rfl] at call
  rcases Attempt.runs_outcome_bind.mp body with ⟨_, answer, _, rest, asked, next, rfl⟩ | ⟨asked, _⟩
  · obtain ⟨_, _, rfl, same⟩ := Program.runs_perform.mp asked
    cases same
    rcases List.mem_cons.mp call with same | later
    · cases same
      obtain ⟨message, same⟩ := stops cause
      rw [same] at next
      obtain ⟨_, _, stop, _⟩ := runs_note_bind next
      exact (Attempt.runs_throw.mp stop).2.1
    · -- there is no second call
      exact ((within answer).asked next later).elim
  · obtain ⟨_, _, _, impossible⟩ := Program.runs_perform.mp asked
    cases impossible

theorem failed_places {groups : List NodeGroup} {made : Report}
    {result : Option (Except CloudError Report)}
    (run : (groups.foldlM (place policy spec) made).run.Runs env s events result s')
    (call : ⟨.create location its ids, .error cause⟩ ∈ events) :
    ∃ created, result = some (.error (.createAborted location.id created cause)) := by
  induction groups generalizing made s events with
  | nil =>
    obtain ⟨rfl, _, _⟩ := Attempt.runs_pure.mp run
    cases call
  | cons group groups ih =>
    rw [List.foldlM_cons] at run
    rcases Attempt.runs_bind.mp run with
      ⟨first, report, between, rest, head, tail, rfl⟩ | ⟨e, head, rfl⟩ | ⟨head, rfl⟩
    · rcases List.mem_append.mp call with early | late
      · -- the work would have ended here
        cases failed_place head early
      · exact ih tail late
    · exact ⟨made, failed_place head call⟩
    · cases failed_place head call

theorem failed_placeReport {result : Option (Except CloudError Report)}
    (run : (placeReport policy filter request).run.Runs env s events result s')
    (call : ⟨.create location its ids, .error cause⟩ ∈ events) :
    ∃ created, result = some (.error (.createAborted location.id created cause)) := by
  rcases placeReport_cases run with ⟨_, _, rfl, _⟩ | ⟨protocol, _, later⟩
  · cases call
  · rcases later with ⟨_, rfl, _⟩ | ⟨nodes, _, rest, rfl, work⟩
    · cases List.mem_singleton.mp call
    · rcases List.mem_cons.mp call with same | later
      · cases same
      · exact failed_places work later

theorem unlisted_placeReport {result : Option (Except CloudError Report)}
    (run : (placeReport policy filter request).run.Runs env s events result s')
    (call : ⟨.list, .error cause⟩ ∈ events) : result = some (.error cause) := by
  rcases placeReport_cases run with ⟨_, _, rfl, _⟩ | ⟨protocol, _, later⟩
  · cases call
  · rcases later with ⟨_, rfl, rfl⟩ | ⟨nodes, _, rest, rfl, work⟩
    · cases List.mem_singleton.mp call
      rfl
    · rcases List.mem_cons.mp call with same | later
      · cases same
      · -- the nodes are not listed again
        exact ((Attempt.within_foldlM (fun _ _ => within_place) _ _).asked work later).elim

/-! ## Both ways -/

/-- The addresses of a report, or the failure of the call that went wrong. -/
def plainly : Except CloudError Report → Except CloudError (List Address)
  | .ok report => .ok report.addresses
  | .error e => .error (plainError e)

theorem run_placeAddresses :
    (placeAddresses policy filter request).run = plainly <$> (placeReport policy filter request).run := by
  -- both steps look at nothing but the result
  change (Report.addresses <$> ExceptT.adapt plainError (placeReport policy filter request)).run = _
  rw [ExceptT.run_map]
  change Except.map Report.addresses <$> Except.mapError plainError <$> (placeReport policy filter request).run = _
  rw [← comp_map]
  congr 1
  funext result
  cases result <;> rfl

theorem runs_placeAddresses {result : Option (Except CloudError (List Address))} :
    (placeAddresses policy filter request).run.Runs env s events result s' ↔
      ∃ reported, (placeReport policy filter request).run.Runs env s events reported s' ∧
        result = reported.map plainly := by
  rw [run_placeAddresses, Program.runs_map]

/-- What the two ways to make balancers return, where these are the questions and answers of both. -/
structure Agree (request : Request) (events : List Service.Event)
    (reported : Option (Except CloudError Report)) (result : Option (Except CloudError (List Address))) :
    Prop where
  halted : result = none ↔ reported = none
  returned : (∃ addresses, result = some (.ok addresses)) ↔ ∃ report, reported = some (.ok report)
  /-- The addresses are those that the names lead to, each once. -/
  union : ∀ addresses report, result = some (.ok addresses) → reported = some (.ok report) →
    addresses.Nodup ∧ ∀ address, address ∈ addresses ↔
      ∃ location dnsName found, (location, Outcome.resolved dnsName found) ∈ report.locations ∧ address ∈ found
  /-- The failure of a call is the failure of the plain way, whatever it is. -/
  failed : ∀ location spec ids cause, ⟨.create location spec ids, .error cause⟩ ∈ events →
    result = some (.error cause) ∧
      ∃ created, reported = some (.error (.createAborted location.id created cause))
  rejected : ∀ e, Protocol.parse request.protocol = .error e →
    result = some (.error e) ∧ reported = some (.error e)
  unlisted : ∀ e, ⟨.list, .error e⟩ ∈ events → e.isAborted = false →
    result = some (.error e) ∧ reported = some (.error e)

theorem plainError_of_plain {e : CloudError} (plain : e.isAborted = false) : plainError e = e := by
  cases e with
  | createAborted => cases plain
  | _ => rfl

theorem agree_of_runs {reported : Option (Except CloudError Report)}
    (run : (placeReport policy filter request).run.Runs env s events reported s') :
    Agree request events reported (reported.map plainly) where
  halted := Option.map_eq_none_iff
  returned := by
    rcases reported with _ | ⟨e | report⟩ <;> simp [plainly]
  union := by
    intro addresses report plain reports
    rw [reports] at plain
    cases plain
    exact ⟨Net.Address.nodup_sortedSet _, fun _ => Report.mem_addresses⟩
  failed := by
    intro location spec ids cause call
    obtain ⟨created, rfl⟩ := failed_placeReport run call
    exact ⟨rfl, created, rfl⟩
  rejected := by
    intro e unknown
    rcases placeReport_cases run with ⟨_, same, _, rfl⟩ | ⟨protocol, known, _⟩
    · rw [unknown] at same
      cases same
      rw [Protocol.parse] at unknown
      split at unknown
      · cases unknown
      · cases unknown
        exact ⟨rfl, rfl⟩
    · rw [unknown] at known
      cases known
  unlisted := by
    intro e call plain
    obtain rfl := unlisted_placeReport run call
    exact ⟨by rw [Option.map_some, plainly, plainError_of_plain plain], rfl⟩

/-- Both ways ask the same in the same order, and what they return agrees. -/
theorem placeAddresses_agrees (policy : RetryPolicy) (filter : NodeFilter) (request : Request)
    (env : Environment Service σ) (s s' : σ) (events : List Service.Event) :
    ((∃ result, (placeAddresses policy filter request).run.Runs env s events result s') ↔
      ∃ reported, (placeReport policy filter request).run.Runs env s events reported s') ∧
    ∀ result reported, (placeAddresses policy filter request).run.Runs env s events result s' →
      (placeReport policy filter request).run.Runs env s events reported s' →
      Agree request events reported result := by
  constructor
  · constructor
    · rintro ⟨result, run⟩
      obtain ⟨reported, same, _⟩ := runs_placeAddresses.mp run
      exact ⟨reported, same⟩
    · rintro ⟨reported, run⟩
      exact ⟨_, runs_placeAddresses.mpr ⟨reported, run, rfl⟩⟩
  · intro result reported plain run
    obtain ⟨others, same, rfl⟩ := runs_placeAddresses.mp plain
    -- the same answers lead to the same report
    obtain rfl := same.result_unique run
    exact agree_of_runs run

theorem placeAddresses_agrees_threeZones :
    ∃ events, (placeAddresses .dns NodeFilter.all ⟨"web", "http", 80, 8080⟩).run.Runs
      (.ofHandler (S := Service) threeZones) () events (some (.error (.api "full"))) () := by
  have call : (⟨.create (.zone "c") ⟨"web", .http, 80, 8080⟩ ["c"], .error (.api "full")⟩ : Service.Event) ∈
      (placeReport .dns NodeFilter.all ⟨"web", "http", 80, 8080⟩).run.trace threeZones () := by
    refine List.mem_cons_of_mem _ ?_
    change _ ∈ ((NodeGroup.byLocation NodeFilter.all (["b", "c", "a", "b"].map nodeIn)).foldlM
      (place .dns ⟨"web", .http, 80, 8080⟩) Report.empty).run.trace threeZones ()
    rw [byLocation_threeZones]
    decide +kernel
  have run := @Program.runs_run Service Unit _ (.ofHandler (S := Service) threeZones) threeZones
    (fun _ _ => rfl) (placeReport .dns NodeFilter.all ⟨"web", "http", 80, 8080⟩).run ()
  obtain ⟨both, agree⟩ := placeAddresses_agrees .dns NodeFilter.all ⟨"web", "http", 80, 8080⟩
    (.ofHandler (S := Service) threeZones) () () _
  obtain ⟨result, plain⟩ := both.mpr ⟨_, run⟩
  obtain ⟨rfl, _⟩ := (agree _ _ plain run).failed _ _ _ _ call
  exact ⟨_, plain⟩

end Service

end CloudBalance
