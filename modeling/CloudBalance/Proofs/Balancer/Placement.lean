import CloudBalance.Balancer.Placement
import CloudBalance.Proofs.Balancer.Names
import CloudBalance.Proofs.Node.Group
import Mathlib.Data.List.Permutation

/-!
# Balancers at all locations, run by run

What is asked while balancers are made, and what comes out. Main statement: the nodes are listed once,
then one balancer after the other is made, one for each location of the selected nodes and for the ids
of exactly these nodes, and between two of them only the name of the first one is looked up. The first
failure ends the work and carries what was made before it.
-/

namespace CloudBalance.Service

open Net (Resolution)
open Time (RetryPolicy)

/-- A balancer that was made: the group that it serves, its name, and the answers when the name was
looked up. -/
structure Placing where
  group : NodeGroup
  dnsName : String
  answers : List Resolution

namespace Placing

/-- The first answer with addresses decides. -/
def outcome (placing : Placing) : Outcome :=
  match placing.answers.findSome? found? with
  | some addresses => .resolved placing.dnsName addresses
  | none => .unresolved placing.dnsName

/-- The call that made the balancer, and the look-ups of its name. -/
def steps (policy : RetryPolicy) (spec : BalancerSpec) (placing : Placing) : List Service.Event :=
  ⟨.create placing.group.location spec placing.group.providerIds, .ok placing.dnsName⟩
    :: lookups policy placing.dnsName 1 placing.answers

/-- One entry for each balancer that was made. -/
def report (made : List Placing) : Report :=
  ⟨made.map fun placing => (placing.group.location, placing.outcome)⟩

theorem report_insert {made : List Placing} {placing : Placing}
    (fresh : placing.group.location ∉ made.map (·.group.location)) :
    (report made).insert placing.group.location placing.outcome = report (made ++ [placing]) := by
  have absent : ¬ (report made).locations.any (·.1 == placing.group.location) := by
    intro present
    obtain ⟨entry, member, same⟩ := List.any_eq_true.mp present
    obtain ⟨earlier, among, rfl⟩ := List.mem_map.mp member
    exact fresh (beq_iff_eq.mp same ▸ List.mem_map.mpr ⟨earlier, among, rfl⟩)
  rw [Report.insert, if_neg absent]
  simp [report]

end Placing

def creation (spec : BalancerSpec) (group : NodeGroup) (answer : Except CloudError String) :
    Service.Event :=
  ⟨.create group.location spec group.providerIds, answer⟩

variable {σ : Type} {env : Environment Service σ} {s s' : σ} {events : List Service.Event}
  {policy : RetryPolicy} {spec : BalancerSpec}

/-! ## One group -/

/-- The balancer of one group is made, and its name is looked up, or the call fails. -/
theorem runs_place {made : Report} {group : NodeGroup} {result : Option (Except CloudError Report)}
    (returns : CanWait policy ∨ result.isSome)
    (run : (place policy spec made group).run.Runs env s events result s') :
    (∃ placing : Placing, placing.group = group ∧ Tries (max 1 policy.maxAttempts) placing.answers ∧
      steps events = placing.steps policy spec ∧
      result = some (.ok (made.insert group.location placing.outcome))) ∨
    ∃ cause, steps events = [creation spec group (.error cause)] ∧
      result = some (.error (.createAborted group.location.id made cause)) := by
  obtain ⟨begun, calls, body, silent⟩ := runs_note_bind run
  rw [silent]
  rcases Attempt.runs_outcome_bind.mp body with ⟨_, answer, _, rest, asked, next, rfl⟩ | ⟨asked, _⟩
  · obtain ⟨_, _, rfl, same⟩ := Program.runs_perform.mp asked
    cases same
    cases answer with
    | error cause =>
      obtain ⟨_, later, stop, silent⟩ := runs_note_bind next
      obtain ⟨rfl, rfl, _⟩ := Attempt.runs_throw.mp stop
      exact .inr ⟨cause, by rw [steps_append, silent]; rfl, rfl⟩
    | ok dnsName =>
      rcases Attempt.runs_lift_bind.mp next with ⟨looks, _, _, rest, looked, last, rfl⟩ | ⟨looked, rfl⟩
      · obtain ⟨answers, tries, seen, same⟩ := runs_resolveWithRetry (.inr rfl) looked
        cases same
        refine .inl ⟨⟨group, dnsName, answers⟩, rfl, tries, ?_⟩
        -- both ways end in a record of the log and the new report
        have finished : ∀ {outcome : Outcome} {begun : σ} {rest : List Service.Event},
            (note .debug .balancer ("<< created load balancer (" ++ spec.name ++ ") DNS (" ++ dnsName ++ ")")
              >>= fun _ => pure (made.insert group.location outcome)
              : Attempt Service CloudError Report).run.Runs env begun rest result s' →
            steps rest = [] ∧ result = some (.ok (made.insert group.location outcome)) := by
          intro outcome begun rest run
          obtain ⟨_, later, stop, silent⟩ := runs_note_bind run
          obtain ⟨rfl, rfl, _⟩ := Attempt.runs_pure.mp stop
          exact ⟨silent, rfl⟩
        cases found : answers.findSome? found? with
        | some addresses =>
          rw [found] at last
          obtain ⟨silent, rfl⟩ := finished last
          refine ⟨?_, by simp only [Placing.outcome, found]⟩
          rw [steps_append, steps_append, seen, silent, List.append_nil]
          rfl
        | none =>
          rw [found] at last
          obtain ⟨_, later, last, unsaid⟩ := runs_note_bind last
          obtain ⟨silent, rfl⟩ := finished last
          refine ⟨?_, by simp only [Placing.outcome, found]⟩
          rw [steps_append, steps_append, seen, unsaid, silent, List.append_nil]
          rfl
      · obtain ⟨_, _, _, impossible⟩ :=
          runs_resolveWithRetry (returns.imp_right fun returned => returned) looked
        cases impossible
  · obtain ⟨_, _, _, impossible⟩ := Program.runs_perform.mp asked
    cases impossible

/-! ## All groups -/

theorem runs_places {made : List Placing} {groups : List NodeGroup}
    {result : Option (Except CloudError Report)} (returns : CanWait policy ∨ result.isSome)
    (once : (made.map (·.group) ++ groups).map (·.location) |>.Nodup)
    (run : (groups.foldlM (place policy spec) (Placing.report made)).run.Runs env s events result s') :
    ∃ placed : List Placing, (∀ placing ∈ placed, Tries (max 1 policy.maxAttempts) placing.answers) ∧
      ((groups = placed.map (·.group) ∧ steps events = placed.flatMap (·.steps policy spec) ∧
        result = some (.ok (Placing.report (made ++ placed)))) ∨
      ∃ group later cause, groups = placed.map (·.group) ++ group :: later ∧
        steps events = placed.flatMap (·.steps policy spec) ++ [creation spec group (.error cause)] ∧
        result = some (.error
          (.createAborted group.location.id (Placing.report (made ++ placed)) cause))) := by
  -- the report grows from the left; that no location comes twice makes every entry of it a new one
  induction groups generalizing made s events with
  | nil =>
    obtain ⟨rfl, rfl, _⟩ := Attempt.runs_pure.mp run
    exact ⟨[], by simp, .inl ⟨rfl, rfl, by rw [List.append_nil]⟩⟩
  | cons group groups ih =>
    rw [List.foldlM_cons] at run
    rcases Attempt.runs_bind.mp run with
      ⟨first, report, between, rest, head, tail, rfl⟩ | ⟨e, head, rfl⟩ | ⟨head, rfl⟩
    · rcases runs_place (.inr rfl) head with ⟨placing, rfl, tried, called, same⟩ | ⟨_, _, impossible⟩
      · cases same
        have fresh : placing.group.location ∉ made.map (·.group.location) := by
          rw [List.map_append, List.map_map] at once
          exact fun member => (List.nodup_append.mp once).2.2 _ member _ List.mem_cons_self rfl
        rw [Placing.report_insert fresh] at tail
        obtain ⟨placed, tries, outcome⟩ := ih (by simpa using once) tail
        refine ⟨placing :: placed, List.forall_mem_cons.mpr ⟨tried, tries⟩, ?_⟩
        rw [List.append_assoc, List.singleton_append] at outcome
        rw [steps_append, called]
        rcases outcome with ⟨rfl, calls, rfl⟩ | ⟨group, later, cause, rfl, calls, rfl⟩
        · exact .inl ⟨rfl, by rw [calls]; rfl, rfl⟩
        · exact .inr ⟨group, later, cause, rfl, by rw [calls]; simp, rfl⟩
      · cases impossible
    · -- the call fails, and the groups after it are left alone
      rcases runs_place (.inr rfl) head with ⟨_, _, _, _, impossible⟩ | ⟨cause, called, same⟩
      · cases impossible
      · cases same
        exact ⟨[], by simp, .inr ⟨group, groups, cause, rfl, called, by rw [List.append_nil]⟩⟩
    · rcases runs_place (returns.imp_right fun returned => by cases returned) head with
        ⟨_, _, _, _, impossible⟩ | ⟨_, _, impossible⟩
      · cases impossible
      · cases impossible

/-! ## The whole work -/

/-- What is asked for, with the protocol understood. -/
def Request.withProtocol (request : Request) (protocol : Protocol) : BalancerSpec :=
  ⟨request.name, protocol, request.balancerPort, request.instancePort⟩

/-- How the making of balancers may go, and what comes of it: what is asked up to the end, the log left
out, and the outcome. -/
inductive Course (policy : RetryPolicy) (filter : NodeFilter) (request : Request)
    (events : List Service.Event) : Except CloudError Report → Prop where
  /-- The protocol is none, and nothing is asked at all. -/
  | rejected {e : CloudError} (unknown : Protocol.parse request.protocol = .error e)
      (silent : events = []) : Course policy filter request events (.error e)
  /-- The nodes cannot be listed. -/
  | unlisted {protocol : Protocol} {e : CloudError}
      (known : Protocol.parse request.protocol = .ok protocol)
      (asked : steps events = [⟨.list, .error e⟩]) : Course policy filter request events (.error e)
  /-- A balancer is made for each group. -/
  | completed {protocol : Protocol} {nodes : List Node} {made : List Placing}
      (known : Protocol.parse request.protocol = .ok protocol)
      (covers : NodeGroup.Covers filter nodes (made.map (·.group)))
      (tried : ∀ placing ∈ made, Tries (max 1 policy.maxAttempts) placing.answers)
      (asked : steps events =
        ⟨.list, .ok nodes⟩ :: made.flatMap (·.steps policy (request.withProtocol protocol))) :
      Course policy filter request events (.ok (Placing.report made))
  /-- A call fails after some balancers are made, and the groups after that one are left alone. -/
  | aborted {protocol : Protocol} {nodes : List Node} {made : List Placing} {group : NodeGroup}
      {later : List NodeGroup} {cause : CloudError}
      (known : Protocol.parse request.protocol = .ok protocol)
      (covers : NodeGroup.Covers filter nodes (made.map (·.group) ++ group :: later))
      (tried : ∀ placing ∈ made, Tries (max 1 policy.maxAttempts) placing.answers)
      (asked : steps events =
        ⟨.list, .ok nodes⟩ :: made.flatMap (·.steps policy (request.withProtocol protocol)) ++
          [creation (request.withProtocol protocol) group (.error cause)]) :
      Course policy filter request events
        (.error (.createAborted group.location.id (Placing.report made) cause))

/-- Either the protocol is none, or the nodes cannot be listed, or a balancer is to be made for each group. -/
theorem placeReport_cases {filter : NodeFilter} {request : Request}
    {result : Option (Except CloudError Report)}
    (run : (placeReport policy filter request).run.Runs env s events result s') :
    (∃ e, Protocol.parse request.protocol = .error e ∧ events = [] ∧ result = some (.error e)) ∨
    (∃ protocol, Protocol.parse request.protocol = .ok protocol ∧
      ((∃ e, events = [⟨.list, .error e⟩] ∧ result = some (.error e)) ∨
      ∃ nodes between rest, events = ⟨.list, .ok nodes⟩ :: rest ∧
        ((NodeGroup.byLocation filter nodes).foldlM (place policy (request.withProtocol protocol))
          Report.empty).run.Runs env between rest result s')) := by
  unfold placeReport at run
  cases known : Protocol.parse request.protocol with
  | error e =>
    rw [known] at run
    obtain ⟨rfl, rfl, _⟩ := Attempt.runs_throw.mp run
    exact .inl ⟨e, rfl, rfl, rfl⟩
  | ok protocol =>
    rw [known] at run
    replace run : (list >>= fun nodes => (NodeGroup.byLocation filter nodes).foldlM
        (place policy (request.withProtocol protocol)) Report.empty
        : Attempt Service CloudError Report).run.Runs env s events result s' := run
    refine .inr ⟨protocol, rfl, ?_⟩
    rcases Attempt.runs_bind.mp run with
      ⟨first, nodes, _, rest, head, tail, rfl⟩ | ⟨e, head, rfl⟩ | ⟨head, _⟩
    · obtain ⟨_, _, rfl, same⟩ := Program.runs_perform.mp head
      cases same
      exact .inr ⟨nodes, _, rest, rfl, tail⟩
    · obtain ⟨_, _, rfl, same⟩ := Program.runs_perform.mp head
      cases same
      exact .inl ⟨e, rfl, rfl⟩
    · obtain ⟨_, _, _, impossible⟩ := Program.runs_perform.mp head
      cases impossible

theorem course_of_runs {filter : NodeFilter} {request : Request}
    {result : Option (Except CloudError Report)} (returns : CanWait policy ∨ result.isSome)
    (run : (placeReport policy filter request).run.Runs env s events result s') :
    ∃ outcome, result = some outcome ∧ Course policy filter request events outcome := by
  rcases placeReport_cases run with ⟨e, unknown, rfl, rfl⟩ | ⟨protocol, known, later⟩
  · exact ⟨_, rfl, .rejected unknown rfl⟩
  · rcases later with ⟨e, rfl, rfl⟩ | ⟨nodes, _, rest, rfl, work⟩
    · exact ⟨_, rfl, .unlisted known rfl⟩
    · have covers := NodeGroup.byLocation_covers filter nodes
      have listed : steps (⟨.list, .ok nodes⟩ :: rest) = ⟨.list, .ok nodes⟩ :: steps rest := rfl
      have once : (([] : List Placing).map (·.group) ++ NodeGroup.byLocation filter nodes).map (·.location)
          |>.Nodup := by simpa using covers.once
      obtain ⟨made, tried, outcome⟩ := runs_places returns once work
      rcases outcome with ⟨all, asked, rfl⟩ | ⟨group, later, cause, split, asked, rfl⟩
      · rw [all] at covers
        exact ⟨_, rfl, .completed known covers tried (by rw [listed, asked]; rfl)⟩
      · rw [split] at covers
        exact ⟨_, rfl, .aborted known covers tried (by rw [listed, asked]; rfl)⟩

/-- Whatever the nodes, the provider and the resolver, every run goes one of these courses. -/
theorem runs_placeReport {filter : NodeFilter} {request : Request}
    {result : Option (Except CloudError Report)} (waits : CanWait policy)
    (run : (placeReport policy filter request).run.Runs env s events result s') :
    ∃ outcome, result = some outcome ∧ Course policy filter request events outcome :=
  course_of_runs (.inl waits) run

/-- A node in a zone. -/
def nodeIn (zone : String) : Node :=
  ⟨"node-" ++ zone, zone, zone, none, [], .zone zone, .running, [], []⟩

/-- A provider with nodes in three zones, of which the last one takes no balancer, and a resolver that
knows the name of the first one alone. -/
def threeZones : (query : Service.Query) → Unit → Service.Answer query × Unit
  | .list, _ => (.ok (["b", "c", "a", "b"].map nodeIn), ())
  | .create location _ _, _ =>
    (if location.id = "c" then .error (.api "full") else .ok (location.id ++ ".example.com"), ())
  | .destroy _, _ => (.ok false, ())
  | .resolve host, _ => (if host = "a.example.com" then .ok [.v4 203 0 113 9] else .ok [], ())
  | .sleep _, _ => ((), ())
  | .log _, _ => ((), ())

theorem byLocation_threeZones :
    NodeGroup.byLocation NodeFilter.all (["b", "c", "a", "b"].map nodeIn) =
      [⟨.zone "a", ["a"]⟩, ⟨.zone "b", ["b"]⟩, ⟨.zone "c", ["c"]⟩] := by
  cbv

theorem course_threeZones :
    Course .dns NodeFilter.all ⟨"web", "http", 80, 8080⟩
      ((placeReport .dns NodeFilter.all ⟨"web", "http", 80, 8080⟩).run.trace threeZones ())
      (.error (.createAborted "c"
        ⟨[(.zone "a", .resolved "a.example.com" [.v4 203 0 113 9]),
          (.zone "b", .unresolved "b.example.com")]⟩ (.api "full"))) := by
  have ends : ((placeReport .dns NodeFilter.all ⟨"web", "http", 80, 8080⟩).run.run threeZones ()).1 =
      some (.error (.createAborted "c"
        ⟨[(.zone "a", .resolved "a.example.com" [.v4 203 0 113 9]),
          (.zone "b", .unresolved "b.example.com")]⟩ (.api "full"))) := by
    change (((NodeGroup.byLocation NodeFilter.all (["b", "c", "a", "b"].map nodeIn)).foldlM
      (place .dns ⟨"web", .http, 80, 8080⟩) Report.empty).run.run threeZones ()).1 = _
    rw [byLocation_threeZones]
    decide +kernel
  have run := @Program.runs_run Service Unit _ (.ofHandler (S := Service) threeZones) threeZones
    (fun _ _ => rfl) (placeReport .dns NodeFilter.all ⟨"web", "http", 80, 8080⟩).run ()
  rw [ends] at run
  obtain ⟨_, same, course⟩ := runs_placeReport canWait_dns run
  cases same
  exact course

end CloudBalance.Service
