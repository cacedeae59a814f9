import CloudBalance.Proofs.Balancer.Placement

/-!
# What was made

The balancers that were made, read off what a service was asked and what it answered. Main statement: on
every course that the making of balancers may go, the report holds the balancers that were made.
-/

namespace CloudBalance

/-- Whether the failure is that of making several balancers. -/
def CloudError.isAborted : CloudError → Bool
  | .createAborted .. => true
  | _ => false

namespace Service

open Net (Address Resolution)
open Time (RetryPolicy)

/-- The first addresses that a look-up found before another balancer was asked for. -/
def addressesFound : List Service.Event → Option (List Address)
  | [] => none
  | ⟨.create .., _⟩ :: _ => none
  | ⟨.resolve _, answer⟩ :: rest =>
    match found? answer with
    | some addresses => some addresses
    | none => addressesFound rest
  | _ :: rest => addressesFound rest

/-- What became of a balancer of this name that was just made. -/
def outcomeOf (dnsName : String) (rest : List Service.Event) : Outcome :=
  match addressesFound rest with
  | some addresses => .resolved dnsName addresses
  | none => .unresolved dnsName

/-- Where a call made a balancer, and what became of it. -/
def balancersMade : List Service.Event → List (Location × Outcome)
  | [] => []
  | ⟨.create location _ _, .ok dnsName⟩ :: rest => (location, outcomeOf dnsName rest) :: balancersMade rest
  | _ :: rest => balancersMade rest

/-- What is reported, be it in a failure. -/
def reported : Except CloudError Report → Report
  | .ok made => made
  | .error (.createAborted _ created _) => created
  | .error _ => .empty

/-- The failure of a listing is none of making balancers. `Session.Answers.isPlain` shows that it never is one. -/
def isPlain : Service.Event → Bool
  | ⟨.list, .error e⟩ => !e.isAborted
  | _ => true

/-! ## Reading off -/

theorem addressesFound_steps (events : List Service.Event) :
    addressesFound (steps events) = addressesFound events := by
  induction events with
  | nil => rfl
  | cons event events ih =>
    obtain ⟨query, answer⟩ := event
    cases query with
    | log record => exact ih
    | create => rfl
    | resolve host =>
      change addressesFound (⟨.resolve host, answer⟩ :: steps events) = _
      rw [addressesFound, addressesFound, ih]
    | list => exact ih
    | destroy => exact ih
    | sleep => exact ih

theorem balancersMade_steps (events : List Service.Event) :
    balancersMade (steps events) = balancersMade events := by
  induction events with
  | nil => rfl
  | cons event events ih =>
    obtain ⟨query, answer⟩ := event
    cases query with
    | create location spec ids =>
      cases answer with
      | ok dnsName =>
        change (location, outcomeOf dnsName (steps events)) :: balancersMade (steps events) = _
        rw [ih, outcomeOf, addressesFound_steps]
        rfl
      | error e => exact ih
    | log record => exact ih
    | resolve host => exact ih
    | list => exact ih
    | destroy => exact ih
    | sleep => exact ih

variable {policy : RetryPolicy} {spec : BalancerSpec}

theorem addressesFound_lookups {rest : List Service.Event} (last : addressesFound rest = none)
    (host : String) (attempt : Nat) (answers : List Resolution) :
    addressesFound (lookups policy host attempt answers ++ rest) = answers.findSome? found? := by
  induction answers generalizing attempt with
  | nil => exact last
  | cons answer answers ih =>
    cases answers with
    | nil =>
      change addressesFound (⟨.resolve host, answer⟩ :: rest) = _
      rw [addressesFound, last, List.findSome?_singleton]
      cases found? answer <;> rfl
    | cons next answers =>
      change addressesFound (⟨.resolve host, answer⟩ :: ⟨.sleep _, ()⟩ ::
        (lookups policy host (attempt + 1) (next :: answers) ++ rest)) = _
      rw [addressesFound, List.findSome?_cons, ← ih (attempt + 1)]
      cases found? answer <;> rfl

theorem balancersMade_lookups (rest : List Service.Event) (host : String) (attempt : Nat)
    (answers : List Resolution) :
    balancersMade (lookups policy host attempt answers ++ rest) = balancersMade rest := by
  induction answers generalizing attempt with
  | nil => rfl
  | cons answer answers ih =>
    cases answers with
    | nil => rfl
    | cons next answers => exact ih (attempt + 1)

/-- Between two balancers only the name of the first one is looked up. -/
theorem balancersMade_placings {rest : List Service.Event} (last : addressesFound rest = none)
    (made : List Placing) :
    balancersMade (made.flatMap (·.steps policy spec) ++ rest) =
        (Placing.report made).locations ++ balancersMade rest ∧
      addressesFound (made.flatMap (·.steps policy spec) ++ rest) = none := by
  induction made with
  | nil => exact ⟨rfl, last⟩
  | cons placing made ih =>
    obtain ⟨listed, next⟩ := ih
    rw [List.flatMap_cons, List.append_assoc]
    refine ⟨?_, rfl⟩
    change (placing.group.location, outcomeOf placing.dnsName
        (lookups policy placing.dnsName 1 placing.answers ++ _)) ::
      balancersMade (lookups policy placing.dnsName 1 placing.answers ++ _) = _
    -- the look-ups up to the next call are those of this balancer
    rw [balancersMade_lookups, listed, outcomeOf, addressesFound_lookups next]
    rfl

theorem Course.balancersMade_eq {filter : NodeFilter} {request : Request} {events : List Service.Event}
    {outcome : Except CloudError Report} (course : Course policy filter request events outcome)
    (plain : ∀ event ∈ events, isPlain event) :
    balancersMade events = (reported outcome).locations := by
  rw [← balancersMade_steps]
  cases course with
  | rejected unknown silent =>
    rw [silent]
    rw [Protocol.parse] at unknown
    split at unknown
    · cases unknown
    · cases unknown
      rfl
  | unlisted known asked =>
    rename_i protocol e
    have member : (⟨.list, .error e⟩ : Service.Event) ∈ steps events := by
      rw [asked]
      exact List.mem_singleton_self _
    -- the failure of the listing carries no report
    have solitary := plain _ (List.mem_filter.mp member).1
    rw [asked]
    cases e with
    | createAborted => cases solitary
    | _ => rfl
  | completed known covers tried asked =>
    rw [asked]
    rename_i protocol nodes made
    rw [← List.append_nil (made.flatMap _)]
    exact (balancersMade_placings rfl made).1.trans (List.append_nil _)
  | aborted known covers tried asked =>
    rw [asked]
    exact (balancersMade_placings rfl _).1.trans (List.append_nil _)

/-- Where the nodes lie in zones, balancers are made at locations of different ids. -/
theorem Course.nodup_ids {filter : NodeFilter} {request : Request} {events : List Service.Event}
    {outcome : Except CloudError Report} (course : Course policy filter request events outcome)
    (plain : ∀ event ∈ events, isPlain event)
    (zoned : ∀ nodes, ⟨.list, .ok nodes⟩ ∈ events → ∀ node ∈ nodes, ∃ zone, node.location = .zone zone) :
    ((balancersMade events).map (·.1.id)).Nodup := by
  have apart {nodes : List Node} {groups : List NodeGroup} (covers : NodeGroup.Covers filter nodes groups)
      (listed : ⟨.list, .ok nodes⟩ ∈ steps events) : (groups.map (·.location.id)).Nodup := by
    have zone : ∀ location ∈ groups.map (·.location), location = .zone location.id := by
      intro location member
      obtain ⟨node, among, _, rfl⟩ := (covers.locations location).mp member
      obtain ⟨zone, same⟩ := zoned _ (List.mem_filter.mp listed).1 node among
      rw [same]
      rfl
    rw [← Function.comp_def Location.id, ← List.map_map]
    refine covers.once.map_on fun first one second other same => ?_
    rw [zone first one, same, ← zone second other]
  have made := course.balancersMade_eq plain
  cases course with
  | rejected unknown silent =>
    subst silent
    exact List.nodup_nil
  | unlisted known asked =>
    rw [← balancersMade_steps, asked]
    exact List.nodup_nil
  | completed known covers tried asked =>
    have once := apart covers (by rw [asked]; exact List.mem_cons_self)
    rw [made]
    simpa [reported, Placing.report, Function.comp_def] using once
  | aborted known covers tried asked =>
    have once := apart covers (by rw [asked]; exact List.mem_append_left _ List.mem_cons_self)
    rw [List.map_append] at once
    rw [made]
    simpa [reported, Placing.report, Function.comp_def] using (List.nodup_append.mp once).1

/-! ## Single calls -/

theorem mem_lookups {event : Service.Event} {host : String} {attempt : Nat} {answers : List Resolution}
    (member : event ∈ lookups policy host attempt answers) :
    (∃ answer, event = ⟨.resolve host, answer⟩) ∨ ∃ nanos, event = ⟨.sleep nanos, ()⟩ := by
  induction answers generalizing attempt with
  | nil => cases member
  | cons first answers ih =>
    cases answers with
    | nil => exact .inl ⟨first, List.mem_singleton.mp member⟩
    | cons next answers =>
      rcases List.mem_cons.mp member with same | later
      · exact .inl ⟨first, same⟩
      · rcases List.mem_cons.mp later with same | later
        · exact .inr ⟨_, same⟩
        · exact ih later

theorem create_mem_placings_iff {made : List Placing} {its : BalancerSpec} {location : Location}
    {ids : List String} {answer : Except CloudError String} :
    ⟨.create location its ids, answer⟩ ∈ made.flatMap (·.steps policy spec) ↔
      ∃ placing ∈ made, location = placing.group.location ∧ its = spec ∧ ids = placing.group.providerIds ∧
        answer = .ok placing.dnsName := by
  rw [List.mem_flatMap]
  refine exists_congr fun placing => and_congr_right fun _ => ?_
  constructor
  · intro inside
    rcases List.mem_cons.mp inside with same | later
    · cases same
      exact ⟨rfl, rfl, rfl, rfl⟩
    · rcases mem_lookups later with ⟨_, impossible⟩ | ⟨_, impossible⟩ <;> cases impossible
  · rintro ⟨rfl, rfl, rfl, rfl⟩
    exact List.mem_cons_self

theorem create_mem_placings {made : List Placing} {its : BalancerSpec} {location : Location}
    {ids : List String} {answer : Except CloudError String}
    (member : ⟨.create location its ids, answer⟩ ∈ made.flatMap (·.steps policy spec)) :
    ∃ dnsName, answer = .ok dnsName := by
  obtain ⟨placing, _, _, _, _, same⟩ := create_mem_placings_iff.mp member
  exact ⟨_, same⟩

theorem list_notMem_placings {made : List Placing} {answer : Except CloudError (List Node)} :
    ⟨.list, answer⟩ ∉ made.flatMap (·.steps policy spec) := by
  intro member
  obtain ⟨placing, _, inside⟩ := List.mem_flatMap.mp member
  rcases List.mem_cons.mp inside with same | later
  · cases same
  · rcases mem_lookups later with ⟨_, impossible⟩ | ⟨_, impossible⟩ <;> cases impossible

variable {filter : NodeFilter} {request : Request} {events : List Service.Event}
  {outcome : Except CloudError Report}

theorem mem_steps {event : Service.Event} (step : isStep event) : event ∈ steps events ↔ event ∈ events := by
  rw [steps, List.mem_filter]
  exact and_iff_left step

/-- The failure of a call is how the work ends. -/
theorem Course.failed (course : Course policy filter request events outcome) {location : Location}
    {ids : List String} {cause : CloudError} (call : ⟨.create location spec ids, .error cause⟩ ∈ events) :
    ∃ created, outcome = .error (.createAborted location.id created cause) := by
  have step := (mem_steps rfl).mpr call
  have made : ∀ {made : List Placing} {its : BalancerSpec},
      ⟨.create location spec ids, .error cause⟩ ∉ made.flatMap (·.steps policy its) := by
    intro made its member
    obtain ⟨dnsName, impossible⟩ := create_mem_placings member
    cases impossible
  cases course with
  | rejected unknown silent =>
    rw [silent] at call
    cases call
  | unlisted known asked =>
    rw [asked] at step
    cases List.mem_singleton.mp step
  | completed known covers tried asked =>
    rw [asked] at step
    rcases List.mem_cons.mp step with same | later
    · cases same
    · exact absurd later made
  | aborted known covers tried asked =>
    rw [asked] at step
    rcases List.mem_append.mp step with early | last
    · rcases List.mem_cons.mp early with same | later
      · cases same
      · exact absurd later made
    · cases List.mem_singleton.mp last
      exact ⟨_, rfl⟩

/-- Where the protocol is one, the nodes are listed. -/
theorem Course.lists (course : Course policy filter request events outcome) {protocol : Protocol}
    (known : Protocol.parse request.protocol = .ok protocol) : ∃ answer, ⟨.list, answer⟩ ∈ events := by
  have step : ∀ {answer}, (⟨.list, answer⟩ : Service.Event) ∈ steps events →
      ∃ answer, ⟨.list, answer⟩ ∈ events :=
    fun member => ⟨_, (mem_steps rfl).mp member⟩
  cases course with
  | rejected unknown silent => cases known.symm.trans unknown
  | unlisted _ asked => exact step (by rw [asked]; exact List.mem_cons_self)
  | completed _ covers tried asked => exact step (by rw [asked]; exact List.mem_cons_self)
  | aborted _ covers tried asked => exact step (by rw [asked]; exact List.mem_cons_self)

/-- A balancer is asked for exactly where a node that counts is listed. -/
theorem Course.asks_iff (course : Course policy filter request events outcome) :
    (∃ location its ids answer, ⟨.create location its ids, answer⟩ ∈ events) ↔
      ∃ nodes, ⟨.list, .ok nodes⟩ ∈ events ∧ ∃ node ∈ nodes, filter.Selects node := by
  have create : ∀ {location its ids answer}, (⟨.create location its ids, answer⟩ : Service.Event) ∈ events ↔
      ⟨.create location its ids, answer⟩ ∈ steps events := (mem_steps rfl).symm
  have list : ∀ {nodes}, (⟨.list, .ok nodes⟩ : Service.Event) ∈ events ↔ ⟨.list, .ok nodes⟩ ∈ steps events :=
    (mem_steps rfl).symm
  simp only [create, list]
  cases course with
  | rejected unknown silent => simp [silent]
  | unlisted known asked => simp [asked]
  | @completed _ nodes made known covers tried asked =>
    simp only [asked]
    constructor
    · rintro ⟨location, its, ids, answer, call⟩
      refine ⟨nodes, List.mem_cons_self, covers.ne_nil_iff.mp fun none => ?_⟩
      rw [List.map_eq_nil_iff.mp none] at call
      cases List.mem_singleton.mp call
    · rintro ⟨others, listed, node, inside, selects⟩
      rcases List.mem_cons.mp listed with same | later
      · -- the first group is that of the first call
        cases same
        obtain ⟨group, rest, split⟩ :=
          List.exists_cons_of_ne_nil (covers.ne_nil_iff.mpr ⟨node, inside, selects⟩)
        obtain ⟨placing, more, rfl, _, _⟩ := List.map_eq_cons_iff.mp split
        exact ⟨_, _, _, _, List.mem_cons_of_mem _ List.mem_cons_self⟩
      · exact absurd later list_notMem_placings
  | @aborted _ nodes made group later cause known covers tried asked =>
    simp only [asked]
    constructor
    · intro _
      exact ⟨nodes, List.mem_cons_self, covers.ne_nil_iff.mp (by simp)⟩
    · intro _
      exact ⟨_, _, _, _, List.mem_append_right _ (List.mem_singleton_self _)⟩

/-- Where no call fails, the calls have the ids of the listed nodes that count, location by location. -/
theorem Course.balances_iff (course : Course policy filter request events outcome) {nodes : List Node}
    (listed : ⟨.list, .ok nodes⟩ ∈ events)
    (succeed : ∀ location its ids e, ⟨.create location its ids, .error e⟩ ∉ events) {location : Location}
    {id : String} :
    (∃ its ids answer, ⟨.create location its ids, answer⟩ ∈ events ∧ id ∈ ids) ↔
      ∃ node ∈ nodes, filter.Selects node ∧ node.location = location ∧ node.providerId = id := by
  have create : ∀ {location its ids answer}, (⟨.create location its ids, answer⟩ : Service.Event) ∈ events ↔
      ⟨.create location its ids, answer⟩ ∈ steps events := (mem_steps rfl).symm
  have found := (mem_steps rfl).mpr listed
  simp only [create] at succeed ⊢
  cases course with
  | rejected unknown silent =>
    rw [silent] at found
    cases found
  | unlisted known asked =>
    rw [asked] at found
    cases List.mem_singleton.mp found
  | aborted known covers tried asked =>
    rw [asked] at succeed
    exact absurd (List.mem_append_right _ (List.mem_singleton_self _)) (succeed _ _ _ _)
  | @completed protocol its made known covers tried asked =>
    rw [asked] at found ⊢
    obtain rfl : nodes = its := by
      rcases List.mem_cons.mp found with same | later
      · cases same
        rfl
      · exact absurd later list_notMem_placings
    rw [← covers.mem_iff]
    constructor
    · rintro ⟨spec, ids, answer, call, inside⟩
      rcases List.mem_cons.mp call with same | later
      · cases same
      · obtain ⟨placing, among, rfl, _, rfl, _⟩ := create_mem_placings_iff.mp later
        exact ⟨placing.group, List.mem_map_of_mem among, rfl, inside⟩
    · rintro ⟨group, among, rfl, inside⟩
      obtain ⟨placing, member, rfl⟩ := List.mem_map.mp among
      refine ⟨request.withProtocol protocol, placing.group.providerIds, .ok placing.dnsName, ?_, inside⟩
      exact List.mem_cons_of_mem _ (create_mem_placings_iff.mpr ⟨placing, member, rfl, rfl, rfl, rfl⟩)

end Service

end CloudBalance
