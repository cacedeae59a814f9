import CloudBalance.Proofs.Cloudflare.Undo

/-!
# Destroying again at Cloudflare

A destruction that fails on the way has deleted the first of what it was to delete. Main statement: if that is
nothing, another destruction deletes all, but if the balancer is gone, another destruction finds none, and the
pools that are left stay.
-/

namespace CloudBalance.Cloudflare

open Net (Address HttpRequest Resolution)
open Program (Steps)
open World (around calls)

variable {account : Account} {address : Address} {resolver : String → Resolution} {store between after : Store}
  {asked events : List World.Event} {balancer : Balancer} {answer : Except String ByteArray}

/-! ## Failures -/

/-- How an operation may fail. A deletion may have been carried out although its answer says otherwise. -/
inductive Refuses : Operation → Store → Except String ByteArray → Store → Prop where
  | list {store : Store} {answer : Except String ByteArray} {e : CloudflareError}
      (refused : received (Json.toList? Balancer.ofJson?) answer = .error e) : Refuses .list store answer store
  | kept {resource : Resource} {store : Store} {answer : Except String ByteArray} {e : CloudflareError}
      (refused : received deletedOfJson? answer = .error e) : Refuses (.delete resource) store answer store
  | lost {resource : Resource} {store : Store} {answer : Except String ByteArray} {e : CloudflareError}
      (refused : received deletedOfJson? answer = .error e) :
      Refuses (.delete resource) store answer (store.without [resource])

/-- The provider where operations may fail. -/
def faltering (account : Account) : World.Provider Store where
  tool := (provider account).tool
  send store request answer after :=
    (provider account).send store request answer after ∨
      ∃ operation : Operation, request = operation.request account ∧ Refuses operation store answer after

theorem faltering_send (operation : Operation) :
    (faltering account).send store (operation.request account) answer after ↔
      Performs operation store answer after ∨ Refuses operation store answer after := by
  refine or_congr (provider_send operation) ?_
  constructor
  · rintro ⟨other, same, refuses⟩
    rwa [Operation.request_injective same]
  · exact fun refuses => ⟨operation, rfl, refuses⟩

/-- Deletions of which the last one fails have deleted what stands before it, and possibly that, too. -/
theorem carried_faltering {resources : List Resource} {e : CloudflareError}
    (carried : Carried (resources.map fun resource => account.deletion (resource.url account)) asked (.error e))
    (steps : Steps (around (faltering account) resolver) store asked after) :
    ∃ n, (n + 1 = asked.length ∨ n = asked.length) ∧ after = store.without (resources.take n) := by
  -- each deletion that is answered takes one resource; the last one is told from the others by its answer
  induction resources generalizing store asked with
  | nil => cases carried
  | cons resource resources ih =>
    cases carried with
    | failed refused =>
      obtain ⟨last, answered, rest⟩ := steps.of_cons
      rw [rest.of_nil]
      rcases (faltering_send (.delete resource)).mp answered with performs | refuses
      · cases performs with
        | delete told =>
          rw [refused] at told
          cases told
      · cases refuses with
        | kept => exact ⟨0, .inl rfl, by rw [List.take_zero, Store.without_nil]⟩
        | lost => exact ⟨1, .inr rfl, rfl⟩
    | next deleted carried =>
      obtain ⟨middle, answered, rest⟩ := steps.of_cons
      have gone : middle = store.without [resource] := by
        rcases (faltering_send (.delete resource)).mp answered with performs | refuses
        · cases performs
          rfl
        · cases refuses with
          | kept refused =>
            rw [deleted] at refused
            cases refused
          | lost => rfl
      obtain ⟨n, count, same⟩ := ih carried rest
      refine ⟨n + 1, ?_, ?_⟩
      · rw [List.length_cons]
        omega
      · rw [same, gone, Store.without_without, List.singleton_append, List.take_succ_cons]

/-! ## Requests -/

/-- The request that an event is, if it is one. -/
def requestOf : World.Event → Option HttpRequest
  | ⟨.send request, _⟩ => some request
  | _ => none

def requests (events : List World.Event) : List HttpRequest :=
  events.filterMap requestOf

theorem requests_calls (events : List World.Event) : requests (calls events) = requests events := by
  rw [requests, calls, List.filterMap_filter]
  refine congrArg (List.filterMap · events) (funext fun event => ?_)
  obtain ⟨query, answer⟩ := event
  cases query <;> rfl

theorem Carried.length_requests {sent : List HttpRequest} {result : Except CloudflareError Unit}
    (carried : Carried sent asked result) : (requests asked).length = asked.length := by
  induction carried with
  | done | failed => rfl
  | next _ _ ih => exact congrArg (· + 1) ih

theorem requests_lookups (trials : List Trial) : requests (trials.map Trial.event) = [] := by
  rw [requests, List.filterMap_map, List.filterMap_eq_nil_iff]
  exact fun _ _ => rfl

/-- After the list all requests are deletions. -/
theorem requests_settled {trials : List Trial} :
    requests (⟨.send account.listing, answer⟩ :: (trials.map Trial.event ++ asked)) =
      account.listing :: requests asked := by
  change account.listing :: requests (trials.map Trial.event ++ asked) = _
  rw [requests, List.filterMap_append, ← requests, ← requests, requests_lookups, List.nil_append]

/-! ## Trying again -/

theorem quiet_listing_faltering (answered : (faltering account).send store account.listing answer after) :
    after = store := by
  rcases (faltering_send .list).mp answered with performs | refuses
  · cases performs
    rfl
  · cases refuses
    rfl

theorem listed_faltering (answered : (faltering account).send store account.listing answer after)
    {balancers : List Balancer} (listed : received (Json.toList? Balancer.ofJson?) answer = .ok balancers) :
    balancers = store.balancers := by
  rcases (faltering_send .list).mp answered with performs | refuses
  · cases performs with
    | list told =>
      rw [listed] at told
      exact Except.ok.inj told
  · cases refuses with
    | list refused =>
      rw [listed] at refused
      cases refused

/-- A failure leaves the store without the first of what was to be deleted. -/
theorem without_of_failed {e : CloudError} {index : Nat}
    (only : answering resolver address store.balancers = [balancer])
    (sent : (requests events).length = index + 1)
    (failed : (destroy account address).run.Runs (around (faltering account) resolver) store events
      (some (.error e)) between) :
    ∃ n, (n = index - 1 ∨ n = index) ∧ between = store.without (balancer.resources.take n) := by
  obtain ⟨outcome, found, ended, course⟩ := course_of_runs failed
  have steps := World.steps_calls failed.steps
  rw [← requests_calls] at sent
  generalize calls events = asked at course steps sent
  cases course with
  | unsent => cases sent
  | unlisted refused =>
    obtain ⟨last, answered, rest⟩ := steps.of_cons
    rw [rest.of_nil, quiet_listing_faltering answered]
    refine ⟨0, .inl ?_, by rw [List.take_zero, Store.without_nil]⟩
    have first : 1 = index + 1 := sent
    omega
  | settled listed tried settles =>
    obtain ⟨middle, answered, _⟩ := steps.of_cons
    obtain ⟨settled, looked⟩ := steps_settled (fun _ => quiet_listing_faltering) steps
    rw [found_of_looked tried looked, listed_faltering answered listed, only] at settles
    cases settles with
    | many several => simp at several
    | @one _ _ result carried =>
      cases result with
      | ok _ => cases ended
      | error e =>
        rw [requests_settled, List.length_cons, carried.length_requests] at sent
        rw [deletions_eq] at carried
        obtain ⟨n, position, gone⟩ := carried_faltering carried settled
        exact ⟨n, by omega, gone⟩

/-- Nothing is kept of a balancer and its pools. -/
def Store.Clear (store : Store) (balancer : Balancer) : Prop :=
  (∀ other ∈ store.balancers, other.id ≠ balancer.id) ∧ ∀ pool ∈ store.pools, pool.1 ∉ balancer.poolIds

theorem clear_without (store : Store) (balancer : Balancer) :
    (store.without balancer.resources).Clear balancer := by
  constructor
  · intro other member same
    have kept := (List.mem_filter.mp member).2
    simp [Balancer.resources, same] at kept
  · intro pool member among
    have kept := (List.mem_filter.mp member).2
    simp [Balancer.resources, among] at kept

/-- Once the balancer is deleted, none of ours answers. -/
theorem answering_without (only : answering resolver address store.balancers = [balancer]) {n : Nat} (some : 0 < n) :
    answering resolver address (store.without (balancer.resources.take n)).balancers = [] := by
  have gone : .balancer balancer.id ∈ balancer.resources.take n := by
    rw [Balancer.resources, ← Nat.succ_pred_eq_of_pos some, List.take_succ_cons]
    exact List.mem_cons_self
  rw [Store.without, answering_filter, only]
  simp [gone]

/-- What comes of a destruction that fails and of another one then, which is served. The first one has deleted the
balancer and its pools up to the request that failed, or up to the one before it. If that is nothing, the second one
deletes all, and otherwise it finds no balancer and leaves the pools that are left. -/
theorem retries {e : CloudError} {index : Nat} (only : answering resolver address store.balancers = [balancer])
    (sent : (requests events).length = index + 1)
    (failed : (destroy account address).run.Runs (around (faltering account) resolver) store events
      (some (.error e)) between) :
    ∃ n, (n = index - 1 ∨ n = index) ∧ between = store.without (balancer.resources.take n) ∧
      (n = 0 → ∃ after, after.Clear balancer ∧ after = store.without balancer.resources ∧
        (destroy account address).run.Yields (around (provider account) resolver) between (.ok true) after) ∧
      (0 < n →
        (destroy account address).run.Yields (around (provider account) resolver) between (.ok false) between) := by
  -- otherwise nothing would have been sent
  have sendable : account.isSendable = true := by
    by_contra unsendable
    obtain ⟨_, none⟩ := runs_unsendable (by simpa using unsendable) failed
    rw [← requests_calls, none] at sent
    cases sent
  obtain ⟨n, position, rfl⟩ := without_of_failed only sent failed
  refine ⟨n, position, rfl, ?_, ?_⟩
  · rintro rfl
    rw [List.take_zero, Store.without_nil]
    exact ⟨_, clear_without store balancer, rfl, yields_true sendable only⟩
  · exact fun some => yields_false sendable (answering_without only some)

/-! ## A pool that is left -/

def heldBalancer : Balancer :=
  ⟨"b", "web", some "nimbus ", ["p"], none, false⟩

/-- One balancer of ours and its pool. -/
def heldStore : Store :=
  ⟨[heldBalancer], [("p", ⟨"web", "", []⟩)]⟩

def heldAddress : Address :=
  .v4 198 51 100 1

def heldUrl (resource : Resource) : String :=
  resource.url webAccount

/-- What a destruction of the balancer asks. -/
def asksHeld : World.Query → Store → Bool
  | .send ⟨.get, url, token, none⟩, _ => url == webAccount.balancersUrl && token == webAccount.token
  | .send ⟨.delete, url, token, none⟩, _ =>
    (heldBalancer.resources.map heldUrl).contains url && token == webAccount.token
  | .resolve _, _ | .here (.log _), _ => true
  | _, _ => false

/-- The answers of a provider that deletes the balancer but not its pool. -/
def hold : (query : World.Query) → Store → World.Answer query × Store
  | .send ⟨.get, _, _, _⟩, store => (reply (.ofList Balancer.toJson store.balancers), store)
  | .send ⟨_, url, _, _⟩, store =>
    if url = heldUrl (.balancer "b") then (reply (.object [("id", .string "b")]), store.without [.balancer "b"])
    else (.error "timeout", store)
  | .resolve _, store => (.ok [heldAddress], store)
  | .tool _, store => (.notFound, store)
  | .hasTool, store => (true, store)
  | .sleep _, store | .print _, store | .printError _, store => ((), store)
  | .here query, store => ((Local.act query ⟨[], []⟩).1, store)

theorem around_hold (query : World.Query) (store : Store) (asks : asksHeld query store = true) :
    around (faltering webAccount) (fun _ => .ok [heldAddress]) store query (hold query store).1
      (hold query store).2 := by
  cases query with
  | resolve host => exact ⟨rfl, rfl⟩
  | here query =>
    cases query with
    | log record => rfl
    | _ => cases asks
  | send request =>
    obtain ⟨method, url, token, body⟩ := request
    cases body with
    | some body => cases method <;> cases asks
    | none =>
      cases method with
      | post => cases asks
      | get =>
        obtain ⟨rfl, rfl⟩ : url = webAccount.balancersUrl ∧ token = webAccount.token := by
          simpa [asksHeld] using asks
        exact (faltering_send .list).mpr (.inl (.list (received_balancers store.balancers)))
      | delete =>
        obtain ⟨among, rfl⟩ : (url = heldUrl (.balancer "b") ∨ url = heldUrl (.pool "p")) ∧
            token = webAccount.token := by
          simpa [asksHeld, heldBalancer, Balancer.resources, Balancer.poolIds] using asks
        rcases among with rfl | rfl
        -- only the first deletion is carried out
        · rw [hold, if_pos rfl]
          · exact (faltering_send (.delete (.balancer "b"))).mpr (.inl (.delete (received_deleted "b")))
          · simp
        · have apart : heldUrl (.pool "p") ≠ heldUrl (.balancer "b") := by
            decide +kernel
          have refused : received deletedOfJson? (.error "timeout") = .error (.http "timeout") := rfl
          rw [hold, if_neg apart]
          · exact (faltering_send (.delete (.pool "p"))).mpr (.inr (.kept refused))
          · simp
  | _ => cases asks

/-- The balancer is deleted and its pool is not, with which the destruction ends. -/
theorem exists_run_held :
    ∃ events between, (requests events).length = 2 + 1 ∧ between.pools.map (·.1) = ["p"] ∧
      (destroy webAccount heldAddress).run.Runs (around (faltering webAccount) fun _ => .ok [heldAddress]) heldStore
        events (some (.error (CloudflareError.http "timeout").toCloudError)) between := by
  have course : (destroy webAccount heldAddress).run.asksOnly asksHeld hold heldStore = true ∧
      (requests ((destroy webAccount heldAddress).run.trace hold heldStore)).length = 2 + 1 ∧
      ((destroy webAccount heldAddress).run.run hold heldStore).1 =
        some (.error (CloudflareError.http "timeout").toCloudError) ∧
      ((destroy webAccount heldAddress).run.run hold heldStore).2.pools.map (·.1) = ["p"] := by
    decide +kernel
  obtain ⟨asks, sent, failed, left⟩ := course
  have run := Program.runs_asksOnly around_hold _ _ asks
  rw [failed] at run
  exact ⟨_, _, sent, left, run⟩

theorem answering_held : answering (fun _ => .ok [heldAddress]) heldAddress heldStore.balancers = [heldBalancer] := by
  decide +kernel

theorem retries_held :
    ∃ events e between, (requests events).length = 2 + 1 ∧
      answering (fun _ => .ok [heldAddress]) heldAddress heldStore.balancers = [heldBalancer] ∧
      (destroy webAccount heldAddress).run.Runs (around (faltering webAccount) fun _ => .ok [heldAddress]) heldStore
        events (some (.error e)) between ∧
      (destroy webAccount heldAddress).run.Yields (around (provider webAccount) fun _ => .ok [heldAddress]) between
        (.ok false) between := by
  obtain ⟨events, between, sent, _, failed⟩ := exists_run_held
  obtain ⟨n, position, _, _, later⟩ := retries answering_held sent failed
  exact ⟨events, _, between, sent, answering_held, failed, later (by omega)⟩

/-- A destruction may fail so that another one leaves a pool. -/
theorem not_clear_again :
    ∃ events e between, answering (fun _ => .ok [heldAddress]) heldAddress heldStore.balancers = [heldBalancer] ∧
      (destroy webAccount heldAddress).run.Runs (around (faltering webAccount) fun _ => .ok [heldAddress]) heldStore
        events (some (.error e)) between ∧
      ∃ again result after, (destroy webAccount heldAddress).run.Runs
        (around (provider webAccount) fun _ => .ok [heldAddress]) between again (some result) after ∧
        ¬ after.Clear heldBalancer := by
  obtain ⟨events, between, sent, left, failed⟩ := exists_run_held
  obtain ⟨n, position, gone⟩ := without_of_failed answering_held sent failed
  have none : answering (fun _ => .ok [heldAddress]) heldAddress between.balancers = [] := by
    rw [gone]
    exact answering_without answering_held (by omega)
  obtain ⟨again, run⟩ := (yields_false sendable_web none).runs
  refine ⟨events, _, between, answering_held, failed, again, _, _, run, fun clear => ?_⟩
  obtain ⟨pool, member, same⟩ := List.mem_map.mp (left ▸ List.mem_singleton_self "p")
  refine clear.2 pool member ?_
  rw [same]
  decide +kernel

end CloudBalance.Cloudflare
