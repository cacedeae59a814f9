import CloudBalance.Proofs.Cloudflare.Store

/-!
# Shared pools at Cloudflare

Several balancers may reference one pool, and a destruction does not ask who else does. Main statement: what is
deleted is one balancer of ours and pools of its own, all of them where the destruction succeeds, so that the
balancers that stay keep their pools where they share none with it.
-/

namespace CloudBalance.Cloudflare

open Net (Address)
open World (calls)

variable {account : Account} {address : Address} {balancers found : List Balancer} {balancer : Balancer}
  {asked events : List World.Event} {outcome : Except CloudError Bool}

/-- A request that deletes the resource is sent. -/
def Deletes (account : Account) (events : List World.Event) (resource : Resource) : Prop :=
  ∃ answer, ⟨.send (account.deletion (resource.url account)), answer⟩ ∈ events

/-- The balancers of a list that stay keep their pools. -/
def Spares (account : Account) (balancers : List Balancer) (events : List World.Event) : Prop :=
  ∀ other ∈ balancers, ¬ Deletes account events (.balancer other.id) →
    ∀ pool ∈ other.poolIds, ¬ Deletes account events (.pool pool)

/-- Of the balancers of a list one of ours is deleted, and then its pools, as far as that goes. -/
structure TakesApart (account : Account) (balancers : List Balancer) (events : List World.Event)
    (outcome : Except CloudError Bool) (balancer : Balancer) : Prop where
  listed : balancer ∈ balancers
  managed : isManaged balancer = true
  first : Deletes account events (.balancer balancer.id)
  only : ∀ resource, Deletes account events resource → resource ∈ balancer.resources
  whole : outcome = .ok true → ∀ resource ∈ balancer.resources, Deletes account events resource

/-! ## What is sent -/

theorem Carried.first_sent {first : Net.HttpRequest} {rest : List Net.HttpRequest}
    {result : Except CloudflareError Unit} (carried : Carried (first :: rest) asked result) :
    ∃ answer, ⟨.send first, answer⟩ ∈ asked := by
  cases carried with
  | failed => exact ⟨_, List.mem_cons_self⟩
  | next => exact ⟨_, List.mem_cons_self⟩

theorem Carried.all_sent {requests : List Net.HttpRequest} {result : Except CloudflareError Unit}
    (carried : Carried requests asked result) (done : result = .ok ()) :
    ∀ request ∈ requests, ∃ answer, ⟨.send request, answer⟩ ∈ asked := by
  induction carried with
  | done => simp
  | failed => cases done
  | next _ _ ih =>
    refine List.forall_mem_cons.mpr ⟨⟨_, List.mem_cons_self⟩, fun request member => ?_⟩
    obtain ⟨answer, sent⟩ := ih done request member
    exact ⟨answer, List.mem_cons_of_mem _ sent⟩

theorem mem_deletions_resource {resource : Resource} :
    account.deletion (resource.url account) ∈ account.deletions balancer ↔ resource ∈ balancer.resources := by
  rw [deletions_eq]
  exact List.mem_map_of_injective deletion_injective

/-- Where something is found, the deletions are those of the balancer that is found alone. -/
theorem Settles.takesApart {result : Except CloudflareError Unit} (listed : balancer ∈ balancers)
    (managed : isManaged balancer = true) (carried : Carried (account.deletions balancer) asked result)
    (same : ∀ resource, Deletes account events resource ↔ Deletes account asked resource) :
    TakesApart account balancers events ((result.map fun _ => true).mapError CloudflareError.toCloudError)
      balancer where
  listed := listed
  managed := managed
  first := (same _).mpr carried.first_sent
  only resource deletes := by
    obtain ⟨answer, sent⟩ := (same resource).mp deletes
    obtain ⟨request, member, sends⟩ := carried.sent _ sent
    cases sends
    exact mem_deletions_resource.mp member
  whole ended resource member := by
    have done : result = .ok () := by
      cases result with
      | ok _ => rfl
      | error e => cases ended
    exact (same resource).mpr (carried.all_sent done _ (mem_deletions_resource.mpr member))

/-- Either nothing is deleted, or a balancer of the list that was received is taken apart. -/
theorem Course.takesApart (course : Course account address asked found outcome)
    (called : calls events = asked) :
    (outcome ≠ .ok true ∧ ∀ resource, ¬ Deletes account events resource) ∨
    ∃ answer balancers balancer, ⟨.send account.listing, answer⟩ ∈ events ∧
      received (Json.toList? Balancer.ofJson?) answer = .ok balancers ∧
      TakesApart account balancers events outcome balancer := by
  have sent : ∀ resource, Deletes account events resource ↔ Deletes account asked resource := by
    intro resource
    refine exists_congr fun answer => ?_
    rw [← called, World.mem_calls]
    exact (and_iff_left trivial).symm
  cases course with
  | unsent =>
    refine .inl ⟨nofun, fun resource deletes => ?_⟩
    obtain ⟨answer, member⟩ := (sent resource).mp deletes
    cases member
  | unlisted =>
    refine .inl ⟨nofun, fun resource deletes => ?_⟩
    obtain ⟨answer, member⟩ := (sent resource).mp deletes
    cases List.mem_singleton.mp member
  | @settled answer balancers trials later outcome listed tried settles =>
    have same : ∀ resource, Deletes account events resource ↔ Deletes account later resource :=
      fun resource => (sent resource).trans (exists_congr fun answer => mem_deletions rfl)
    have idle : later = [] → ∀ resource, ¬ Deletes account events resource := by
      rintro rfl resource deletes
      obtain ⟨answer, member⟩ := (same resource).mp deletes
      cases member
    have among : ∀ balancer ∈ Cloudflare.found address trials,
        balancer ∈ balancers ∧ isManaged balancer = true := fun _ => World.mem_of_chosen tried
    have first : ⟨.send account.listing, answer⟩ ∈ events := by
      have member : ⟨.send account.listing, answer⟩ ∈ calls events := called ▸ List.mem_cons_self
      exact (World.mem_calls.mp member).1
    generalize Cloudflare.found address trials = found at settles among
    cases settles with
    | none => exact .inl ⟨nofun, idle rfl⟩
    | many => exact .inl ⟨nofun, idle rfl⟩
    | @one balancer _ _ carried =>
      obtain ⟨member, managed⟩ := among balancer (List.mem_singleton_self _)
      exact .inr ⟨answer, balancers, balancer, first, listed, Settles.takesApart member managed carried same⟩

theorem takesApart_of_runs {σ : Type} {env : Environment World σ} {before after : σ}
    {result : Option (Except CloudError Bool)}
    (run : (destroy account address).run.Runs env before events result after) :
    ∃ outcome, result = some outcome ∧
      ((outcome ≠ .ok true ∧ ∀ resource, ¬ Deletes account events resource) ∨
      ∃ answer balancers balancer, ⟨.send account.listing, answer⟩ ∈ events ∧
        received (Json.toList? Balancer.ofJson?) answer = .ok balancers ∧
        TakesApart account balancers events outcome balancer) := by
  obtain ⟨outcome, rfl⟩ := within_destroy.returns not_false run
  obtain ⟨found, course⟩ := World.ensured_of_runs ensures_destroy run
  exact ⟨outcome, rfl, course.takesApart rfl⟩

/-! ## A pool that is shared -/

/-- A balancer that is not ours and one that is, with one pool. -/
def sharers : List Balancer :=
  [⟨"a", "a", none, ["c"], none, false⟩, ⟨"b", "b", some "nimbus ", ["c"], none, false⟩]

/-- A provider that has these balancers, whose names lead to one address, and that deletes whatever it is asked
to. -/
def sharing (address : Address) : World.Outside where
  tool _ := .notFound
  send request :=
    match request.method with
    | .get => reply (.ofList Balancer.toJson sharers)
    | _ => reply (.object [("id", .string "")])
  resolve _ := .ok [address]

/-- The surroundings with this provider. -/
def amongSharers (address : Address) : Environment World Unit :=
  .ofHandler (World.reply (sharing address))

theorem run_listBalancers_sharing :
    (listBalancers webAccount).run.run (World.reply (sharing address)) () = (some (.ok sharers), ()) := by
  have listed := received_balancers sharers
  rw [← listed]
  rfl

theorem exists_run_sharing :
    ∃ events after, (destroy webAccount (.v4 203 0 113 9)).run.Runs (amongSharers (.v4 203 0 113 9)) () events
      (some (.ok true)) after := by
  have first : (ExceptT.adapt CloudflareError.toCloudError (listBalancers webAccount)).run.run
      (World.reply (sharing (.v4 203 0 113 9))) () = (some (.ok sharers), ()) := by
    change (Except.mapError CloudflareError.toCloudError <$> (listBalancers webAccount).run).run _ _ = _
    rw [← bind_pure_comp, Program.run_bind, run_listBalancers_sharing]
    rfl
  have ended : ((destroy webAccount (.v4 203 0 113 9)).run.run (World.reply (sharing (.v4 203 0 113 9))) ()).1 =
      some (.ok true) := by
    rw [destroy, ExceptT.run_bind, Program.run_bind, first]
    decide +kernel
  have run := @Program.runs_run World Unit _ (amongSharers (.v4 203 0 113 9))
    (World.reply (sharing (.v4 203 0 113 9))) (fun _ _ => rfl) (destroy webAccount (.v4 203 0 113 9)).run ()
  rw [ended] at run
  exact ⟨_, _, run⟩

theorem resources_of_sharers {events : List World.Event} {after : Unit} {answer : Except String ByteArray}
    {result : Option (Except CloudError Bool)}
    (run : (destroy webAccount address).run.Runs (amongSharers address) () events result after)
    (first : ⟨.send webAccount.listing, answer⟩ ∈ events)
    (listed : received (Json.toList? Balancer.ofJson?) answer = .ok balancers)
    (takes : TakesApart webAccount balancers events outcome balancer) :
    balancer.resources = [.balancer "b", .pool "c"] := by
  obtain ⟨before, between, answered⟩ := run.steps.answered first
  have told : reply (.ofList Balancer.toJson sharers) = answer := congrArg Prod.fst answered
  rw [← told, received_balancers] at listed
  cases listed
  have mine : balancer ∈ sharers.filter isManaged := List.mem_filter.mpr ⟨takes.listed, takes.managed⟩
  have alone : sharers.filter isManaged = [⟨"b", "b", some "nimbus ", ["c"], none, false⟩] := by
    decide +kernel
  rw [alone, List.mem_singleton] at mine
  rw [mine]
  rfl

/-! ## Whose pools are deleted -/

/-- Where the balancer shares no pool with another one, the balancers that stay keep theirs. -/
theorem TakesApart.spares (takes : TakesApart account balancers events outcome balancer)
    (apart : ∀ other ∈ balancers, other.id ≠ balancer.id → ∀ pool ∈ other.poolIds, pool ∉ balancer.poolIds) :
    Spares account balancers events := by
  intro other member stays pool among deletes
  have differs : other.id ≠ balancer.id := by
    intro same
    exact stays (same ▸ takes.first)
  have own := takes.only _ deletes
  exact apart other member differs pool among (by simpa [Balancer.resources] using own)

/-- The pools that a destruction deletes are those of the balancer that it deletes, shared or not, and all of
them where it succeeds. No other balancer is deleted, and those that stay keep their pools where none is shared. -/
theorem deletes_own_pools {σ : Type} {env : Environment World σ} {before after : σ}
    {result : Option (Except CloudError Bool)}
    (run : (destroy account address).run.Runs env before events result after) :
    ∃ outcome, result = some outcome ∧
      ((outcome ≠ .ok true ∧ ∀ resource, ¬ Deletes account events resource) ∨
      ∃ answer balancers balancer, ⟨.send account.listing, answer⟩ ∈ events ∧
        received (Json.toList? Balancer.ofJson?) answer = .ok balancers ∧
        TakesApart account balancers events outcome balancer ∧
        ((∀ other ∈ balancers, other.id ≠ balancer.id → ∀ pool ∈ other.poolIds, pool ∉ balancer.poolIds) →
          Spares account balancers events)) := by
  obtain ⟨outcome, ended, untouched | ⟨answer, balancers, balancer, first, listed, takes⟩⟩ := takesApart_of_runs run
  · exact ⟨outcome, ended, .inl untouched⟩
  · exact ⟨outcome, ended, .inr ⟨answer, balancers, balancer, first, listed, takes, takes.spares⟩⟩

theorem deletes_own_pools_sharers :
    ∃ events after answer balancers balancer,
      (destroy webAccount (.v4 203 0 113 9)).run.Runs (amongSharers (.v4 203 0 113 9)) () events
        (some (.ok true)) after ∧
      received (Json.toList? Balancer.ofJson?) answer = .ok balancers ∧
      TakesApart webAccount balancers events (.ok true) balancer ∧
      balancer.resources = [.balancer "b", .pool "c"] := by
  obtain ⟨events, after, run⟩ := exists_run_sharing
  obtain ⟨outcome, same, untouched | ⟨answer, balancers, balancer, first, listed, takes, _⟩⟩ := deletes_own_pools run
  · cases same
    exact absurd rfl untouched.1
  · cases same
    exact ⟨events, after, answer, balancers, balancer, run, listed, takes,
      resources_of_sharers run first listed takes⟩

/-- The one that is not ours stays and loses its pool. -/
theorem not_spares_sharers :
    ∃ events after, (destroy webAccount (.v4 203 0 113 9)).run.Runs (amongSharers (.v4 203 0 113 9)) () events
        (some (.ok true)) after ∧
      ¬ Spares webAccount sharers events := by
  obtain ⟨events, after, run⟩ := exists_run_sharing
  refine ⟨events, after, run, fun spares => ?_⟩
  obtain ⟨outcome, same, untouched | ⟨answer, balancers, balancer, first, listed, takes⟩⟩ := takesApart_of_runs run
  · cases same
    exact absurd rfl untouched.1
  · cases same
    have resources := resources_of_sharers run first listed takes
    have stays : ¬ Deletes webAccount events (.balancer "a") := by
      intro deletes
      have own := takes.only _ deletes
      simp [resources] at own
    have deleted : Deletes webAccount events (.pool "c") := takes.whole rfl _ (by simp [resources])
    exact spares ⟨"a", "a", none, ["c"], none, false⟩ (by simp [sharers]) stays "c" (by simp [Balancer.poolIds])
      deleted

end CloudBalance.Cloudflare
