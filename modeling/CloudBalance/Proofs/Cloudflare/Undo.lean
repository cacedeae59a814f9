import CloudBalance.Proofs.Cloudflare.Answering
import CloudBalance.Proofs.Cloudflare.Store

/-!
# Destroying what was made at Cloudflare

What creations and destructions do to the store of the provider. Main statement: a creation adds one balancer and
its pool, and where it is the only one of ours that leads to an address, a destruction there leaves the store as it
was.
-/

namespace CloudBalance.Cloudflare

open Net (Address Resolution)
open Program (Steps)
open World (around calls leadsTo)

variable {account : Account} {address : Address} {resolver : String → Resolution} {store made after : Store}
  {asked events : List World.Event} {result : Option (Except CloudError Bool)} {balancer : Balancer}

/-! ## Destroying -/

theorem carried_served {resources : List Resource} {result : Except CloudflareError Unit}
    (carried : Carried (resources.map fun resource => account.deletion (resource.url account)) asked result)
    (steps : Steps (around (provider account) resolver) store asked after) :
    result = .ok () ∧ after = store.without resources := by
  -- no deletion is refused, so the induction goes to the end of the list
  induction resources generalizing store asked result with
  | nil =>
    cases carried
    exact ⟨rfl, by rw [steps.of_nil, Store.without_nil]⟩
  | cons resource resources ih =>
    cases carried with
    | failed refused =>
      obtain ⟨between, answered, _⟩ := steps.of_cons
      cases (provider_send (.delete resource)).mp answered with
      | delete told =>
        rw [refused] at told
        cases told
    | next _ carried =>
      obtain ⟨between, answered, later⟩ := steps.of_cons
      cases (provider_send (.delete resource)).mp answered
      obtain ⟨done, gone⟩ := ih carried later
      exact ⟨done, by rw [gone, Store.without_without, List.singleton_append]⟩

theorem quiet_listing {answer : Except String ByteArray}
    (answered : (provider account).send store account.listing answer after) : after = store := by
  cases (provider_send .list).mp answered
  rfl

/-- Beside the provider a destruction settles the balancers that answer on the address, with the last calls. -/
theorem settles_served (sendable : account.isSendable = true)
    (run : (destroy account address).run.Runs (around (provider account) resolver) store events result after) :
    ∃ outcome asked, result = some outcome ∧
      (∃ answer trials, calls events = ⟨.send account.listing, answer⟩ :: (List.map Trial.event trials ++ asked)) ∧
      Settles account address (answering resolver address store.balancers) asked outcome ∧
      Steps (around (provider account) resolver) store asked after := by
  obtain ⟨outcome, found, rfl, course⟩ := course_of_runs run
  have steps := World.steps_calls run.steps
  generalize calls events = called at course steps
  cases course with
  | unsent unsendable => simp [sendable] at unsendable
  | unlisted refused =>
    obtain ⟨between, answered, _⟩ := steps.of_cons
    cases (provider_send .list).mp answered with
    | list told =>
      rw [refused] at told
      cases told
  | settled listed tried settles =>
    obtain ⟨between, answered, _⟩ := steps.of_cons
    cases (provider_send .list).mp answered with
    | list told =>
      rw [listed] at told
      cases told
      obtain ⟨settled, looked⟩ := steps_settled (fun _ => quiet_listing) steps
      rw [found_of_looked tried looked] at settles
      exact ⟨outcome, _, rfl, ⟨_, _, rfl⟩, settles, settled⟩

theorem yields_true (sendable : account.isSendable = true)
    (only : answering resolver address store.balancers = [balancer]) :
    (destroy account address).run.Yields (around (provider account) resolver) store (.ok true)
      (store.without balancer.resources) := by
  refine World.yields_around provider_total within_destroy fun events result after run => ?_
  obtain ⟨outcome, asked, rfl, _, settles, steps⟩ := settles_served sendable run
  rw [only] at settles
  cases settles with
  | one carried =>
    rw [deletions_eq] at carried
    obtain ⟨rfl, rfl⟩ := carried_served carried steps
    exact ⟨rfl, rfl⟩
  | many several => simp at several

theorem yields_false (sendable : account.isSendable = true)
    (none : answering resolver address store.balancers = []) :
    (destroy account address).run.Yields (around (provider account) resolver) store (.ok false) store := by
  refine World.yields_around provider_total within_destroy fun events result after run => ?_
  obtain ⟨outcome, asked, rfl, _, settles, steps⟩ := settles_served sendable run
  rw [none] at settles
  cases settles with
  | none => exact ⟨rfl, steps.of_nil⟩
  | many several => simp at several

/-! ## Making -/

variable {location : Location} {spec : BalancerSpec} {ids : List String} {nodes : List Node} {host : String}

theorem Makes.of_ok (makes : Makes account location spec ids nodes asked (.ok host)) :
    account.isSendable = true ∧ ∃ answer reply pool balancer,
      received Pool.ofJson? answer = .ok pool ∧ received Balancer.ofJson? reply = .ok balancer ∧
      host = balancer.name ∧
      asked = [⟨.send (account.newPool (poolFor location spec ids nodes)), answer⟩,
        ⟨.send (account.newBalancer (balancerFor account location spec pool.id)), reply⟩] := by
  generalize same : Except.ok host = outcome at makes
  cases makes with
  | noOrigins | unsent => cases same
  | sent _ sendable posts =>
    refine ⟨sendable, ?_⟩
    cases posts with
    | poolRefused | balancerRefused => cases same
    | made pooled balanced =>
      cases same
      exact ⟨_, _, _, _, pooled, balanced, rfl, rfl⟩

/-- A store to which a balancer and a pool were added, anywhere and under new ids. -/
inductive Adds (balancer : Balancer) (pool : String × NewPool) : Store → Store → Prop where
  | intro {front back : List Balancer} {before behind : List (String × NewPool)}
      (balancers : ∀ other ∈ front ++ back, other.id ≠ balancer.id)
      (pools : ∀ other ∈ before ++ behind, other.1 ≠ pool.1) :
      Adds balancer pool ⟨front ++ back, before ++ behind⟩ ⟨front ++ balancer :: back, before ++ pool :: behind⟩

variable {pool : String × NewPool}

theorem Adds.without (adds : Adds balancer pool store made) :
    made.without [.balancer balancer.id, .pool pool.1] = store := by
  obtain ⟨balancers, pools⟩ := adds
  rename_i front back before behind
  have kept : (front ++ balancer :: back).filter
      (fun other => Resource.balancer other.id ∉ [.balancer balancer.id, .pool pool.1]) = front ++ back := by
    rw [List.filter_append, List.filter_cons_of_neg (by simp), ← List.filter_append]
    exact List.filter_eq_self.mpr fun other member => by simp [balancers other member]
  have left : (before ++ pool :: behind).filter
      (fun other => Resource.pool other.1 ∉ [.balancer balancer.id, .pool pool.1]) = before ++ behind := by
    rw [List.filter_append, List.filter_cons_of_neg (by simp), ← List.filter_append]
    exact List.filter_eq_self.mpr fun other member => by simp [pools other member]
  rw [Store.without, kept, left]

theorem Adds.answering (adds : Adds balancer pool store made) (managed : isManaged balancer = true)
    (reaches : leadsTo address (resolver balancer.name) = true)
    (alone : answering resolver address store.balancers = []) :
    Cloudflare.answering resolver address made.balancers = [balancer] := by
  obtain ⟨_, _⟩ := adds
  simp only [Cloudflare.answering, List.filter_append, List.append_eq_nil_iff] at alone
  simp [Cloudflare.answering, managed, reaches, alone]

/-- Beside the provider there is a creation for any nodes that can be origins. -/
theorem exists_run_create (chosen : (poolFor location spec ids nodes).origins ≠ [])
    (sendable : account.isSendable = true) (store : Store) :
    ∃ events made, (create account (pure nodes) location spec ids).run.Runs (around (provider account) resolver) store
      events (some (.ok (hostname account location spec))) made := by
  obtain ⟨answer, middle, pools⟩ := exists_performs (.makePool (poolFor location spec ids nodes)) store
  obtain ⟨poolId, pooled⟩ := pools.pooled
  obtain ⟨reply, made, balancers⟩ := exists_performs (.makeBalancer (balancerFor account location spec poolId)) middle
  obtain ⟨id, balanced⟩ := balancers.balanced
  have makes : Makes account location spec ids nodes _ _ := .sent chosen sendable (.made pooled balanced)
  obtain ⟨events, run, asked⟩ := exists_run_of_makes makes
  have posted : (provider account).send store (account.newPool (poolFor location spec ids nodes)) answer middle :=
    (provider_send (.makePool _)).mpr pools
  have balance : (provider account).send middle (account.newBalancer (balancerFor account location spec poolId))
      reply made := (provider_send (.makeBalancer _)).mpr balancers
  refine ⟨events, made, World.runs_around run ?_⟩
  rw [asked]
  exact .cons posted (.cons balance (.nil made))

theorem isManaged_at (poolId id : String) :
    isManaged ((balancerFor account location spec poolId).at id) = true := by
  have begins : descriptionOf spec = managedStart ++
      (spec.protocol.text ++ " " ++ toString spec.balancerPort ++ "->" ++ toString spec.instancePort) := by
    simp only [descriptionOf, String.append_assoc]
  rw [isManaged, NewBalancer.at, balancerFor, begins]
  exact Text.hasStart_append _ _

theorem resources_at (poolId id : String) :
    ((balancerFor account location spec poolId).at id).resources = [.balancer id, .pool poolId] := by
  simp [Balancer.resources, NewBalancer.at, balancerFor, Balancer.poolIds]

/-- Beside the provider a creation adds the balancer that it says and its pool. -/
theorem adds_of_create {list : Attempt World CloudError (List Node)}
    (still : ∀ s events result after, list.run.Runs (around (provider account) resolver) s events result after →
      after = s)
    (run : (create account list location spec ids).run.Runs (around (provider account) resolver) store events
      (some (.ok host)) made) :
    account.isSendable = true ∧ ∃ (poolId id : String) (pool : NewPool),
      Adds ((balancerFor account location spec poolId).at id) (poolId, pool) store made ∧
      host = hostname account location spec := by
  obtain ⟨first, listing, between, rest, listed, rfl, ends⟩ := runs_create run
  -- the listing left the store alone, so the rest starts from it
  rw [still _ _ _ _ listed] at ends
  cases listing with
  | error e =>
    obtain ⟨_, _, same⟩ := ends
    cases same
  | ok nodes =>
    obtain ⟨later, makes⟩ := ends
    have steps := World.steps_calls later.steps
    obtain ⟨sendable, answer, reply, pool, balancer, pooled, balanced, rfl, asked⟩ := makes.of_ok
    rw [asked] at steps
    obtain ⟨middle, posted, steps⟩ := steps.of_cons
    obtain ⟨last, balance, steps⟩ := steps.of_cons
    rw [steps.of_nil]
    refine ⟨sendable, pool.id, balancer.id, poolFor location spec ids nodes, ?_⟩
    cases (provider_send (.makePool (poolFor location spec ids nodes))).mp posted with
    | makePool pools told =>
      rw [pooled] at told
      cases told
      cases (provider_send (.makeBalancer _)).mp balance with
      | makeBalancer balancers told =>
        rw [balanced] at told
        cases told
        exact ⟨.intro balancers pools, rfl⟩

/-- Where the new balancer is the only one of ours that leads to an address, a destruction there leaves the store
as it was before the creation. -/
theorem restores {list : Attempt World CloudError (List Node)}
    (still : ∀ s events result after, list.run.Runs (around (provider account) resolver) s events result after →
      after = s)
    (run : (create account list location spec ids).run.Runs (around (provider account) resolver) store events
      (some (.ok host)) made) :
    ∃ created, created ∈ made.balancers ∧ created ∉ store.balancers ∧ created.name = host ∧
      ∀ address, leadsTo address (resolver created.name) = true →
        answering resolver address store.balancers = [] →
        (destroy account address).run.Yields (around (provider account) resolver) made (.ok true) store := by
  obtain ⟨sendable, poolId, id, pool, adds, rfl⟩ := adds_of_create still run
  refine ⟨(balancerFor account location spec poolId).at id, ?_, ?_, rfl, fun address reaches alone => ?_⟩
  · cases adds
    simp
  · cases adds with
    | intro balancers _ => exact fun member => balancers _ member rfl
  · have destroyed := yields_true sendable (adds.answering (isManaged_at poolId id) reaches alone)
    rw [resources_at] at destroyed
    rwa [← adds.without]

end CloudBalance.Cloudflare
