import CloudBalance.Proofs.Cloudflare.Retry
import CloudBalance.Proofs.Cloudflare.Sharing
import Mathlib.Data.List.Duplicate

/-!
# The pools of a balancer

The pools that are listed for a balancer are its default pools as they stand, and then its fallback pool unless it is
one of them. Main statement: these are all pools that it references, each once and in the order in which they are
referenced first, exactly if no default pool is repeated; a destruction deletes a pool twice only where one is.
-/

namespace CloudBalance.Cloudflare

open List (Duplicate)
open Net (Address HttpRequest Resolution)
open World (around)

variable {account : Account} {address : Address} {balancers found : List Balancer} {balancer : Balancer}
  {asked events : List World.Event} {outcome : Except CloudError Bool} {id : String} {ids all : List String}

/-! ## Pools that are listed -/

/-- The ids of pools that the balancer refers to, as they stand in it. -/
def Balancer.references (balancer : Balancer) : List String :=
  balancer.defaultPools ++ balancer.fallbackPool.toList

/-- Some ids are those of a list, each once and in the order in which they occur there first. -/
structure FirstOccurrences (ids all : List String) : Prop where
  same : ∀ id, id ∈ ids ↔ id ∈ all
  ascending : ids.Pairwise fun first second => all.idxOf first < all.idxOf second

theorem FirstOccurrences.nodup (occur : FirstOccurrences ids all) : ids.Nodup := by
  refine occur.ascending.imp fun less same => ?_
  rw [same] at less
  exact Nat.lt_irrefl _ less

/-- A list without repetitions with which another one begins occurs there in its own order. -/
theorem pairwise_idxOf {rest : List String} (once : ids.Nodup) :
    ids.Pairwise fun first second => (ids ++ rest).idxOf first < (ids ++ rest).idxOf second := by
  rw [List.pairwise_iff_getElem]
  intro i j first second less
  rw [List.idxOf_append_of_mem (List.getElem_mem first), List.idxOf_append_of_mem (List.getElem_mem second),
    once.idxOf_getElem i first, once.idxOf_getElem j second]
  exact less

namespace Balancer

/-- The fallback pool is listed only where it is none of the others. -/
theorem poolIds_eq (balancer : Balancer) :
    balancer.poolIds = balancer.defaultPools ++ balancer.fallbackPool.toList.filter (· ∉ balancer.defaultPools) := by
  rw [poolIds]
  cases balancer.fallbackPool with
  | none => simp
  | some fallback =>
    by_cases listed : fallback ∈ balancer.defaultPools
    · simp [listed]
    · simp [listed]

theorem mem_poolIds : id ∈ balancer.poolIds ↔ id ∈ balancer.references := by
  rw [poolIds_eq, references, List.mem_append, List.mem_append, List.mem_filter, decide_eq_true_eq]
  tauto

theorem exists_references_eq (balancer : Balancer) : ∃ rest, balancer.references = balancer.poolIds ++ rest := by
  refine ⟨balancer.fallbackPool.toList.filter (· ∈ balancer.defaultPools), ?_⟩
  rw [poolIds_eq, references, List.append_assoc]
  cases balancer.fallbackPool with
  | none => rfl
  | some fallback =>
    by_cases listed : fallback ∈ balancer.defaultPools
    · simp [listed]
    · simp [listed]

theorem duplicate_poolIds : Duplicate id balancer.poolIds ↔ Duplicate id balancer.defaultPools := by
  -- behind the default pools stands at most one more, which is none of them
  have short : (balancer.fallbackPool.toList.filter (· ∉ balancer.defaultPools)).count id ≤ 1 := by
    refine (List.count_le_length.trans (List.length_filter_le _ _)).trans ?_
    cases balancer.fallbackPool <;> simp
  rw [List.duplicate_iff_two_le_count, List.duplicate_iff_two_le_count, poolIds_eq, List.count_append]
  by_cases listed : id ∈ balancer.defaultPools
  · have none : (balancer.fallbackPool.toList.filter (· ∉ balancer.defaultPools)).count id = 0 :=
      List.count_eq_zero.mpr fun member => absurd listed (by simpa using (List.mem_filter.mp member).2)
    rw [none, Nat.add_zero]
  · rw [List.count_eq_zero.mpr listed]
    omega

theorem nodup_poolIds : balancer.poolIds.Nodup ↔ balancer.defaultPools.Nodup := by
  rw [List.nodup_iff_forall_not_duplicate, List.nodup_iff_forall_not_duplicate]
  exact forall_congr' fun id => not_congr duplicate_poolIds

theorem firstOccurrences_poolIds :
    FirstOccurrences balancer.poolIds balancer.references ↔ balancer.defaultPools.Nodup := by
  rw [← nodup_poolIds]
  constructor
  · exact FirstOccurrences.nodup
  · intro once
    -- all that is left out stands behind what is listed, so positions there are positions among the references
    obtain ⟨rest, whole⟩ := balancer.exists_references_eq
    refine ⟨fun id => mem_poolIds, ?_⟩
    rw [whole]
    exact pairwise_idxOf once

end Balancer

/-! ## Pools that are deleted -/

/-- Two requests are sent to delete the pool. -/
def DeletesTwice (account : Account) (events : List World.Event) (id : String) : Prop :=
  Duplicate (account.deletion ((Resource.pool id).url account)) (requests events)

theorem duplicate_map {α β : Type} {f : α → β} (injective : Function.Injective f) {a : α} {items : List α} :
    Duplicate (f a) (items.map f) ↔ Duplicate a items := by
  induction items with
  | nil => simp [List.not_duplicate_nil]
  | cons item items ih =>
    rw [List.map_cons, List.duplicate_cons_iff, List.duplicate_cons_iff, ih, injective.eq_iff,
      List.mem_map_of_injective injective]

/-- What is sent is the first of what was to be sent, and all of it where that succeeds. -/
theorem Carried.sent_prefix {planned : List HttpRequest} {result : Except CloudflareError Unit}
    (carried : Carried planned asked result) :
    requests asked <+: planned ∧ (result = .ok () → requests asked = planned) := by
  induction carried with
  | done => exact ⟨List.prefix_refl _, fun _ => rfl⟩
  | failed => exact ⟨List.prefix_cons_inj _ |>.mpr List.nil_prefix, nofun⟩
  | next _ _ ih =>
    obtain ⟨begun, whole⟩ := ih
    exact ⟨(List.prefix_cons_inj _).mpr begun, fun done => congrArg (_ :: ·) (whole done)⟩

theorem duplicate_deletions :
    Duplicate (account.deletion ((Resource.pool id).url account)) (account.deletions balancer) ↔
      Duplicate id balancer.defaultPools := by
  have pools : Function.Injective Resource.pool := fun _ _ => Resource.pool.inj
  rw [deletions_eq, duplicate_map deletion_injective (a := Resource.pool id), Balancer.resources,
    List.duplicate_cons_iff_of_ne (by simp), duplicate_map pools, Balancer.duplicate_poolIds]

/-- After the list the first of the deletions of a balancer are requested, all of them where the destruction
succeeds. -/
structure Undoes (account : Account) (balancers : List Balancer) (requested : List HttpRequest)
    (outcome : Except CloudError Bool) (balancer : Balancer) : Prop where
  listed : balancer ∈ balancers
  managed : isManaged balancer = true
  begun : ∃ sent, requested = account.listing :: sent ∧ sent <+: account.deletions balancer ∧
    (outcome = .ok true → sent = account.deletions balancer)

theorem Undoes.deletesTwice (undoes : Undoes account balancers (requests events) outcome balancer) :
    (DeletesTwice account events id → Duplicate id balancer.defaultPools) ∧
    (outcome = .ok true → (DeletesTwice account events id ↔ Duplicate id balancer.defaultPools)) := by
  obtain ⟨sent, whole, begun, all⟩ := undoes.begun
  have apart : account.deletion ((Resource.pool id).url account) ≠ account.listing :=
    fun same => absurd (congrArg HttpRequest.method same) (by simp [Account.deletion, Account.listing])
  rw [DeletesTwice, whole, List.duplicate_cons_iff_of_ne apart]
  refine ⟨fun twice => duplicate_deletions.mp (twice.mono_sublist begun.sublist), fun done => ?_⟩
  rw [all done, duplicate_deletions]

/-- At most the list is requested, or a balancer of the list that was received is undone. -/
theorem Course.undoes (course : Course account address asked found outcome) :
    (outcome ≠ .ok true ∧ requests asked <+: [account.listing]) ∨
    ∃ answer balancers balancer, ⟨.send account.listing, answer⟩ ∈ asked ∧
      received (Json.toList? Balancer.ofJson?) answer = .ok balancers ∧
      Undoes account balancers (requests asked) outcome balancer := by
  cases course with
  | unsent => exact .inl ⟨nofun, List.nil_prefix⟩
  | unlisted => exact .inl ⟨nofun, List.prefix_refl _⟩
  | @settled answer balancers trials later outcome listed tried settles =>
    rw [requests_settled]
    have among : ∀ balancer ∈ Cloudflare.found address trials,
        balancer ∈ balancers ∧ isManaged balancer = true := fun _ => World.mem_of_chosen tried
    generalize Cloudflare.found address trials = found at settles among
    cases settles with
    | none => exact .inl ⟨nofun, List.prefix_refl _⟩
    | many => exact .inl ⟨nofun, List.prefix_refl _⟩
    | @one balancer _ result carried =>
      obtain ⟨member, managed⟩ := among balancer (List.mem_singleton_self _)
      obtain ⟨begun, whole⟩ := carried.sent_prefix
      refine .inr ⟨answer, balancers, balancer, List.mem_cons_self, listed, member, managed, _, rfl, begun, ?_⟩
      intro ended
      cases result with
      | ok _ => exact whole rfl
      | error e => cases ended

theorem undoes_of_runs {σ : Type} {env : Environment World σ} {before after : σ}
    {result : Option (Except CloudError Bool)}
    (run : (destroy account address).run.Runs env before events result after) :
    ∃ outcome, result = some outcome ∧
      ((outcome ≠ .ok true ∧ requests events <+: [account.listing]) ∨
      ∃ answer balancers balancer, ⟨.send account.listing, answer⟩ ∈ events ∧
        received (Json.toList? Balancer.ofJson?) answer = .ok balancers ∧
        Undoes account balancers (requests events) outcome balancer) := by
  obtain ⟨outcome, rfl⟩ := within_destroy.returns not_false run
  obtain ⟨found, course⟩ := World.ensured_of_runs ensures_destroy run
  have either := course.undoes
  rw [requests_calls] at either
  refine ⟨outcome, rfl, either.imp_right ?_⟩
  rintro ⟨answer, balancers, balancer, first, told⟩
  exact ⟨answer, balancers, balancer, (World.mem_calls.mp first).1, told⟩

/-- Beside the provider all deletions of the balancer that answers are requested. -/
theorem requests_served {resolver : String → Resolution} {store after : Store}
    (sendable : account.isSendable = true) (only : answering resolver address store.balancers = [balancer])
    {result : Option (Except CloudError Bool)}
    (run : (destroy account address).run.Runs (around (provider account) resolver) store events result after) :
    requests events = account.listing :: account.deletions balancer := by
  obtain ⟨outcome, asked, rfl, ⟨answer, trials, called⟩, settles, steps⟩ := settles_served sendable run
  rw [← requests_calls, called, requests_settled]
  rw [only] at settles
  cases settles with
  | one carried =>
    rw [carried.sent_prefix.2]
    rw [deletions_eq] at carried
    exact (carried_served carried steps).1
  | many several => simp at several

/-! ## Pools that are repeated -/

/-- The ids of the pools that are listed are those that the balancer refers to, each once and in the order of their
first occurrence, exactly if it has no default pool twice. A destruction requests the deletion of a pool twice only
where the balancer that it deletes has it twice among its default pools, and always there if it succeeds. -/
theorem pools_once_iff (account : Account) (address : Address) :
    (∀ balancer : Balancer, (∀ id, id ∈ balancer.poolIds ↔ id ∈ balancer.references) ∧
      (FirstOccurrences balancer.poolIds balancer.references ↔ balancer.defaultPools.Nodup)) ∧
    ∀ {σ : Type} {env : Environment World σ} {before after : σ} {events : List World.Event}
      {result : Option (Except CloudError Bool)},
      (destroy account address).run.Runs env before events result after →
      ∃ outcome, result = some outcome ∧
        ((outcome ≠ .ok true ∧ ∀ id, ¬ DeletesTwice account events id) ∨
        ∃ answer balancers balancer, ⟨.send account.listing, answer⟩ ∈ events ∧
          received (Json.toList? Balancer.ofJson?) answer = .ok balancers ∧
          Undoes account balancers (requests events) outcome balancer ∧
          ∀ id, (DeletesTwice account events id → Duplicate id balancer.defaultPools) ∧
            (outcome = .ok true → (DeletesTwice account events id ↔ Duplicate id balancer.defaultPools))) := by
  refine ⟨fun balancer => ⟨fun id => Balancer.mem_poolIds, Balancer.firstOccurrences_poolIds⟩, ?_⟩
  intro σ env before after events result run
  obtain ⟨outcome, ended, ⟨failed, few⟩ | ⟨answer, balancers, balancer, first, listed, undoes⟩⟩ := undoes_of_runs run
  · refine ⟨outcome, ended, .inl ⟨failed, fun id twice => ?_⟩⟩
    exact List.not_duplicate_singleton _ _ (twice.mono_sublist few.sublist)
  · exact ⟨outcome, ended, .inr ⟨answer, balancers, balancer, first, listed, undoes, fun id => undoes.deletesTwice⟩⟩

/-- A balancer of ours that has one pool twice. -/
def repeating : Balancer :=
  ⟨"b", "b", some "nimbus ", ["p", "p"], none, false⟩

/-- A destruction that succeeds requests the deletion of a pool twice. -/
theorem not_once_repeating :
    Balancer.ofJson? repeating.toJson = some repeating ∧
    ¬ FirstOccurrences repeating.poolIds repeating.references ∧
    ∃ events after, (destroy webAccount heldAddress).run.Runs (around (provider webAccount) fun _ => .ok [heldAddress])
        ⟨[repeating], []⟩ events (some (.ok true)) after ∧
      DeletesTwice webAccount events "p" := by
  have twice : Duplicate "p" repeating.defaultPools := (List.Mem.head []).duplicate_cons_self
  have sendable : webAccount.isSendable = true := by decide +kernel
  have only : answering (fun _ => .ok [heldAddress]) heldAddress [repeating] = [repeating] := by decide +kernel
  refine ⟨repeating.ofJson?_toJson, fun occur => ?_, ?_⟩
  · exact List.nodup_iff_forall_not_duplicate.mp (Balancer.firstOccurrences_poolIds.mp occur) _ twice
  · have yields : (destroy webAccount heldAddress).run.Yields (around (provider webAccount) fun _ => .ok [heldAddress])
        ⟨[repeating], []⟩ (.ok true) _ := yields_true sendable only
    obtain ⟨events, run⟩ := yields.runs
    refine ⟨events, _, run, ?_⟩
    rw [DeletesTwice, requests_served sendable only run]
    exact (duplicate_deletions.mpr twice).duplicate_cons _

end CloudBalance.Cloudflare
