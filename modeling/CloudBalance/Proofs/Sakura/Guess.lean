import CloudBalance.Proofs.Sakura.Answering

/-!
# Deletions where names cannot be looked up

Main statement: beside a resolver that fails on some names a balancer may be the only one of ours that answers on
an address, and then it is deleted, however many answer there in truth.
-/

namespace CloudBalance.Sakura

open Net (Address Resolution)

variable {address : Address} {resolver : String → Resolution} {balancers found : List Balancer}
  {events asked : List World.Event} {outcome : Except CloudError Bool}

/-- In what happens, the balancers are listed and the names are looked up by the resolver. -/
structure Sees (balancers : List Balancer) (resolver : String → Resolution) (events : List World.Event) : Prop where
  told : ∀ answer, ⟨.tool listing, answer⟩ ∈ events → listed answer = .ok balancers
  looked : ∀ host answer, ⟨.resolve host, answer⟩ ∈ events → answer = resolver host

theorem Sees.calls (sees : Sees balancers resolver events) : Sees balancers resolver (World.calls events) where
  told _ member := sees.told _ (World.mem_calls.mp member).1
  looked _ _ member := sees.looked _ _ (World.mem_calls.mp member).1

/-- A deletion is run. -/
def RunsDeletion (events : List World.Event) : Prop :=
  ∃ id answer, ⟨.tool (deletion id), answer⟩ ∈ events

theorem Course.settles (course : Course address asked found outcome) (sees : Sees balancers resolver asked) :
    ∃ rest, Settles address (answering resolver address balancers) rest outcome ∧
      (RunsDeletion asked ↔ RunsDeletion rest) := by
  cases course with
  | unlisted refused =>
    rw [sees.told _ (List.mem_singleton_self _)] at refused
    cases refused
  | settled known tried settles =>
    rw [sees.told _ List.mem_cons_self] at known
    cases known
    rw [found_of_looked tried fun host answer member =>
      sees.looked host answer (List.mem_cons_of_mem _ (List.mem_append_left _ member))] at settles
    have other : ∀ id, deletion id ≠ listing := by simp [deletion, listing]
    exact ⟨_, settles, exists₂_congr fun id answer => mem_deletions (other id)⟩

theorem Settles.deletes_iff (settles : Settles address found asked outcome) :
    RunsDeletion asked ↔ ∃ balancer, found = [balancer] ∧ isArgument balancer.id = true := by
  cases settles with
  | none => simp [RunsDeletion]
  | @one balancer answer argument =>
    have ran : RunsDeletion [⟨.tool (deletion balancer.id), answer⟩] := ⟨_, _, List.mem_singleton_self _⟩
    exact iff_of_true ran ⟨balancer, rfl, argument⟩
  | unfit unfit => simp [RunsDeletion, unfit]
  | many several =>
    refine iff_of_false (by simp [RunsDeletion]) ?_
    rintro ⟨balancer, rfl, _⟩
    simp at several

variable {σ : Type} {env : Environment World σ} {before after : σ}

/-- A deletion is run exactly if one balancer of ours alone answers and the tool can be told its id. -/
theorem deletes_iff_answering {result : Option (Except CloudError Bool)} (sees : Sees balancers resolver events)
    (run : (destroy address).run.Runs env before events result after) :
    RunsDeletion events ↔
      ∃ balancer, answering resolver address balancers = [balancer] ∧ isArgument balancer.id = true := by
  obtain ⟨outcome, found, rfl, course⟩ := course_of_runs run
  obtain ⟨rest, settles, same⟩ := course.settles sees.calls
  rw [← settles.deletes_iff, ← same]
  refine exists₂_congr fun id answer => ?_
  have called : World.IsCall (.tool (deletion id)) := trivial
  exact (World.mem_calls.trans (and_iff_left called)).symm

theorem toCloudError_ne (e : SakuraError) (text : String) : e.toCloudError ≠ .invalidArgument text := by
  cases e <;> simp [SakuraError.toCloudError]

/-- The argument is refused exactly if several balancers of ours answer. -/
theorem refused_iff_several {result : Option (Except CloudError Bool)} (sees : Sees balancers resolver events)
    (run : (destroy address).run.Runs env before events result after) :
    (∃ text, result = some (.error (.invalidArgument text))) ↔
      2 ≤ (answering resolver address balancers).length := by
  obtain ⟨outcome, found, rfl, course⟩ := course_of_runs run
  obtain ⟨rest, settles, _⟩ := course.settles sees.calls
  generalize answering resolver address balancers = found at settles
  cases settles with
  | none => simp
  | @one _ answer =>
    cases deleted answer with
    | ok _ => simp [Except.map, Except.mapError]
    | error e => simp [Except.map, Except.mapError, toCloudError_ne]
  | unfit => simp [toCloudError_ne]
  | many several => exact iff_of_true ⟨_, rfl⟩ several

/-- Beside a resolver that fails on more names a deletion is run exactly if one balancer is left. -/
theorem guess {failing : String → Resolution} (fails : World.FailsMore resolver failing) {τ : Type}
    {env' : Environment World τ} {before' after' : τ} {events' : List World.Event} {text : String}
    {result : Option (Except CloudError Bool)} (sees : Sees balancers resolver events)
    (sees' : Sees balancers failing events')
    (run : (destroy address).run.Runs env before events (some (.error (.invalidArgument text))) after)
    (run' : (destroy address).run.Runs env' before' events' result after') :
    ¬ RunsDeletion events ∧
      (answering failing address balancers).Sublist (answering resolver address balancers) ∧
      (RunsDeletion events' ↔
        ∃ balancer, answering failing address balancers = [balancer] ∧ isArgument balancer.id = true) := by
  have several := (refused_iff_several sees run).mp ⟨text, rfl⟩
  refine ⟨?_, answering_sublist fails, deletes_iff_answering sees' run'⟩
  rw [deletes_iff_answering sees run]
  rintro ⟨balancer, alone, _⟩
  rw [alone] at several
  simp at several

end CloudBalance.Sakura
