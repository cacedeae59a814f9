import CloudBalance.Proofs.Cloudflare.Destroy
import CloudBalance.Proofs.World.Provider
import Mathlib.Data.List.Basic

/-!
# The balancers that answer on an address

Where names are looked up by a resolver, the resolver and the list of the balancers say which of ours lead to an
address. Main statements: these are the ones that the look-ups of a destruction find, and where the resolver fails
on more names they are fewer.
-/

namespace CloudBalance.Cloudflare

open Net (Address Resolution)
open World (around leadsTo FailsMore)
open Program (Steps)

variable {account : Account} {address : Address} {resolver : String → Resolution} {balancers : List Balancer}

/-- Those of our balancers whose names lead to the address. -/
def answering (resolver : String → Resolution) (address : Address) (balancers : List Balancer) :
    List Balancer :=
  (balancers.filter isManaged).filter fun balancer => leadsTo address (resolver balancer.name)

theorem answering_filter (keep : Balancer → Bool) :
    answering resolver address (balancers.filter keep) = (answering resolver address balancers).filter keep := by
  simp only [answering, List.filter_filter, Bool.and_comm, Bool.and_assoc]

/-- Where a resolver fails on more names, fewer balancers answer. -/
theorem answering_sublist {failing : String → Resolution} (fails : FailsMore resolver failing) :
    (answering failing address balancers).Sublist (answering resolver address balancers) :=
  List.monotone_filter_right _ fun _ => fails.leadsTo

theorem found_eq_answering {trials : List Trial}
    (tried : trials.map (·.balancer) = balancers.filter isManaged)
    (looked : ∀ trial ∈ trials, trial.answer = resolver trial.balancer.name) :
    found address trials = answering resolver address balancers := by
  have passed : trials.filter (leadsTo address ·.answer) =
      trials.filter ((fun balancer => leadsTo address (resolver balancer.name)) ∘ (·.balancer)) :=
    List.filter_congr fun trial member => by rw [Function.comp_apply, looked trial member]
  rw [found, passed, ← List.filter_map, tried, answering]

/-- The look-ups by a resolver find the balancers that answer. -/
theorem found_of_looked {trials : List Trial} (tried : trials.map (·.balancer) = balancers.filter isManaged)
    (looked : ∀ host answer, ⟨.resolve host, answer⟩ ∈ trials.map Trial.event → answer = resolver host) :
    found address trials = answering resolver address balancers :=
  found_eq_answering tried fun _ member => looked _ _ (List.mem_map_of_mem member)

variable {σ : Type} {provider : World.Provider σ} {before after : σ} {asked : List World.Event}

theorem course_of_runs {env : Environment World σ} {events : List World.Event}
    {result : Option (Except CloudError Bool)}
    (run : (destroy account address).run.Runs env before events result after) :
    ∃ outcome found, result = some outcome ∧ Course account address (World.calls events) found outcome := by
  obtain ⟨outcome, rfl⟩ := within_destroy.returns not_false run
  obtain ⟨found, course⟩ := World.ensured_of_runs ensures_destroy run
  exact ⟨outcome, found, rfl, course⟩

/-- A token that fits into no header ends a destruction before anything is asked. -/
theorem runs_unsendable (unsendable : account.isSendable = false) {env : Environment World σ}
    {events : List World.Event} {result : Option (Except CloudError Bool)}
    (run : (destroy account address).run.Runs env before events result after) :
    result = some (.error (CloudflareError.http "builder error").toCloudError) ∧ World.calls events = [] := by
  obtain ⟨outcome, rfl⟩ := within_destroy.returns not_false run
  have ends : (destroy account address).run.Ensures World.recording [] fun outcome asked =>
      some outcome = some (.error (CloudflareError.http "builder error").toCloudError) ∧ asked = [] := by
    rw [destroy, Attempt.ensures_bind, Attempt.ensures_adapt, listBalancers, ensures_request_unsendable unsendable]
    exact ⟨rfl, rfl⟩
  exact World.ensured_of_runs ends run

/-- Listing and looking up do nothing to a provider, and so it is left to the settlement. -/
theorem steps_settled {answer : Except String ByteArray} {trials : List Trial}
    (quiet : ∀ between, provider.send before account.listing answer between → between = before)
    (steps : Steps (around provider resolver) before
      (⟨.send account.listing, answer⟩ :: (trials.map Trial.event ++ asked)) after) :
    Steps (around provider resolver) before asked after ∧
      ∀ host answer, ⟨.resolve host, answer⟩ ∈ trials.map Trial.event → answer = resolver host := by
  obtain ⟨between, listed, later⟩ := steps.of_cons
  obtain ⟨middle, looked, settled⟩ := later.of_append
  have same : middle = between := by
    refine World.unchanged_of_lookups looked fun event member => ?_
    obtain ⟨trial, _, rfl⟩ := List.mem_map.mp member
    exact ⟨_, rfl⟩
  rw [same, quiet between listed] at settled
  exact ⟨settled, World.resolved_of_steps World.resolvesBy_around looked⟩

end CloudBalance.Cloudflare
