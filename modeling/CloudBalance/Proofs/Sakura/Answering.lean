import CloudBalance.Proofs.Sakura.Destroy
import CloudBalance.Proofs.World.Provider
import Mathlib.Data.List.Basic

/-!
# The balancers that answer on an address

Where names are looked up by a resolver, the resolver and the list of the balancers say which of ours answer on an
address. Main statements: these are the ones that the trials of a destruction find, and where the resolver fails on
more names they are fewer.
-/

namespace CloudBalance.Sakura

open Net (Address Resolution)
open Program (Steps)
open World (around leadsTo FailsMore)

variable {address : Address} {resolver : String → Resolution} {balancers : List Balancer}

/-- Whether a balancer answers on the address, by its virtual address or else by its name. -/
def answersBy (resolver : String → Resolution) (address : Address) (balancer : Balancer) : Bool :=
  balancer.virtualIp = some address || balancer.fqdn.any fun host => leadsTo address (resolver host)

/-- Those of our balancers that answer on the address. -/
def answering (resolver : String → Resolution) (address : Address) (balancers : List Balancer) :
    List Balancer :=
  (balancers.filter isManaged).filter (answersBy resolver address)

/-- Where a resolver fails on more names, fewer balancers answer. -/
theorem answering_sublist {failing : String → Resolution} (fails : FailsMore resolver failing) :
    (answering failing address balancers).Sublist (answering resolver address balancers) := by
  refine List.monotone_filter_right _ fun balancer answers => ?_
  rw [answersBy, Bool.or_eq_true] at answers ⊢
  refine answers.imp_right fun named => ?_
  cases held : balancer.fqdn with
  | none =>
    rw [held] at named
    cases named
  | some host =>
    rw [held] at named
    exact fails.leadsTo named

theorem passes_of_looked {trial : Trial address}
    (looked : ∀ host answer, ⟨.resolve host, answer⟩ ∈ trial.asked → answer = resolver host) :
    trial.passes = answersBy resolver address trial.balancer := by
  cases trial with
  | byAddress balancer same => simp [Trial.passes, Trial.balancer, answersBy, same]
  | byName balancer other host named answer =>
    rw [looked host answer (List.mem_singleton_self _)]
    simp [Trial.passes, Trial.balancer, answersBy, other, named]
  | unnamed balancer other nameless => simp [Trial.passes, Trial.balancer, answersBy, other, nameless]

/-- The trials by a resolver find the balancers that answer. -/
theorem found_of_looked {trials : List (Trial address)}
    (tried : trials.map Trial.balancer = balancers.filter isManaged)
    (looked : ∀ host answer, ⟨.resolve host, answer⟩ ∈ trials.flatMap Trial.asked → answer = resolver host) :
    found trials = answering resolver address balancers := by
  have passed : trials.filter Trial.passes = trials.filter (answersBy resolver address ∘ Trial.balancer) := by
    refine List.filter_congr fun trial member => passes_of_looked fun host answer asked => ?_
    exact looked host answer (List.mem_flatMap.mpr ⟨trial, member, asked⟩)
  rw [found, passed, ← List.filter_map, tried, answering]

variable {σ : Type} {provider : World.Provider σ} {before after : σ} {asked : List World.Event}

theorem course_of_runs {env : Environment World σ} {events : List World.Event}
    {result : Option (Except CloudError Bool)} (run : (destroy address).run.Runs env before events result after) :
    ∃ outcome found, result = some outcome ∧ Course address (World.calls events) found outcome := by
  obtain ⟨outcome, rfl⟩ := within_destroy.returns not_false run
  obtain ⟨found, course⟩ := World.ensured_of_runs ensures_destroy run
  exact ⟨outcome, found, rfl, course⟩

/-- Listing and trying do nothing to a provider, and so it is left to the settlement. -/
theorem steps_settled {answer : ToolRun} {trials : List (Trial address)}
    (quiet : ∀ between, provider.tool before listing answer between → between = before)
    (steps : Steps (around provider resolver) before
      (⟨.tool listing, answer⟩ :: (trials.flatMap Trial.asked ++ asked)) after) :
    Steps (around provider resolver) before asked after ∧
      ∀ host answer, ⟨.resolve host, answer⟩ ∈ trials.flatMap Trial.asked → answer = resolver host := by
  obtain ⟨between, listed, later⟩ := steps.of_cons
  obtain ⟨middle, tried, settled⟩ := later.of_append
  have same : middle = between := by
    refine World.unchanged_of_lookups tried fun event member => ?_
    obtain ⟨trial, _, asked⟩ := List.mem_flatMap.mp member
    cases trial with
    | byAddress | unnamed => cases asked
    | byName balancer other host named answer =>
      cases List.mem_singleton.mp asked
      exact ⟨host, rfl⟩
  rw [same, quiet between listed] at settled
  exact ⟨settled, World.resolved_of_steps World.resolvesBy_around tried⟩

end CloudBalance.Sakura
