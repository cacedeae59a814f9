import CloudBalance.Proofs.Cloudflare.Undo
import CloudBalance.Proofs.Sakura.Undo

/-!
# Destructions that undo creations

Main statement: at both providers, where the balancer that a creation made is the only one of ours that answers on an
address, a destruction there brings the store of the provider back to what it was.
-/

namespace CloudBalance

open Net (Resolution)
open World (around leadsTo)

variable {resolver : String → Resolution} {location : Location} {spec : BalancerSpec} {ids : List String}
  {events : List World.Event} {host : String}

/-- A destruction undoes a creation. At Cloudflare the nodes may be listed in any way that does not touch the store;
at Sakura Cloud the new balancer answers by its virtual address, too. -/
theorem destroy_undoes_create :
    (∀ (account : Cloudflare.Account) (list : Attempt World CloudError (List Node)) (store made : Cloudflare.Store),
      (∀ s events result after, list.run.Runs (around (Cloudflare.provider account) resolver) s events result after →
        after = s) →
      (Cloudflare.create account list location spec ids).run.Runs (around (Cloudflare.provider account) resolver) store
        events (some (.ok host)) made →
      ∃ created, created ∈ made.balancers ∧ created ∉ store.balancers ∧ created.name = host ∧
        ∀ address, leadsTo address (resolver created.name) = true →
          Cloudflare.answering resolver address store.balancers = [] →
          (Cloudflare.destroy account address).run.Yields (around (Cloudflare.provider account) resolver) made
            (.ok true) store) ∧
    ∀ (plan : UInt32) (store made : Sakura.Store),
      (Sakura.create plan location spec ids).run.Runs (around Sakura.provider resolver) store events
        (some (.ok host)) made →
      ∃ created, created ∈ made.map (·.1) ∧ created ∉ store.map (·.1) ∧ created.fqdn = some host ∧
        ∀ address, Sakura.answersBy resolver address created = true →
          Sakura.answering resolver address (store.map (·.1)) = [] →
          (Sakura.destroy address).run.Yields (around Sakura.provider resolver) made (.ok true) store :=
  ⟨fun _ _ _ _ => Cloudflare.restores, fun _ _ _ => Sakura.restores⟩

/-! ## Beside a balancer of somebody else -/

def Cloudflare.foreign : Balancer :=
  ⟨"7", "other.example.com", none, [], none, false⟩

def Sakura.foreign : Balancer :=
  ⟨"7", "other", some "other.example.com", none, none, []⟩

def Sakura.foreignStore : Store :=
  [(foreign, parametersOf (.zone "tk1a") frontSpec standardPlan [])]

theorem destroy_undoes_create_web :
    (∃ events host made address,
      (Cloudflare.create Cloudflare.webAccount (pure [Cloudflare.webNode]) (.zone "tk1a") Cloudflare.webSpec
        ["1"]).run.Runs (around (Cloudflare.provider Cloudflare.webAccount) fun _ => .ok [address])
        ⟨[Cloudflare.foreign], []⟩ events (some (.ok host)) made ∧
      (Cloudflare.destroy Cloudflare.webAccount address).run.Yields
        (around (Cloudflare.provider Cloudflare.webAccount) fun _ => .ok [address]) made (.ok true)
        ⟨[Cloudflare.foreign], []⟩) ∧
    ∃ events host made address,
      (Sakura.create Sakura.standardPlan (.zone "tk1a") Sakura.frontSpec ["1"]).run.Runs
        (around Sakura.provider fun _ => .ok [address]) Sakura.foreignStore events (some (.ok host)) made ∧
      (Sakura.destroy address).run.Yields (around Sakura.provider fun _ => .ok [address]) made (.ok true)
        Sakura.foreignStore := by
  have leads : leadsTo (.v4 198 51 100 1) (.ok [.v4 198 51 100 1]) = true := by decide
  constructor
  · have still : ∀ s events result after,
        (pure [Cloudflare.webNode] : Attempt World CloudError (List Node)).run.Runs
          (around (Cloudflare.provider Cloudflare.webAccount) fun _ => .ok [.v4 198 51 100 1]) s events result after →
        after = s :=
      fun s events result after run => (Attempt.runs_pure.mp run).2.2
    obtain ⟨events, made, run⟩ := Cloudflare.exists_run_create Cloudflare.chosen_web Cloudflare.sendable_web
      ⟨[Cloudflare.foreign], []⟩
    obtain ⟨created, _, _, _, undone⟩ := destroy_undoes_create.1 _ _ _ _ still run
    exact ⟨events, _, made, _, run, undone _ leads rfl⟩
  · have sorted : Text.sortedSet ["1"] = ["1"] := Text.sortedSet_eq (List.pairwise_singleton _ _) fun _ => Iff.rfl
    obtain ⟨events, made, run⟩ := @Sakura.exists_run_create (fun _ => .ok [.v4 198 51 100 1]) (.zone "tk1a") ["1"]
      [Sakura.frontReading "1" (by decide)] sorted Sakura.standardPlan Sakura.frontSpec Sakura.foreignStore
    obtain ⟨created, _, _, named, undone⟩ := destroy_undoes_create.2 _ _ _ run
    exact ⟨events, _, made, .v4 198 51 100 1, run, undone _ (by simp [Sakura.answersBy, named, leads]) rfl⟩

end CloudBalance
