import CloudBalance.Proofs.Cloudflare.Answering

/-!
# Deletions where names cannot be looked up

Main statement: beside a resolver that fails on some names a balancer may be the only one of ours that leads to an
address, and then it is deleted, however many lead there in truth.
-/

namespace CloudBalance.Cloudflare

open Net (Address Resolution)
open World (FailsMore)

variable {account : Account} {address : Address} {resolver : String → Resolution} {balancers found : List Balancer}
  {events asked : List World.Event} {outcome : Except CloudError Bool}

/-- In what happens, the balancers are listed and the names are looked up by the resolver. -/
structure Sees (account : Account) (balancers : List Balancer) (resolver : String → Resolution)
    (events : List World.Event) : Prop where
  listed : ∀ answer, ⟨.send account.listing, answer⟩ ∈ events →
    received (Json.toList? Balancer.ofJson?) answer = .ok balancers
  looked : ∀ host answer, ⟨.resolve host, answer⟩ ∈ events → answer = resolver host

theorem Sees.calls (sees : Sees account balancers resolver events) :
    Sees account balancers resolver (World.calls events) where
  listed _ member := sees.listed _ (World.mem_calls.mp member).1
  looked _ _ member := sees.looked _ _ (World.mem_calls.mp member).1

/-- A deletion is sent. -/
def SendsDeletion (events : List World.Event) : Prop :=
  ∃ request answer, ⟨.send request, answer⟩ ∈ events ∧ request.method = .delete

theorem Course.settles (course : Course account address asked found outcome)
    (sees : Sees account balancers resolver asked) (sendable : account.isSendable = true) :
    ∃ rest, Settles account address (answering resolver address balancers) rest outcome ∧
      (SendsDeletion asked ↔ SendsDeletion rest) := by
  cases course with
  | unsent unsendable => simp [sendable] at unsendable
  | unlisted refused =>
    rw [sees.listed _ (List.mem_singleton_self _)] at refused
    cases refused
  | settled listed tried settles =>
    rw [sees.listed _ List.mem_cons_self] at listed
    cases listed
    rw [found_of_looked tried fun host answer member =>
      sees.looked host answer (List.mem_cons_of_mem _ (List.mem_append_left _ member))] at settles
    refine ⟨_, settles, ?_⟩
    constructor
    · rintro ⟨request, answer, sent, deletes⟩
      exact ⟨request, answer, (mem_deletions deletes).mp sent, deletes⟩
    · rintro ⟨request, answer, sent, deletes⟩
      exact ⟨request, answer, (mem_deletions deletes).mpr sent, deletes⟩

theorem Settles.deletes_iff (settles : Settles account address found asked outcome) :
    SendsDeletion asked ↔ ∃ balancer, found = [balancer] := by
  constructor
  · rintro ⟨request, answer, sent, _⟩
    obtain ⟨balancer, alone, _⟩ := settles.deletes sent
    exact ⟨balancer, alone⟩
  · rintro ⟨balancer, rfl⟩
    cases settles with
    | one carried =>
      cases carried with
      | failed => exact ⟨_, _, List.mem_cons_self, rfl⟩
      | next => exact ⟨_, _, List.mem_cons_self, rfl⟩
    | many several => simp at several

variable {σ : Type} {env : Environment World σ} {before after : σ}

/-- A deletion is sent exactly if one balancer of ours alone answers. -/
theorem deletes_iff_answering {result : Option (Except CloudError Bool)} (sendable : account.isSendable = true)
    (sees : Sees account balancers resolver events)
    (run : (destroy account address).run.Runs env before events result after) :
    SendsDeletion events ↔ ∃ balancer, answering resolver address balancers = [balancer] := by
  obtain ⟨outcome, found, rfl, course⟩ := course_of_runs run
  obtain ⟨rest, settles, same⟩ := course.settles sees.calls sendable
  rw [← settles.deletes_iff, ← same]
  refine exists₂_congr fun request answer => and_congr_left fun _ => ?_
  have called : World.IsCall (.send request) := trivial
  exact (World.mem_calls.trans (and_iff_left called)).symm

theorem toCloudError_ne (e : CloudflareError) (text : String) : e.toCloudError ≠ .invalidArgument text := by
  cases e <;> simp [CloudflareError.toCloudError]

/-- The argument is refused exactly if several balancers of ours answer. -/
theorem refused_iff_several {result : Option (Except CloudError Bool)} (sendable : account.isSendable = true)
    (sees : Sees account balancers resolver events)
    (run : (destroy account address).run.Runs env before events result after) :
    (∃ text, result = some (.error (.invalidArgument text))) ↔
      2 ≤ (answering resolver address balancers).length := by
  obtain ⟨outcome, found, rfl, course⟩ := course_of_runs run
  obtain ⟨rest, settles, _⟩ := course.settles sees.calls sendable
  generalize answering resolver address balancers = found at settles
  cases settles with
  | none => simp
  | @one _ _ result =>
    cases result with
    | ok _ => simp [Except.map, Except.mapError]
    | error e => simp [Except.map, Except.mapError, toCloudError_ne]
  | many several => exact iff_of_true ⟨_, rfl⟩ several

theorem sendable_of_refused {text : String}
    (run : (destroy account address).run.Runs env before events (some (.error (.invalidArgument text))) after) :
    account.isSendable = true := by
  by_contra unsendable
  obtain ⟨same, _⟩ := runs_unsendable (by simpa using unsendable) run
  simp [CloudflareError.toCloudError] at same

/-- Beside a resolver that fails on more names a deletion is sent exactly if one balancer is left. -/
theorem guess {failing : String → Resolution} (fails : FailsMore resolver failing) {τ : Type}
    {env' : Environment World τ} {before' after' : τ} {events' : List World.Event} {text : String}
    {result : Option (Except CloudError Bool)} (sees : Sees account balancers resolver events)
    (sees' : Sees account balancers failing events')
    (run : (destroy account address).run.Runs env before events (some (.error (.invalidArgument text))) after)
    (run' : (destroy account address).run.Runs env' before' events' result after') :
    ¬ SendsDeletion events ∧
      (answering failing address balancers).Sublist (answering resolver address balancers) ∧
      (SendsDeletion events' ↔ ∃ balancer, answering failing address balancers = [balancer]) := by
  have sendable := sendable_of_refused run
  have several := (refused_iff_several sendable sees run).mp ⟨text, rfl⟩
  refine ⟨?_, answering_sublist fails, deletes_iff_answering sendable sees' run'⟩
  rw [deletes_iff_answering sendable sees run]
  rintro ⟨balancer, alone⟩
  rw [alone] at several
  simp at several

end CloudBalance.Cloudflare
