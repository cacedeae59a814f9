import CloudBalance.Command.Destroy
import CloudBalance.Proofs.Balancer.Names
import CloudBalance.Proofs.Command.Session
import CloudBalance.Proofs.Ledger.Entries

/-!
# What destroying a balancer leaves behind

Main statement: one balancer is destroyed, and if that goes well a record with the address leaves the
ledger; nothing else changes.
-/

namespace CloudBalance.Session

open Disk (Entry)
open Ledger (Store Record)
open Ledger.Store (Loads LockOnly)
open Net (Address)
open Service (steps)
open Time (Instant)

variable {store : Store} {disk : Disk} {contents : String → Option Entry} {address : Address}

/-! ## The call -/

theorem runs_destroyAt {σ : Type} {env : Environment Service σ} {s s' : σ} {events : List Service.Event}
    {result : Option (Except CloudError Unit)}
    (run : (Service.destroyAt address).run.Runs env s events result s') :
    ∃ answer, steps events = [⟨.destroy address, answer⟩] ∧ result = some (answer.map fun _ => ()) := by
  obtain ⟨begun, calls, body, silent⟩ := Service.runs_note_bind run
  rw [silent]
  rcases Attempt.runs_bind.mp body with
    ⟨first, successful, between, rest, head, tail, rfl⟩ | ⟨e, head, rfl⟩ | ⟨head, _⟩
  · obtain ⟨_, _, rfl, same⟩ := Program.runs_perform.mp head
    cases same
    obtain ⟨value, noted, rfl⟩ := Attempt.runs_lift.mp tail
    obtain ⟨quiet, rfl⟩ := Service.runs_note noted
    exact ⟨.ok successful, by rw [Service.steps_append, quiet]; rfl, rfl⟩
  · obtain ⟨_, _, rfl, same⟩ := Program.runs_perform.mp head
    cases same
    exact ⟨.error e, rfl, rfl⟩
  · obtain ⟨_, _, _, impossible⟩ := Program.runs_perform.mp head
    cases impossible

/-! ## The record -/

/-- A record with the address leaves the ledger, if the ledger can be read and has one. -/
theorem ensures_forget (holds : store.Holds disk contents) :
    (forget store address).run.Ensures Local.onDisk disk fun result after =>
      ∃ left, store.Holds after left ∧
        ((∃ e, Loads (contents "state.json") (.error e) ∧ result = .error e ∧ left = contents) ∨
        ∃ ledger now, Loads (contents "state.json") (.ok ledger) ∧
          Loads (left "state.json") (.ok (ledger.removeByAddress address now).2) ∧
          result = .ok (ledger.removeByAddress address now).1) := by
  rw [forget, Attempt.ensures_bind]
  refine (Store.ensures_load holds).mono ?_
  rintro result _ ⟨loaded, rfl⟩
  cases result with
  | error e => exact ⟨contents, holds, .inl ⟨e, loaded, rfl, rfl⟩⟩
  | ok ledger =>
    simp only [Attempt.ensures_bind, Attempt.ensures_lift, Local.ensures_now]
    intro now held
    rcases ledger.removeByAddress_cases address now with same | ⟨found, removed, _, _, same⟩
    · -- no record has the address, and the file is left alone
      rw [same]
      exact Attempt.ensures_pure.mpr
        ⟨contents, holds, .inr ⟨ledger, now, loaded, by rwa [same], by rw [same]⟩⟩
    · rw [same]
      dsimp only
      rw [Attempt.ensures_bind]
      refine (Store.ensures_save holds loaded.file _).mono ?_
      rintro _ after ⟨rfl, holds⟩
      refine Attempt.ensures_pure.mpr ⟨_, holds, .inr ⟨ledger, now, loaded, ?_, by rw [same]⟩⟩
      rw [same, Function.update_self]
      exact Store.loads_encode (loaded.sane.without found now) held

/-! ## The command -/

/-- How a run that destroys a balancer may go: what lies in the directory of the project before and after,
what is asked of the service, and the result. -/
inductive Destroys (address : Address) (before after : String → Option Entry) (asked : List Service.Event) :
    Except CommandError Unit → Prop where
  /-- The lock is not to be had. -/
  | refused {e : CloudError} (held : before "lock.json" ≠ none) (idle : asked = [])
      (same : LockOnly before after) : Destroys address before after asked (.error (.cloud e))
  /-- The call fails. -/
  | failed {e : CloudError} (call : steps asked = [⟨.destroy address, .error e⟩])
      (same : LockOnly before after) : Destroys address before after asked (.error (.cloud e))
  /-- The ledger cannot be read. -/
  | unread {successful : Bool} {e : CloudError} (call : steps asked = [⟨.destroy address, .ok successful⟩])
      (unreadable : Loads (before "state.json") (.error e)) (same : LockOnly before after) :
      Destroys address before after asked (.error (.cloud e))
  /-- A record leaves the ledger, if one has the address. -/
  | forgotten {successful : Bool} {ledger : Ledger} {now : Instant}
      (call : steps asked = [⟨.destroy address, .ok successful⟩])
      (readable : Loads (before "state.json") (.ok ledger))
      (stored : Loads (after "state.json") (.ok (ledger.removeByAddress address now).2)) :
      Destroys address before after asked (.ok ())

theorem Destroys.then_lockOnly {before between after : String → Option Entry} {asked : List Service.Event}
    {result : Except CommandError Unit} (destroys : Destroys address before between asked result)
    (same : LockOnly between after) : Destroys address before after asked result := by
  cases destroys with
  | refused held idle early => exact .refused held idle (early.trans same)
  | failed call early => exact .failed call (early.trans same)
  | unread call unreadable early => exact .unread call unreadable (early.trans same)
  | forgotten call readable stored => exact .forgotten call readable (same.ledger ▸ stored)

theorem ensures_destroy (holds : store.Holds disk contents) :
    (destroy store address).run.Ensures onDisk ⟨disk, []⟩ fun result after =>
      ∃ left, store.Holds after.disk left ∧ Destroys address contents left after.asked result := by
  rw [destroy, Attempt.ensures_bind, Attempt.ensures_lift, ensures_print]
  dsimp only
  refine (ensures_withLock (fun result asked its => Destroys address contents its asked result)
    holds ?_).mono ?_
  · intro disk its lies same
    rw [Attempt.ensures_bind]
    refine ensures_ofService.mpr fun events result run => ?_
    obtain ⟨answer, call, ended⟩ := runs_destroyAt run
    cases ended
    cases answer with
    | error e => exact ⟨its, lies, .failed call same⟩
    | ok successful =>
      dsimp only [Except.map, Except.mapError]
      rw [Attempt.ensures_bind]
      refine ensures_ofLocal.mpr ((ensures_forget lies).mono ?_)
      rintro result after ⟨left, last, ⟨e, unreadable, rfl, rfl⟩ | ⟨ledger, now, readable, stored, rfl⟩⟩
      · exact ⟨left, last, .unread call (same.ledger ▸ unreadable) same⟩
      · simp only [Except.mapError, Attempt.ensures_bind, Attempt.ensures_lift, ensures_print]
        exact ⟨left, last, .forgotten call (same.ledger ▸ readable) stored⟩
  · rintro result after ⟨left, lies, ⟨⟨e, rfl⟩, held, idle, same⟩ | ⟨its, same, destroys⟩⟩
    · exact ⟨left, lies, .refused held idle same⟩
    · exact ⟨left, lies, destroys.then_lockOnly same⟩

end CloudBalance.Session
