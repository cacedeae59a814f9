import CloudBalance.Proofs.World.Calls
import Mathlib.Algebra.Order.BigOperators.Group.List
import Mathlib.Algebra.Order.Group.Nat

/-!
# A provider outside

A provider that the tool or the requests reach may have a state, which they read and change, while names are
looked up by a resolver. Main statements: what a run does to the state of the provider is what its calls do to
it, one after another, and there is a run beside a provider that always has an answer.
-/

namespace CloudBalance

/-! ## Events one after another -/

namespace Program

variable {S : Signature} {σ α : Type} {env : Environment S σ} {s s' : σ} {event : S.Event}
  {events first rest : List S.Event}

/-- Questions are answered one after another, each in the state that the one before it left. -/
inductive Steps (env : Environment S σ) : σ → List S.Event → σ → Prop where
  | nil (s : σ) : Steps env s [] s
  | cons {s between s' : σ} {event : S.Event} {rest : List S.Event}
      (answered : env s event.1 event.2 between) (later : Steps env between rest s') :
      Steps env s (event :: rest) s'

theorem Runs.steps {p : Program S α} {result : Option α} (run : p.Runs env s events result s') :
    Steps env s events s' := by
  induction run with
  | done | halt => exact .nil _
  | ask answered _ ih => exact .cons answered ih

theorem Steps.of_nil (steps : Steps env s [] s') : s' = s := by
  cases steps
  rfl

theorem Steps.of_cons (steps : Steps env s (event :: rest) s') :
    ∃ between, env s event.1 event.2 between ∧ Steps env between rest s' := by
  cases steps with
  | cons answered later => exact ⟨_, answered, later⟩

theorem Steps.of_append (steps : Steps env s (first ++ rest) s') :
    ∃ between, Steps env s first between ∧ Steps env between rest s' := by
  induction first generalizing s with
  | nil => exact ⟨s, .nil s, steps⟩
  | cons event first ih =>
    obtain ⟨next, answered, later⟩ := steps.of_cons
    obtain ⟨between, before, after⟩ := ih later
    exact ⟨between, .cons answered before, after⟩

theorem Steps.answered (steps : Steps env s events s') (member : event ∈ events) :
    ∃ before after, env before event.1 event.2 after := by
  induction steps with
  | nil => cases member
  | cons answered _ ih =>
    rcases List.mem_cons.mp member with rfl | later
    · exact ⟨_, _, answered⟩
    · exact ih later

/-- Events that change nothing leave the state as it is. -/
theorem Steps.unchanged (steps : Steps env s events s')
    (still : ∀ event ∈ events, ∀ before after, env before event.1 event.2 after → after = before) : s' = s := by
  induction steps with
  | nil => rfl
  | cons answered _ ih =>
    obtain ⟨first, rest⟩ := List.forall_mem_cons.mp still
    rw [ih rest, first _ _ answered]

/-- Events that change nothing may be left out. -/
theorem Steps.filter (steps : Steps env s events s') {keep : S.Event → Bool}
    (still : ∀ event, keep event = false → ∀ before after, env before event.1 event.2 after → after = before) :
    Steps env s (events.filter keep) s' := by
  induction steps with
  | nil => exact .nil _
  | @cons _ _ _ event _ answered _ ih =>
    cases kept : keep event with
    | true =>
      rw [List.filter_cons_of_pos kept]
      exact .cons answered ih
    | false =>
      rw [List.filter_cons_of_neg (by simp [kept])]
      rwa [still event kept _ _ answered] at ih

end Program

namespace World

open Net (Address HttpRequest Resolution)
open Program (Steps)

/-! ## Resolvers -/

/-- The surroundings look names up by a resolver, which gives a name the same answer each time. -/
def ResolvesBy {σ : Type} (env : Environment World σ) (resolver : String → Resolution) : Prop :=
  ∀ s host answer s', env s (.resolve host) answer s' → answer = resolver host

/-- The second resolver agrees with the first one except that it fails on some names. -/
def FailsMore (first second : String → Resolution) : Prop :=
  ∀ host, second host = first host ∨ ∃ e, second host = .error e

theorem FailsMore.leadsTo {first second : String → Resolution} (fails : FailsMore first second) {host : String}
    {address : Address} (leads : leadsTo address (second host) = true) :
    World.leadsTo address (first host) = true := by
  rcases fails host with same | ⟨e, failed⟩
  · rwa [same] at leads
  · rw [failed] at leads
    cases leads

/-! ## Providers -/

/-- A provider with a state: what the tool and a request may be answered in it, and the state that is left. -/
structure Provider (σ : Type) where
  tool : σ → List String → ToolRun → σ → Prop
  send : σ → HttpRequest → Except String ByteArray → σ → Prop

/-- A provider that has an answer in every state. -/
structure Provider.Total {σ : Type} (provider : Provider σ) : Prop where
  tool : ∀ s arguments, ∃ answer s', provider.tool s arguments answer s'
  send : ∀ s request, ∃ answer s', provider.send s request answer s'

/-- An id of as many letters. -/
def newId (n : Nat) : String :=
  String.ofList (List.replicate n 'a')

/-- Some id is longer than all others. -/
theorem exists_fresh (ids : List String) : ∃ n, ∀ other ∈ ids, other ≠ newId n := by
  -- one letter more than all of them together
  refine ⟨(ids.map String.length).sum + 1, fun other member same => ?_⟩
  have short : other.length ≤ (ids.map String.length).sum :=
    List.le_sum_of_mem (List.mem_map_of_mem member)
  rw [same] at short
  simp [newId] at short

variable {σ α : Type} {provider : Provider σ} {resolver : String → Resolution} {s s' : σ}
  {events : List World.Event}

/-- A world in which the tool and the requests reach a provider, and names are looked up by a resolver. Whoever
else is asked answers what he likes and does not touch the provider. -/
def around (provider : Provider σ) (resolver : String → Resolution) : Environment World σ
  | s, .tool arguments, answer, s' => provider.tool s arguments answer s'
  | s, .send request, answer, s' => provider.send s request answer s'
  | s, .resolve host, answer, s' => answer = resolver host ∧ s' = s
  | s, _, _, s' => s' = s

theorem resolvesBy_around : ResolvesBy (around provider resolver) resolver :=
  fun _ _ _ _ answered => answered.1

theorem around_unchanged {query : World.Query} {answer : World.Answer query}
    (reaches : (∀ arguments, query ≠ .tool arguments) ∧ ∀ request, query ≠ .send request)
    (answered : around provider resolver s query answer s') : s' = s := by
  cases query with
  | tool arguments => exact absurd rfl (reaches.1 arguments)
  | send request => exact absurd rfl (reaches.2 request)
  | resolve host => exact answered.2
  | _ => exact answered

/-- Beside a provider that always has an answer, a program that leaves the machine alone has a run. -/
theorem exists_run_around (total : provider.Total) {p : Program World α} (within : p.Within abroad) (s : σ) :
    ∃ events a s', p.Runs (around provider resolver) s events (some a) s' := by
  refine within.exists_run not_false (fun s query asks => ?_) s
  cases query with
  | tool arguments => exact total.tool s arguments
  | send request => exact total.send s request
  | resolve host => exact ⟨_, s, rfl, rfl⟩
  | hasTool => exact ⟨true, s, rfl⟩
  | sleep | print | printError => exact ⟨(), s, rfl⟩
  | here query =>
    cases query with
    | log record => exact ⟨(), s, rfl⟩
    | _ => cases asks

theorem yields_around (total : provider.Total) {p : Program World α} (within : p.Within abroad) {a : α}
    (only : ∀ events result after, p.Runs (around provider resolver) s events result after →
      result = some a ∧ after = s') :
    p.Yields (around provider resolver) s a s' := by
  obtain ⟨events, b, after, run⟩ := exists_run_around total within s
  obtain ⟨same, rfl⟩ := only _ _ _ run
  exact ⟨⟨events, same ▸ run⟩, only⟩

/-- What happens to the provider is what the calls do to it. -/
theorem steps_calls (steps : Steps (around provider resolver) s events s') :
    Steps (around provider resolver) s (calls events) s' := by
  refine steps.filter fun event left before after answered => ?_
  obtain ⟨query, answer⟩ := event
  refine around_unchanged ⟨?_, ?_⟩ answered
  · rintro arguments rfl
    exact absurd trivial (of_decide_eq_false left)
  · rintro request rfl
    exact absurd trivial (of_decide_eq_false left)

/-- A run anywhere is a run beside the provider if its calls may happen there. -/
theorem runs_around {σ' : Type} {env : Environment World σ'} {t t' : σ'} {p : Program World α} {result : Option α}
    (run : p.Runs env t events result t') (steps : Steps (around provider resolver) s (calls events) s') :
    p.Runs (around provider resolver) s events result s' := by
  induction run generalizing s with
  | done a =>
    rw [steps.of_nil]
    exact .done a s
  | halt =>
    rw [steps.of_nil]
    exact .halt s
  | @ask query next _ _ _ answer events _ _ _ ih =>
    -- a call takes the next step, and anything else changes nothing
    by_cases called : IsCall query
    · have first : calls (⟨query, answer⟩ :: events) = ⟨query, answer⟩ :: calls events :=
        List.filter_cons_of_pos (by simp [called])
      rw [first] at steps
      obtain ⟨between, answered, later⟩ := steps.of_cons
      exact .ask answered (ih later)
    · have silent : calls (⟨query, answer⟩ :: events) = calls events := List.filter_cons_of_neg (by simp [called])
      rw [silent] at steps
      refine .ask ?_ (ih steps)
      cases query with
      | print | printError | here => rfl
      | _ => exact absurd trivial called

theorem resolved_of_steps {env : Environment World σ} (resolves : ResolvesBy env resolver)
    (steps : Steps env s events s') :
    ∀ host answer, ⟨.resolve host, answer⟩ ∈ events → answer = resolver host := by
  intro host answer member
  obtain ⟨before, after, answered⟩ := steps.answered member
  exact resolves before host answer after answered

/-- Look-ups do not touch the provider. -/
theorem unchanged_of_lookups (steps : Steps (around provider resolver) s events s')
    (lookups : ∀ event ∈ events, ∃ host, event.1 = .resolve host) : s' = s := by
  refine steps.unchanged fun event member before after answered => ?_
  obtain ⟨host, asked⟩ := lookups event member
  refine around_unchanged ⟨?_, ?_⟩ answered
  · intro arguments same
    rw [asked] at same
    cases same
  · intro request same
    rw [asked] at same
    cases same

end World

end CloudBalance
