import CloudBalance.Balancer.Names
import CloudBalance.Proofs.Scope

/-!
# Waiting for a name, run by run

What is asked while a name is looked up several times. Main statement: the name is looked up until an
answer has an address, once at least and as often as the policy allows at most, with the policy's
waits in between, and the first answer with an address is the result.
-/

namespace CloudBalance.Service

open Net (Address Resolution)
open Time (RetryPolicy)

deriving instance DecidableEq for Query

instance : (query : Query) → DecidableEq (Service.Answer query)
  | .list => inferInstanceAs (DecidableEq (Except CloudError (List Node)))
  | .create .. => inferInstanceAs (DecidableEq (Except CloudError String))
  | .destroy _ => inferInstanceAs (DecidableEq (Except CloudError Bool))
  | .resolve _ => inferInstanceAs (DecidableEq Resolution)
  | .sleep _ | .log _ => inferInstanceAs (DecidableEq Unit)

/-- The addresses of an answer that has any. -/
def found? : Resolution → Option (List Address)
  | .ok (address :: more) => some (address :: more)
  | _ => none

/-- An event that is more than a record in the log. -/
def isStep (event : Service.Event) : Bool :=
  match event.1 with
  | .log _ => false
  | _ => true

/-- What happens in a run, the log left out. -/
def steps (events : List Service.Event) : List Service.Event :=
  events.filter isStep

@[simp] theorem steps_nil : steps [] = [] := rfl

@[simp] theorem steps_append (first rest : List Service.Event) :
    steps (first ++ rest) = steps first ++ steps rest :=
  List.filter_append _ _

variable {σ : Type} {env : Environment Service σ} {s s' : σ} {events : List Service.Event}

/-! ## Single questions -/

theorem runs_note {level : Log.Level} {topic : Log.Topic} {message : String} {result : Option Unit}
    (run : (note level topic message).Runs env s events result s') :
    steps events = [] ∧ result = some () := by
  obtain ⟨answer, _, rfl, rfl⟩ := Program.runs_perform.mp run
  exact ⟨rfl, rfl⟩

theorem runs_note_bind {level : Log.Level} {topic : Log.Topic} {message : String} {ε α : Type}
    {rest : Unit → Attempt Service ε α} {result : Option (Except ε α)}
    (run : (note level topic message >>= rest : Attempt Service ε α).run.Runs env s events result s') :
    ∃ between later, (rest ()).run.Runs env between later result s' ∧ steps events = steps later := by
  rcases Attempt.runs_lift_bind.mp run with ⟨first, _, between, later, noted, tail, rfl⟩ | ⟨noted, _⟩
  · exact ⟨between, later, tail, by simp [(runs_note noted).1]⟩
  · cases (runs_note noted).2

theorem runs_sleep {nanos : Nat} {result : Option Unit}
    (run : (sleep nanos).Runs env s events result s') :
    steps events = [⟨.sleep nanos, ()⟩] ∧ result = some () := by
  obtain ⟨answer, _, rfl, rfl⟩ := Program.runs_perform.mp run
  exact ⟨rfl, rfl⟩

theorem runs_resolveOnce {host : String} {attempt : Nat} {result : Option (Option (List Address))}
    (run : (resolveOnce host attempt).Runs env s events result s') :
    ∃ answer, steps events = [⟨.resolve host, answer⟩] ∧ result = some (found? answer) := by
  rcases Program.runs_bind.mp run with ⟨first, answer, between, rest, head, tail, rfl⟩ | ⟨head, _⟩
  · obtain ⟨_, _, rfl, same⟩ := Program.runs_perform.mp head
    cases same
    refine ⟨answer, ?_⟩
    -- whatever the answer, one record is logged
    have logged : ∀ {level topic message} {value : Option (List Address)},
        (note level topic message >>= fun _ => pure value).Runs env between rest result s' →
          steps rest = [] ∧ result = some value := by
      intro level topic message value tail
      rcases Program.runs_bind.mp tail with ⟨_, _, _, _, noted, last, rfl⟩ | ⟨noted, _⟩
      · obtain ⟨rfl, rfl, _⟩ := Program.runs_done.mp last
        exact ⟨by simp [(runs_note noted).1], rfl⟩
      · cases (runs_note noted).2
    rw [steps_append]
    match answer, tail with
    | .ok [], tail =>
      obtain ⟨silent, rfl⟩ := logged tail
      exact ⟨by rw [silent]; rfl, rfl⟩
    | .ok (address :: more), tail =>
      obtain ⟨silent, rfl⟩ := logged tail
      exact ⟨by rw [silent]; rfl, rfl⟩
    | .error e, tail =>
      obtain ⟨silent, rfl⟩ := logged tail
      exact ⟨by rw [silent]; rfl, rfl⟩
  · obtain ⟨_, _, _, impossible⟩ := Program.runs_perform.mp head
    cases impossible

/-! ## Repeated look-ups -/

/-- The waits that a policy asks for can be measured: none of them ends the program. -/
def CanWait (policy : RetryPolicy) : Prop :=
  ∀ attempt, 1 ≤ attempt → attempt < policy.maxAttempts → (policy.delayAfter attempt).isSome

theorem canWait_dns : CanWait .dns := by
  intro attempt low high
  have : attempt < 3 := high
  obtain rfl | rfl : attempt = 1 ∨ attempt = 2 := by omega
  · decide +kernel
  · decide +kernel

/-- Look-ups with these answers and the policy's waits in between, from the attempt of number
`attempt` on. -/
def lookups (policy : RetryPolicy) (host : String) (attempt : Nat) :
    List Resolution → List Service.Event
  | [] => []
  | [answer] => [⟨.resolve host, answer⟩]
  | answer :: next :: rest =>
    ⟨.resolve host, answer⟩ :: ⟨.sleep ((policy.delayAfter attempt).getD 0), ()⟩
      :: lookups policy host (attempt + 1) (next :: rest)

/-- The answers to repeated look-ups of which `most` are allowed: only the last one may have an
address, and without an address all look-ups are made. -/
structure Tries (most : Nat) (answers : List Resolution) : Prop where
  made : answers ≠ []
  at_most : answers.length ≤ most
  stops : ∀ answer ∈ answers.dropLast, found? answer = none
  goes_on : answers.findSome? found? = none → answers.length = most

theorem Tries.single {answer : Resolution} {most : Nat} (positive : 1 ≤ most)
    (last : found? answer = none → most = 1) : Tries most [answer] where
  made := List.cons_ne_nil _ _
  at_most := positive
  stops := by simp
  goes_on unfound := by
    rw [List.findSome?_singleton] at unfound
    simp [last unfound]

theorem Tries.cons {answer : Resolution} {answers : List Resolution} {most : Nat}
    (unfound : found? answer = none) (tries : Tries most answers) :
    Tries (most + 1) (answer :: answers) where
  made := List.cons_ne_nil _ _
  at_most := Nat.succ_le_succ tries.at_most
  stops := by
    rw [List.dropLast_cons_of_ne_nil tries.made]
    intro other member
    rcases List.mem_cons.mp member with rfl | deeper
    · exact unfound
    · exact tries.stops other deeper
  goes_on none := by
    rw [List.findSome?_cons, unfound] at none
    simp [tries.goes_on none]

theorem runs_resolveFrom {policy : RetryPolicy} {host : String} {attempt left : Nat}
    {result : Option (Option (List Address))}
    (returns : (∀ n, attempt ≤ n → n < attempt + left → (policy.delayAfter n).isSome) ∨ result.isSome)
    (run : (resolveFrom policy host attempt left).Runs env s events result s') :
    ∃ answers, Tries (left + 1) answers ∧ steps events = lookups policy host attempt answers ∧
      result = some (answers.findSome? found?) := by
  -- by the number of look-ups that are left after this one
  induction left generalizing attempt s events with
  | zero =>
    obtain ⟨answer, asked, rfl⟩ := runs_resolveOnce run
    exact ⟨[answer], .single (by omega) (fun _ => rfl), asked, by rw [List.findSome?_singleton]⟩
  | succ left ih =>
    rcases Program.runs_bind.mp run with ⟨first, value, between, rest, head, tail, rfl⟩ | ⟨head, _⟩
    · obtain ⟨answer, asked, same⟩ := runs_resolveOnce head
      cases same
      cases unfound : found? answer with
      | some addresses =>
        -- an address was found, and no more is asked
        rw [unfound] at tail
        obtain ⟨rfl, rfl, rfl⟩ := Program.runs_done.mp tail
        rw [List.append_nil]
        refine ⟨[answer], .single (by omega) (by simp [unfound]), asked, ?_⟩
        rw [List.findSome?_singleton, unfound]
      | none =>
        cases delay : policy.delayAfter attempt with
        | none =>
          -- the program halts here, which either side of `returns` excludes
          simp only [unfound, delay] at tail
          obtain ⟨_, rfl, _⟩ := Program.runs_halt.mp tail
          rcases returns with waits | impossible
          · have waited := waits attempt (by omega) (by omega)
            rw [delay] at waited
            cases waited
          · cases impossible
        | some nanos =>
          simp only [unfound, delay] at tail
          rcases Program.runs_bind.mp tail with ⟨slept, _, _, later, pause, again, rfl⟩ | ⟨pause, _⟩
          · obtain ⟨answers, tries, looked, rfl⟩ :=
              ih (returns.imp_left fun waits n low high => waits n (by omega) (by omega)) again
            refine ⟨answer :: answers, tries.cons unfound, ?_, by rw [List.findSome?_cons, unfound]⟩
            -- at least one look-up follows, so there is a wait between
            obtain ⟨next, more, rfl⟩ := List.exists_cons_of_ne_nil tries.made
            rw [steps_append, steps_append, asked, (runs_sleep pause).1, looked, lookups, delay]
            rfl
          · cases (runs_sleep pause).2
    · obtain ⟨_, _, impossible⟩ := runs_resolveOnce head
      cases impossible

/-- Looking a name up with retries, where all waits can be measured or the run returns. -/
theorem runs_resolveWithRetry {policy : RetryPolicy} {host : String}
    {result : Option (Option (List Address))} (returns : CanWait policy ∨ result.isSome)
    (run : (resolveWithRetry policy host).Runs env s events result s') :
    ∃ answers, Tries (max 1 policy.maxAttempts) answers ∧
      steps events = lookups policy host 1 answers ∧ result = some (answers.findSome? found?) := by
  have most : policy.maxAttempts - 1 + 1 = max 1 policy.maxAttempts := by omega
  rw [← most]
  exact runs_resolveFrom (returns.imp_left fun waits n low high => waits n low (by omega)) run

/-! ## What may be asked -/

/-- What is asked when a name is looked up. -/
def looking : Program.Scope Service where
  asks
    | .resolve _ | .sleep _ | .log _ => True
    | _ => False
  halts := False

section
variable {scope : Program.Scope Service} (asks : ∀ query, looking.asks query → scope.asks query)
include asks

theorem within_resolveOnce {host : String} {attempt : Nat} : (resolveOnce host attempt).Within scope := by
  refine (Program.within_perform.mpr (asks _ trivial) : (resolve host).Within _).bind fun answer => ?_
  split <;> exact ⟨asks _ trivial, fun _ => trivial⟩

/-- Look-ups stay within any scope that has them, if no wait ends the program or it may end. -/
theorem within_resolveFrom {policy : RetryPolicy} {host : String} {left attempt : Nat}
    (waits : scope.halts ∨ ∀ n, attempt ≤ n → n < attempt + left → (policy.delayAfter n).isSome) :
    (resolveFrom policy host attempt left).Within scope := by
  induction left generalizing attempt with
  | zero => exact within_resolveOnce asks
  | succ left ih =>
    refine (within_resolveOnce asks).bind fun found => ?_
    cases found with
    | some addresses => trivial
    | none =>
      cases delay : policy.delayAfter attempt with
      | some nanos =>
        exact ⟨asks _ trivial, fun _ => ih (waits.imp_right fun waits n low high => waits n (by omega) (by omega))⟩
      | none =>
        refine waits.resolve_right fun waits => ?_
        have waited := waits attempt (Nat.le_refl _) (by omega)
        rw [delay] at waited
        cases waited

end

end CloudBalance.Service
