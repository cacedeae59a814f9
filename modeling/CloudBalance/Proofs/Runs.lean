import CloudBalance.Local
import Mathlib.Control.Monad.Basic

/-!
# Runs of programs

A program leaves open what its questions are answered; an environment says which answers there may
be. `Program.Runs` relates a program to the questions and answers of one run, its result and the
state in which the environment is left. Main statements: the runs of a sequence are the runs of its
parts one after the other, and what a program does against a handler is a run of it.
-/

namespace CloudBalance

/-- A question and the answer that it got. -/
abbrev Signature.Event (S : Signature) : Type :=
  (query : S.Query) × S.Answer query

/-- How the surroundings may behave: whether a question, asked in a state, may get an answer and
leave another state. -/
abbrev Environment (S : Signature) (σ : Type) : Type :=
  σ → (query : S.Query) → S.Answer query → σ → Prop

namespace Environment

variable {S : Signature} {σ : Type}

/-- The surroundings that answer as a handler does. -/
def ofHandler (handler : (q : S.Query) → σ → S.Answer q × σ) : Environment S σ :=
  fun s q r s' => handler q s = (r, s')

end Environment

namespace Program

variable {S T : Signature} {σ α β ε ε' : Type} {env : Environment S σ} {s s' : σ}
  {events : List S.Event}

/-- One run of a program: what was asked and answered, the result (`none` if the program halted) and
the state of the environment before and after. -/
inductive Runs (env : Environment S σ) :
    Program S α → σ → List S.Event → Option α → σ → Prop where
  | done (a : α) (s : σ) : Runs env (.done a) s [] (some a) s
  | halt (s : σ) : Runs env .halt s [] none s
  | ask {query : S.Query} {next : S.Answer query → Program S α} {s before after : σ}
      {answer : S.Answer query} {events : List S.Event} {result : Option α}
      (answered : env s query answer before) (rest : Runs env (next answer) before events result after) :
      Runs env (.ask query next) s (⟨query, answer⟩ :: events) result after

/-- The program has runs, and all of them return `a` and leave the state `after`. -/
structure Yields (env : Environment S σ) (p : Program S α) (s : σ) (a : α) (after : σ) : Prop where
  runs : ∃ events, p.Runs env s events (some a) after
  only : ∀ events result s', p.Runs env s events result s' → result = some a ∧ s' = after

theorem Yields.unique {p : Program S α} {s first second : σ} {a b : α} (yields : p.Yields env s a first)
    (again : p.Yields env s b second) : a = b ∧ first = second := by
  obtain ⟨events, run⟩ := yields.runs
  obtain ⟨same, left⟩ := again.only _ _ _ run
  exact ⟨Option.some.inj same, left⟩

/-! ## Inversion -/

@[simp] theorem runs_done {a : α} {result : Option α} :
    (Program.done a).Runs env s events result s' ↔ events = [] ∧ result = some a ∧ s' = s := by
  constructor
  · intro run
    cases run
    exact ⟨rfl, rfl, rfl⟩
  · rintro ⟨rfl, rfl, rfl⟩
    exact .done a _

@[simp] theorem runs_halt {result : Option α} :
    (Program.halt : Program S α).Runs env s events result s' ↔
      events = [] ∧ result = none ∧ s' = s := by
  constructor
  · intro run
    cases run
    exact ⟨rfl, rfl, rfl⟩
  · rintro ⟨rfl, rfl, rfl⟩
    exact .halt _

theorem runs_ask {query : S.Query} {next : S.Answer query → Program S α} {result : Option α} :
    (Program.ask query next).Runs env s events result s' ↔
      ∃ answer between rest, env s query answer between ∧ events = ⟨query, answer⟩ :: rest ∧
        (next answer).Runs env between rest result s' := by
  constructor
  · intro run
    cases run with
    | ask answered rest => exact ⟨_, _, _, answered, rfl, rest⟩
  · rintro ⟨answer, between, rest, answered, rfl, run⟩
    exact .ask answered run

theorem runs_perform {query : S.Query} {result : Option (S.Answer query)} :
    (perform query).Runs env s events result s' ↔
      ∃ answer, env s query answer s' ∧ events = [⟨query, answer⟩] ∧ result = some answer := by
  rw [perform, runs_ask]
  constructor
  · rintro ⟨answer, between, rest, answered, rfl, run⟩
    obtain ⟨rfl, rfl, rfl⟩ := runs_done.mp run
    exact ⟨answer, answered, rfl, rfl⟩
  · rintro ⟨answer, answered, rfl, rfl⟩
    exact ⟨answer, s', [], answered, rfl, runs_done.mpr ⟨rfl, rfl, rfl⟩⟩

/-- A run of a sequence is a run of its first part and, unless that halts, one of its second part. -/
theorem runs_bind {p : Program S α} {f : α → Program S β} {result : Option β} :
    (p >>= f).Runs env s events result s' ↔
      (∃ first a between rest, p.Runs env s first (some a) between ∧
        (f a).Runs env between rest result s' ∧ events = first ++ rest) ∨
      (p.Runs env s events none s' ∧ result = none) := by
  -- by the questions of the first part; each one is asked before and after the parts are joined
  induction p generalizing s events with
  | done a =>
    constructor
    · intro run
      exact .inl ⟨[], a, s, events, .done a s, run, rfl⟩
    · rintro (⟨first, b, between, rest, head, tail, rfl⟩ | ⟨head, rfl⟩)
      · obtain ⟨rfl, same, rfl⟩ := runs_done.mp head
        cases same
        exact tail
      · cases head
  | halt =>
    constructor
    · intro run
      obtain ⟨rfl, rfl, rfl⟩ := runs_halt.mp run
      exact .inr ⟨.halt _, rfl⟩
    · rintro (⟨first, b, between, rest, head, tail, rfl⟩ | ⟨head, rfl⟩)
      · cases head
      · exact runs_halt.mpr ⟨(runs_halt.mp head).1, rfl, (runs_halt.mp head).2.2⟩
  | ask query next ih =>
    rw [ask_bind, runs_ask]
    constructor
    · rintro ⟨answer, between, rest, answered, rfl, run⟩
      rcases (ih answer).mp run with ⟨first, a, middle, last, head, tail, rfl⟩ | ⟨head, rfl⟩
      · exact .inl ⟨_, a, middle, last, .ask answered head, tail, rfl⟩
      · exact .inr ⟨.ask answered head, rfl⟩
    · rintro (⟨first, a, middle, last, head, tail, rfl⟩ | ⟨head, rfl⟩)
      · obtain ⟨answer, between, rest, answered, rfl, run⟩ := runs_ask.mp head
        exact ⟨answer, between, rest ++ last, answered, rfl,
          (ih answer).mpr (.inl ⟨rest, a, middle, last, run, tail, rfl⟩)⟩
      · obtain ⟨answer, between, rest, answered, rfl, run⟩ := runs_ask.mp head
        exact ⟨answer, between, rest, answered, rfl, (ih answer).mpr (.inr ⟨run, rfl⟩)⟩

theorem runs_map {p : Program S α} {f : α → β} {result : Option β} :
    (f <$> p).Runs env s events result s' ↔
      ∃ value, p.Runs env s events value s' ∧ result = value.map f := by
  rw [← bind_pure_comp, runs_bind]
  constructor
  · rintro (⟨first, a, between, rest, head, tail, rfl⟩ | ⟨head, rfl⟩)
    · obtain ⟨rfl, rfl, rfl⟩ := runs_done.mp tail
      exact ⟨some a, by simpa using head, rfl⟩
    · exact ⟨none, head, rfl⟩
  · rintro ⟨value, run, rfl⟩
    cases value with
    | none => exact .inr ⟨run, rfl⟩
    | some a => exact .inl ⟨events, a, s', [], run, .done _ _, by simp⟩

theorem Runs.mono {wider : Environment S σ} {p : Program S α} {result : Option α}
    (run : p.Runs env s events result s')
    (more : ∀ {s query answer s'}, env s query answer s' → wider s query answer s') :
    p.Runs wider s events result s' := by
  induction run with
  | done a => exact .done a _
  | halt => exact .halt _
  | ask answered _ ih => exact .ask (more answered) ih

/-- What a program is answered tells what it returns. -/
theorem Runs.result_unique {τ : Type} {other : Environment S τ} {t t' : τ} {p : Program S α}
    {first second : Option α} (run : p.Runs env s events first s')
    (again : p.Runs other t events second t') : first = second := by
  induction run generalizing t with
  | done a =>
    obtain ⟨_, same, _⟩ := runs_done.mp again
    exact same.symm
  | halt =>
    obtain ⟨_, same, _⟩ := runs_halt.mp again
    exact same.symm
  | ask _ _ ih =>
    obtain ⟨answer, _, rest, _, same, later⟩ := runs_ask.mp again
    cases same
    exact ih later

/-! ## Questions among other questions -/

/-- Each question of one signature as a question of another, with the same answers. -/
structure Part (S T : Signature) where
  query : S.Query → T.Query
  answer : ∀ q, S.Answer q = T.Answer (query q)

namespace Part

def event (part : Part S T) (event : S.Event) : T.Event :=
  ⟨part.query event.1, cast (part.answer event.1) event.2⟩

/-- Asks a question of the one signature as one of the other. -/
def ask (part : Part S T) (q : S.Query) : Program T (S.Answer q) :=
  cast (congrArg (Program T) (part.answer q).symm) (perform (part.query q))

/-- The surroundings as the questions of the one signature see them. -/
def environment (part : Part S T) (env : Environment T σ) : Environment S σ :=
  fun s q answer s' => env s (part.query q) (cast (part.answer q) answer) s'

theorem runs_ask (part : Part S T) {env : Environment T σ} {events : List T.Event} {q : S.Query}
    {result : Option (S.Answer q)} :
    (part.ask q).Runs env s events result s' ↔
      ∃ answer, part.environment env s q answer s' ∧ events = [part.event ⟨q, answer⟩] ∧
        result = some answer := by
  obtain ⟨query, same⟩ := part
  -- the two types of answers are equal but not the same, so the equation is made a variable
  have general : ∀ {A : Type} (h : A = T.Answer (query q)) {result : Option A},
      (cast (congrArg (Program T) h.symm) (perform (query q))).Runs env s events result s' ↔
        ∃ answer : A, env s (query q) (cast h answer) s' ∧ events = [⟨query q, cast h answer⟩] ∧
          result = some answer := by
    rintro A rfl result
    exact runs_perform
  exact general (same q)

/-- A program whose questions are asked of another signature runs as it does on its own. -/
theorem runs_expand (part : Part S T) {env : Environment T σ} {events : List T.Event}
    {p : Program S α} {result : Option α} :
    (p.expand part.ask).Runs env s events result s' ↔
      ∃ own, p.Runs (part.environment env) s own result s' ∧ events = own.map part.event := by
  induction p generalizing s events with
  | done a =>
    simp only [expand, runs_done]
    constructor
    · rintro ⟨rfl, rfl, rfl⟩
      exact ⟨[], ⟨rfl, rfl, rfl⟩, rfl⟩
    · rintro ⟨own, ⟨rfl, rfl, rfl⟩, rfl⟩
      exact ⟨rfl, rfl, rfl⟩
  | halt =>
    simp only [expand, runs_halt]
    constructor
    · rintro ⟨rfl, rfl, rfl⟩
      exact ⟨[], ⟨rfl, rfl, rfl⟩, rfl⟩
    · rintro ⟨own, ⟨rfl, rfl, rfl⟩, rfl⟩
      exact ⟨rfl, rfl, rfl⟩
  | ask q next ih =>
    change (part.ask q >>= fun answer => (next answer).expand part.ask).Runs env s events result s' ↔ _
    rw [runs_bind]
    constructor
    · rintro (⟨first, answer, between, rest, head, tail, rfl⟩ | ⟨head, rfl⟩)
      · obtain ⟨_, answered, rfl, same⟩ := part.runs_ask.mp head
        cases same
        obtain ⟨own, run, rfl⟩ := (ih answer).mp tail
        exact ⟨_ :: own, .ask answered run, rfl⟩
      · obtain ⟨_, _, _, impossible⟩ := part.runs_ask.mp head
        cases impossible
    · rintro ⟨own, run, rfl⟩
      obtain ⟨answer, between, rest, answered, rfl, tail⟩ := Program.runs_ask.mp run
      exact .inl ⟨_, answer, between, _, part.runs_ask.mpr ⟨answer, answered, rfl, rfl⟩,
        (ih answer).mpr ⟨rest, tail, rfl⟩, rfl⟩

end Part

/-! ## Running against a handler -/

/-- The questions and answers of a run against a handler. -/
def trace (handler : (q : S.Query) → σ → S.Answer q × σ) : Program S α → σ → List S.Event
  | .done _, _ => []
  | .ask q next, s => ⟨q, (handler q s).1⟩ :: (next (handler q s).1).trace handler (handler q s).2
  | .halt, _ => []

/-- Whether a program, run against a handler, asks only what is allowed. -/
def asksOnly (allowed : S.Query → σ → Bool) (handler : (q : S.Query) → σ → S.Answer q × σ) :
    Program S α → σ → Bool
  | .done _, _ => true
  | .ask q next, s => allowed q s && (next (handler q s).1).asksOnly allowed handler (handler q s).2
  | .halt, _ => true

/-- Running a program against a handler is a run of it, where what is asked may be answered as the handler
does. -/
theorem runs_asksOnly {allowed : S.Query → σ → Bool} {handler : (q : S.Query) → σ → S.Answer q × σ}
    (answered : ∀ q s, allowed q s = true → env s q (handler q s).1 (handler q s).2) (p : Program S α) (s : σ)
    (asks : p.asksOnly allowed handler s = true) :
    p.Runs env s (p.trace handler s) (p.run handler s).1 (p.run handler s).2 := by
  induction p generalizing s with
  | done a => exact .done a s
  | halt => exact .halt s
  | ask query next ih =>
    rw [asksOnly, Bool.and_eq_true] at asks
    exact .ask (answered query s asks.1) (ih _ _ asks.2)

/-- The same where everything may be answered as the handler does. -/
theorem runs_run {handler : (q : S.Query) → σ → S.Answer q × σ}
    (answered : ∀ s q, env s q (handler q s).1 (handler q s).2) (p : Program S α) (s : σ) :
    p.Runs env s (p.trace handler s) (p.run handler s).1 (p.run handler s).2 := by
  have asks : p.asksOnly (fun _ _ => true) handler s = true := by
    induction p generalizing s with
    | done a => rfl
    | halt => rfl
    | ask query next ih => exact ih _ _
  exact runs_asksOnly (fun q s _ => answered s q) p s asks

end Program

/-! ## Attempts -/

namespace Attempt

variable {S : Signature} {σ α β ε ε' : Type} {env : Environment S σ} {s s' : σ}
  {events : List S.Event}

theorem runs_pure {a : α} {result : Option (Except ε α)} :
    (pure a : Attempt S ε α).run.Runs env s events result s' ↔
      events = [] ∧ result = some (.ok a) ∧ s' = s :=
  Program.runs_done

theorem runs_throw {e : ε} {result : Option (Except ε α)} :
    (throw e : Attempt S ε α).run.Runs env s events result s' ↔
      events = [] ∧ result = some (.error e) ∧ s' = s :=
  Program.runs_done

/-- A run of a sequence of attempts is a run of the first one and, if that succeeds, one of the
second one. -/
theorem runs_bind {p : Attempt S ε α} {f : α → Attempt S ε β} {result : Option (Except ε β)} :
    (p >>= f).run.Runs env s events result s' ↔
      (∃ first a between rest, p.run.Runs env s first (some (.ok a)) between ∧
        (f a).run.Runs env between rest result s' ∧ events = first ++ rest) ∨
      (∃ e, p.run.Runs env s events (some (.error e)) s' ∧ result = some (.error e)) ∨
      (p.run.Runs env s events none s' ∧ result = none) := by
  rw [ExceptT.run_bind, Program.runs_bind]
  constructor
  · rintro (⟨first, value, between, rest, head, tail, rfl⟩ | halted)
    · cases value with
      | ok a => exact .inl ⟨first, a, between, rest, head, tail, rfl⟩
      | error e =>
        obtain ⟨rfl, rfl, rfl⟩ := Program.runs_done.mp tail
        exact .inr (.inl ⟨e, by simpa using head, rfl⟩)
    · exact .inr (.inr halted)
  · rintro (⟨first, a, between, rest, head, tail, rfl⟩ | ⟨e, head, rfl⟩ | halted)
    · exact .inl ⟨first, .ok a, between, rest, head, tail, rfl⟩
    · exact .inl ⟨events, .error e, s', [], head, .done _ _, by simp⟩
    · exact .inr halted

/-- A sequence succeeds in two parts that succeed. -/
theorem runs_bind_ok {p : Attempt S ε α} {f : α → Attempt S ε β} {b : β} :
    (p >>= f).run.Runs env s events (some (.ok b)) s' ↔
      ∃ first a between rest, p.run.Runs env s first (some (.ok a)) between ∧
        (f a).run.Runs env between rest (some (.ok b)) s' ∧ events = first ++ rest := by
  rw [runs_bind]
  simp

theorem runs_lift {p : Program S α} {result : Option (Except ε α)} :
    (ExceptT.lift p : Attempt S ε α).run.Runs env s events result s' ↔
      ∃ value, p.Runs env s events value s' ∧ result = value.map .ok :=
  Program.runs_map

/-- A run of an attempt that begins with a program that cannot fail. -/
theorem runs_lift_bind {p : Program S α} {f : α → Attempt S ε β} {result : Option (Except ε β)} :
    ((liftM p : Attempt S ε α) >>= f).run.Runs env s events result s' ↔
      (∃ first a between rest, p.Runs env s first (some a) between ∧
        (f a).run.Runs env between rest result s' ∧ events = first ++ rest) ∨
      (p.Runs env s events none s' ∧ result = none) := by
  change ((ExceptT.lift p : Attempt S ε α) >>= f).run.Runs env s events result s' ↔ _
  rw [ExceptT.run_bind_lift]
  exact Program.runs_bind

/-- A run that goes on with what comes of an attempt. -/
theorem runs_outcome_bind {p : Attempt S ε α} {f : Except ε α → Attempt S ε' β}
    {result : Option (Except ε' β)} :
    ((Attempt.outcome p : Attempt S ε' (Except ε α)) >>= f).run.Runs env s events result s' ↔
      (∃ first value between rest, p.run.Runs env s first (some value) between ∧
        (f value).run.Runs env between rest result s' ∧ events = first ++ rest) ∨
      (p.run.Runs env s events none s' ∧ result = none) :=
  runs_lift_bind (p := p.run)

end Attempt

end CloudBalance
