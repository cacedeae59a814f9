import CloudBalance.Proofs.Throughout
import Mathlib.Logic.Function.Basic

/-!
# Programs side by side

Several programs may ask the same surroundings, one question at a time and in any order of turns. What comes
of that is a program again, whose questions say who asks them. Main statement: a program that does its part
whenever it is answered as it relies on does so among others, if what all of them ask keeps the surroundings
such that they answer so.
-/

namespace CloudBalance

variable {S : Signature} {ι σ α : Type} {env : Environment S σ}

/-- The questions of a signature, each asked by somebody. -/
abbrev Signature.labelled (S : Signature) (ι : Type) : Signature where
  Query := ι × S.Query
  Answer query := S.Answer query.2

/-- The surroundings do not mind who asks. -/
def Environment.labelled (env : Environment S σ) : Environment (S.labelled ι) σ :=
  fun s query answer s' => env s query.2 answer s'

namespace Program

/-- What a program returns that has nothing more to ask. -/
def result? : Program S α → Option α
  | .done a => some a
  | _ => none

theorem result?_eq_some {p : Program S α} {a : α} : p.result? = some a ↔ p = .done a := by
  cases p <;> simp [result?]

section
variable [DecidableEq ι]

/-- At each turn somebody asks his next question, if he has one. At the end some of the programs have
returned. -/
def weave : List ι → (ι → Program S α) → Program (S.labelled ι) (ι → Option α)
  | [], programs => .done fun i => (programs i).result?
  | i :: turns, programs =>
    match programs i with
    | .ask query next => .ask (i, query) fun answer => weave turns (Function.update programs i (next answer))
    | _ => weave turns programs

/-- What somebody asked, and what he was answered. -/
def own (i : ι) (events : List (S.labelled ι).Event) : List S.Event :=
  events.filterMap fun event => if event.1.1 = i then some ⟨event.1.2, event.2⟩ else none

theorem own_append (i : ι) (first rest : List (S.labelled ι).Event) :
    own i (first ++ rest) = own i first ++ own i rest :=
  List.filterMap_append

theorem own_self (i : ι) (query : S.Query) (answer : S.Answer query) :
    own i [(⟨(i, query), answer⟩ : (S.labelled ι).Event)] = [⟨query, answer⟩] := by
  simp [own]

theorem own_other {i j : ι} (differs : j ≠ i) (query : S.Query) (answer : S.Answer query) :
    own i [(⟨(j, query), answer⟩ : (S.labelled ι).Event)] = [] := by
  simp [own, differs]

theorem mem_own {i : ι} {query : S.Query} {answer : S.Answer query} {events : List (S.labelled ι).Event} :
    ⟨query, answer⟩ ∈ own i events ↔ ⟨(i, query), answer⟩ ∈ events := by
  rw [own, List.mem_filterMap]
  constructor
  · rintro ⟨⟨⟨j, asked⟩, answered⟩, member, chosen⟩
    rw [Option.ite_none_right_eq_some] at chosen
    obtain ⟨same, event⟩ := chosen
    dsimp only at same
    subst same
    cases event
    exact member
  · exact fun member => ⟨_, member, if_pos rfl⟩

end

/-! ## Running against a handler -/

/-- A handler that does not mind who asks. -/
def handleAny (handler : (query : S.Query) → σ → S.Answer query × σ) (query : (S.labelled ι).Query) (s : σ) :
    (S.labelled ι).Answer query × σ :=
  handler query.2 s

/-- What may be asked, whoever asks. -/
def mayAny (may : S.Query → σ → Bool) (query : (S.labelled ι).Query) (s : σ) : Bool :=
  may query.2 s

/-- Programs that run side by side against a handler, where what may be asked may be answered as it does. -/
theorem exists_run_handleAny {may : S.Query → σ → Bool} {handler : (query : S.Query) → σ → S.Answer query × σ}
    (answered : ∀ query s, may query s = true → env s query (handler query s).1 (handler query s).2) {β : Type}
    {p : Program (S.labelled ι) β} {s : σ} {b : β} (done : p.asksOnly (mayAny may) (handleAny handler) s = true)
    (ended : (p.run (handleAny handler) s).1 = some b) : ∃ events s', p.Runs env.labelled s events (some b) s' := by
  have answers : ∀ (query : (S.labelled ι).Query) (s : σ), mayAny may query s = true →
      env.labelled s query (handleAny handler query s).1 (handleAny handler query s).2 :=
    fun query s => answered query.2 s
  have run := runs_asksOnly answers p s done
  rw [ended] at run
  exact ⟨_, _, run⟩

/-! ## Keeping to a protocol -/

/-- The surroundings that answer in any way that is relied on, and write down what happened. -/
def witnessing (rely : (query : S.Query) → S.Answer query → Prop) : Environment S (List S.Event) :=
  fun past query answer after => rely query answer ∧ after = past ++ [⟨query, answer⟩]

/-- Nothing else was asked than what may be. -/
def OnlyAsked (allowed : S.Query → Prop) (asked : List S.Event) : Prop :=
  ∀ event ∈ asked, allowed event.1

theorem onlyAsked_nil {allowed : S.Query → Prop} : OnlyAsked allowed [] :=
  List.forall_mem_nil _

theorem onlyAsked_append {allowed : S.Query → Prop} {past : List S.Event} {query : S.Query}
    {answer : S.Answer query} :
    OnlyAsked allowed (past ++ [⟨query, answer⟩]) ↔ OnlyAsked allowed past ∧ allowed query := by
  rw [OnlyAsked, List.forall_mem_append, List.forall_mem_singleton]
  rfl

/-- A program that asks only what it may, as long as it is answered as it relies on. -/
abbrev Abides (rely : (query : S.Query) → S.Answer query → Prop) (allowed : S.Query → Prop) (p : Program S α)
    (past : List S.Event) (post : α → List S.Event → Prop) : Prop :=
  p.Throughout (witnessing rely) (OnlyAsked allowed) past post

theorem abides_perform {rely : (query : S.Query) → S.Answer query → Prop} {allowed : S.Query → Prop}
    {query : S.Query} {past : List S.Event} {post : S.Answer query → List S.Event → Prop} (may : allowed query)
    (clean : OnlyAsked allowed past)
    (next : ∀ answer, rely query answer → OnlyAsked allowed (past ++ [⟨query, answer⟩]) →
      post answer (past ++ [⟨query, answer⟩])) : (perform query).Abides rely allowed past post := by
  refine ⟨clean, ?_⟩
  rintro answer _ ⟨relied, rfl⟩
  have still : OnlyAsked allowed (past ++ [⟨query, answer⟩]) := onlyAsked_append.mpr ⟨clean, may⟩
  exact ⟨still, next answer relied still⟩

/-- What is shared tells everybody what he relies on, and stays so while everybody asks what he may. -/
structure Protocol (env : Environment S σ) (rely : (query : S.Query) → S.Answer query → Prop)
    (allowed : S.Query → Prop) (shared : List (S.labelled ι).Event → σ → Prop) : Prop where
  told : ∀ {past s query answer s'}, shared past s → env s query answer s' → rely query answer
  kept : ∀ {past s query answer s'} (i : ι), shared past s → allowed query → env s query answer s' →
    shared (past ++ [⟨(i, query), answer⟩]) s'

variable [DecidableEq ι] {rely : (query : S.Query) → S.Answer query → Prop}
  {allowed : S.Query → Prop} {shared : List (S.labelled ι).Event → σ → Prop}

/-- Programs that keep to a protocol do so side by side, and each of them does there what it does alone. -/
theorem Protocol.runs_weave (protocol : Protocol env rely allowed shared) {turns : List ι}
    {programs : ι → Program S α} {post : ι → α → List S.Event → Prop} {past events : List (S.labelled ι).Event}
    {s s' : σ} {results : ι → Option α} (start : shared past s)
    (each : ∀ i, (programs i).Abides rely allowed (own i past) (post i))
    (run : (weave turns programs).Runs env.labelled s events (some results) s') :
    shared (past ++ events) s' ∧ ∀ i a, results i = some a → post i a (own i (past ++ events)) := by
  -- on the turns, for what happened so far and for what is left of the programs
  induction turns generalizing programs past s events with
  | nil =>
    obtain ⟨rfl, same, rfl⟩ := runs_done.mp run
    cases same
    rw [List.append_nil]
    refine ⟨start, fun i a returned => ?_⟩
    have here := each i
    rw [result?_eq_some.mp returned] at here
    exact here.2
  | cons i turns ih =>
    rw [weave] at run
    cases asks : programs i with
    | done | halt =>
      rw [asks] at run
      exact ih start each run
    | ask query next =>
      rw [asks] at run
      obtain ⟨answer, between, rest, answered, rfl, later⟩ := runs_ask.mp run
      have mine := each i
      rw [asks] at mine
      have next := mine.2 answer _ ⟨protocol.told start answered, rfl⟩
      have may : allowed query := (onlyAsked_append.mp next.here).2
      rw [← List.singleton_append, ← List.append_assoc]
      refine ih (protocol.kept i start may answered) (fun j => ?_) later
      rw [own_append]
      by_cases same : j = i
      · subst same
        rw [Function.update_self, own_self]
        exact next
      · rw [Function.update_of_ne same, own_other (Ne.symm same), List.append_nil]
        exact each j

end Program

end CloudBalance
