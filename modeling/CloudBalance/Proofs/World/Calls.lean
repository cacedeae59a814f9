import CloudBalance.Proofs.Ensures
import CloudBalance.Proofs.Scope
import CloudBalance.World

/-!
# What is asked of the outside

Of all that happens in a run, the calls are the runs of the tool, the requests and the look-ups; the log, the
screen and the files are left out. `World.recording` is an environment that answers anything and writes the
calls down. Main statements: a run anywhere is a run there, and what a program ensures there says which calls
its runs make.
-/

namespace CloudBalance.World

open Net (Address HttpRequest Resolution)

/-- A question to the outside. -/
def IsCall : World.Query → Prop
  | .tool _ | .hasTool | .send _ | .resolve _ | .sleep _ => True
  | .print _ | .printError _ | .here _ => False

instance : DecidablePred IsCall
  | .tool _ | .hasTool | .send _ | .resolve _ | .sleep _ => isTrue trivial
  | .print _ | .printError _ | .here _ => isFalse not_false

/-- The calls among the events of a run. -/
def calls (events : List World.Event) : List World.Event :=
  events.filter fun event => IsCall event.1

@[simp] theorem calls_nil : calls [] = [] := rfl

@[simp] theorem calls_append (first rest : List World.Event) :
    calls (first ++ rest) = calls first ++ calls rest :=
  List.filter_append _ _

theorem mem_calls {event : World.Event} {events : List World.Event} :
    event ∈ calls events ↔ event ∈ events ∧ IsCall event.1 := by
  simp [calls]

/-! ## Recording -/

/-- The surroundings that may answer anything and write down the calls. -/
def recording : Environment World (List World.Event) :=
  fun before query answer after => after = before ++ calls [⟨query, answer⟩]

theorem runs_recording {σ α : Type} {env : Environment World σ} {s s' : σ} {events : List World.Event}
    {p : Program World α} {result : Option α} (run : p.Runs env s events result s')
    (before : List World.Event) : p.Runs recording before events result (before ++ calls events) := by
  induction run generalizing before with
  | done a => simp
  | halt => simp
  | @ask query next _ _ _ answer events _ _ _ ih =>
    -- the calls of the first event stand before those of the rest
    have later := ih (before ++ calls [⟨query, answer⟩])
    rw [List.append_assoc, ← calls_append] at later
    exact .ask rfl later

theorem calls_of_recording {α : Type} {before after events : List World.Event} {p : Program World α}
    {result : Option α} (run : p.Runs recording before events result after) :
    after = before ++ calls events := by
  induction run with
  | done | halt => simp
  | @ask query _ before _ _ answer events _ answered _ ih =>
    rw [ih, answered, List.append_assoc, ← calls_append, List.singleton_append]

variable {α : Type} {s : List World.Event}

theorem ensures_call {query : World.Query} {post : World.Answer query → List World.Event → Prop}
    (called : IsCall query) :
    (Program.perform (S := World) query).Ensures recording s post ↔
      ∀ answer, post answer (s ++ [⟨query, answer⟩]) := by
  have noted : ∀ answer, calls [⟨query, answer⟩] = [⟨query, answer⟩] := by
    intro answer
    simp [calls, called]
  rw [Program.ensures_perform]
  constructor
  · intro each answer
    exact each answer _ (by rw [recording, noted])
  · rintro each answer _ rfl
    rw [noted]
    exact each answer

@[simp] theorem ensures_note {level : Log.Level} {topic : Log.Topic} {message : String}
    {post : Unit → List World.Event → Prop} :
    (note level topic message).Ensures recording s post ↔ post () s := by
  have silent : calls [⟨.here (.log ⟨level, topic, message⟩), ()⟩] = [] := rfl
  rw [note, Program.ensures_perform]
  constructor
  · intro each
    exact each () s (by rw [recording, silent, List.append_nil])
  · rintro here _ _ rfl
    rwa [silent, List.append_nil]

@[simp] theorem ensures_tool {arguments : List String} {post : ToolRun → List World.Event → Prop} :
    (tool arguments).Ensures recording s post ↔ ∀ answer, post answer (s ++ [⟨.tool arguments, answer⟩]) :=
  ensures_call trivial

@[simp] theorem ensures_send {request : HttpRequest}
    {post : Except String ByteArray → List World.Event → Prop} :
    (send request).Ensures recording s post ↔ ∀ answer, post answer (s ++ [⟨.send request, answer⟩]) :=
  ensures_call trivial

@[simp] theorem ensures_resolve {host : String} {post : Resolution → List World.Event → Prop} :
    (resolve host).Ensures recording s post ↔ ∀ answer, post answer (s ++ [⟨.resolve host, answer⟩]) :=
  ensures_call trivial

/-- What a program ensures where the calls are recorded holds of every run that returns. -/
theorem ensured_of_runs {σ : Type} {env : Environment World σ} {s s' : σ} {events : List World.Event}
    {p : Program World α} {a : α} {post : α → List World.Event → Prop}
    (ensured : p.Ensures recording [] post) (run : p.Runs env s events (some a) s') :
    post a (calls events) :=
  ensured _ _ _ (runs_recording run [])

/-- There is a run with this result and these calls unless all runs ensure the opposite. -/
theorem exists_run_of_possible {p : Program World α} {a : α} {asked : List World.Event}
    (possible : ¬ p.Ensures recording [] fun b after => ¬ (b = a ∧ after = asked)) :
    ∃ events, p.Runs recording [] events (some a) (calls events) ∧ calls events = asked := by
  obtain ⟨events, _, after, run, rfl, rfl⟩ := Program.exists_run possible
  obtain rfl : after = calls events := calls_of_recording run
  exact ⟨events, run, rfl⟩

/-! ## Choosing by asking -/

/-- Items are checked one after another, and those that pass are chosen. A check is known by a trial, which
says which item was tried, what was asked for that, and whether the item passed. -/
theorem ensures_filterM {τ : Type} {item : τ → α} {asked : τ → List World.Event} {passes : τ → Bool}
    {check : α → Program World Bool} {items : List α}
    (each : ∀ a s, (check a).Ensures recording s fun passed after =>
      ∃ trial, item trial = a ∧ after = s ++ asked trial ∧ passed = passes trial) :
    (items.filterM check).Ensures recording s fun chosen after =>
      ∃ trials : List τ, trials.map item = items ∧ after = s ++ trials.flatMap asked ∧
        chosen = (trials.filter passes).map item := by
  -- the items that were chosen so far are collected in reverse
  have collected : ∀ sofar s, (items.filterAuxM check sofar).Ensures recording s fun chosen after =>
      ∃ trials : List τ, trials.map item = items ∧ after = s ++ trials.flatMap asked ∧
        chosen = ((trials.filter passes).map item).reverse ++ sofar := by
    induction items with
    | nil => exact fun sofar s => Program.ensures_done.mpr ⟨[], rfl, by simp, by simp⟩
    | cons a items ih =>
      intro sofar s
      rw [List.filterAuxM, Program.ensures_bind]
      refine (each a s).mono ?_
      rintro _ _ ⟨trial, rfl, rfl, rfl⟩
      refine (ih _ _).mono ?_
      rintro _ _ ⟨trials, rfl, rfl, rfl⟩
      refine ⟨trial :: trials, rfl, by simp, ?_⟩
      cases passed : passes trial with
      | true => simp [passed]
      | false => simp [passed]
  rw [List.filterM, Program.ensures_bind]
  refine (collected [] s).mono ?_
  rintro _ _ ⟨trials, listed, asked, rfl⟩
  exact Program.ensures_done.mpr ⟨trials, listed, asked, by simp⟩

theorem mem_of_chosen {τ : Type} {item : τ → α} {passes : τ → Bool} {keep : α → Bool} {items : List α}
    {trials : List τ} (tried : trials.map item = items.filter keep) {a : α}
    (chosen : a ∈ (trials.filter passes).map item) : a ∈ items ∧ keep a = true := by
  have among : a ∈ trials.map item := List.map_subset item List.filter_sublist.subset chosen
  rw [tried] at among
  exact List.mem_filter.mp among

/-! ## Programs that leave the machine alone -/

/-- The calls and the log. -/
def abroad : Program.Scope World where
  asks
    | .here (.log _) => True
    | query => IsCall query
  halts := False

theorem within_note {ε : Type} {level : Log.Level} {topic : Log.Topic} {message : String} :
    (liftM (note level topic message) : Attempt World ε Unit).run.Within abroad :=
  Attempt.within_lift (Program.within_perform.mpr trivial)

/-- Whether a resolution leads to an address. -/
def leadsTo (address : Address) : Resolution → Bool
  | .ok addresses => addresses.contains address
  | .error _ => false

end CloudBalance.World
