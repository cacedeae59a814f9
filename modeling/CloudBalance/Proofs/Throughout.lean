import CloudBalance.Proofs.Ensures

/-!
# What holds throughout a run

A run may break off between two questions, and others may look at the surroundings meanwhile. A condition
holds throughout if it holds of the surroundings before each question that is asked and at the end. Main
statements: a sequence is followed part by part, as for what holds at the end alone, and what holds throughout
holds in every state that a run reaches.
-/

namespace CloudBalance

namespace Program

variable {S : Signature} {σ α β : Type} {env : Environment S σ} {inv : σ → Prop} {s : σ}

/-- Whatever is answered, the state is as `inv` says before each question and at the end, and if the program
returns, it does so as `post` says. -/
def Throughout (env : Environment S σ) (inv : σ → Prop) : Program S α → σ → (α → σ → Prop) → Prop
  | .done a, s, post => inv s ∧ post a s
  | .ask query next, s, post =>
    inv s ∧ ∀ answer s', env s query answer s' → (next answer).Throughout env inv s' post
  | .halt, s, _ => inv s

theorem Throughout.here {p : Program S α} {post : α → σ → Prop} (throughout : p.Throughout env inv s post) :
    inv s := by
  cases p with
  | done | ask => exact throughout.1
  | halt => exact throughout

theorem Throughout.mono {p : Program S α} {weak strong : α → σ → Prop}
    (throughout : p.Throughout env inv s strong) (weaker : ∀ a s', inv s' → strong a s' → weak a s') :
    p.Throughout env inv s weak := by
  induction p generalizing s with
  | done a => exact ⟨throughout.1, weaker a s throughout.1 throughout.2⟩
  | halt => exact throughout
  | ask query next ih =>
    exact ⟨throughout.1, fun answer s' answered => ih answer (throughout.2 answer s' answered)⟩

/-- What holds throughout where more may happen holds throughout where less may. -/
theorem Throughout.narrow {wider : Environment S σ} {p : Program S α} {post : α → σ → Prop}
    (throughout : p.Throughout wider inv s post)
    (more : ∀ {s query answer s'}, env s query answer s' → wider s query answer s') :
    p.Throughout env inv s post := by
  induction p generalizing s with
  | done | halt => exact throughout
  | ask query next ih =>
    exact ⟨throughout.1, fun answer s' answered => ih answer (throughout.2 answer s' (more answered))⟩

@[simp] theorem throughout_done {a : α} {post : α → σ → Prop} :
    (Program.done a : Program S α).Throughout env inv s post ↔ inv s ∧ post a s :=
  Iff.rfl

@[simp] theorem throughout_bind {p : Program S α} {f : α → Program S β} {post : β → σ → Prop} :
    (p >>= f).Throughout env inv s post ↔
      p.Throughout env inv s fun a s' => (f a).Throughout env inv s' post := by
  induction p generalizing s with
  | done a => exact ⟨fun rest => ⟨rest.here, rest⟩, fun first => first.2⟩
  | halt => exact Iff.rfl
  | ask query next ih => exact and_congr_right fun _ => forall₃_congr fun answer _ _ => ih answer

@[simp] theorem throughout_map {p : Program S α} {f : α → β} {post : β → σ → Prop} :
    (f <$> p).Throughout env inv s post ↔ p.Throughout env inv s fun a => post (f a) := by
  rw [← bind_pure_comp, throughout_bind]
  constructor
  · exact fun throughout => throughout.mono fun _ _ _ holds => holds.2
  · exact fun throughout => throughout.mono fun _ _ here holds => ⟨here, holds⟩

/-! ## States of a run -/

/-- A run of the program comes to the state, before one of its questions or at its end. -/
inductive Reaches (env : Environment S σ) : Program S α → σ → σ → Prop where
  | here (p : Program S α) (s : σ) : Reaches env p s s
  | next {query : S.Query} {next : S.Answer query → Program S α} {s between s' : σ} {answer : S.Answer query}
      (answered : env s query answer between) (rest : Reaches env (next answer) between s') :
      Reaches env (.ask query next) s s'

/-- What holds throughout holds in all states that are reached, and in no others is it asked for. -/
theorem throughout_iff {p : Program S α} {post : α → σ → Prop} :
    p.Throughout env inv s post ↔ (∀ s', p.Reaches env s s' → inv s') ∧ p.Ensures env s post := by
  induction p generalizing s with
  | done a =>
    rw [throughout_done, ensures_done]
    refine and_congr_left fun _ => ⟨fun here s' reached => ?_, fun each => each s (.here _ s)⟩
    cases reached
    exact here
  | halt =>
    refine ⟨fun here => ⟨fun s' reached => ?_, ?_⟩, fun both => both.1 s (.here _ s)⟩
    · cases reached
      exact here
    · intro events a s' run
      cases run
  | ask query next ih =>
    constructor
    · rintro ⟨here, later⟩
      constructor
      · intro s' reached
        cases reached with
        | here => exact here
        | next answered rest => exact (ih _).mp (later _ _ answered) |>.1 s' rest
      · intro events a s' run
        cases run with
        | ask answered rest => exact (ih _).mp (later _ _ answered) |>.2 _ a s' rest
    · rintro ⟨each, ensured⟩
      refine ⟨each s (.here _ s), fun answer between answered => (ih answer).mpr ⟨?_, ?_⟩⟩
      · exact fun s' rest => each s' (.next answered rest)
      · exact fun events a s' run => ensured _ a s' (.ask answered run)

theorem Throughout.weaken {weaker : σ → Prop} {p : Program S α} {post : α → σ → Prop}
    (throughout : p.Throughout env inv s post) (weaken : ∀ s', inv s' → weaker s') :
    p.Throughout env weaker s post := by
  obtain ⟨each, ensured⟩ := throughout_iff.mp throughout
  exact throughout_iff.mpr ⟨fun s' reached => weaken s' (each s' reached), ensured⟩

/-- What holds throughout holds at the end as well. -/
theorem Throughout.ensures {p : Program S α} {post : α → σ → Prop} (throughout : p.Throughout env inv s post) :
    p.Ensures env s fun a s' => inv s' ∧ post a s' :=
  (throughout_iff.mp (throughout.mono fun _ _ here holds => ⟨here, holds⟩)).2

theorem Reaches.mono {wider : Environment S σ} {p : Program S α} {s' : σ}
    (more : ∀ {s query answer s'}, env s query answer s' → wider s query answer s')
    (reached : p.Reaches env s s') : p.Reaches wider s s' := by
  induction reached with
  | here p s => exact .here p s
  | next answered _ ih => exact .next (more answered) ih

/-- What the first part of a sequence reaches the sequence reaches. -/
theorem Reaches.bind_left {p : Program S α} {s' : σ} (reached : p.Reaches env s s') (f : α → Program S β) :
    (p >>= f).Reaches env s s' := by
  induction reached with
  | here p s => exact .here _ s
  | next answered _ ih => exact .next answered ih

/-- What the second part of a sequence reaches after a run of the first one. -/
theorem Reaches.bind {p : Program S α} {f : α → Program S β} {events : List S.Event} {a : α} {between s' : σ}
    (run : p.Runs env s events (some a) between) (later : (f a).Reaches env between s') :
    (p >>= f).Reaches env s s' := by
  induction p generalizing s events with
  | done b =>
    obtain ⟨_, same, rfl⟩ := runs_done.mp run
    cases same
    exact later
  | halt => cases run
  | ask query next ih =>
    cases run with
    | ask answered rest => exact .next answered (ih _ rest)

end Program

/-! ## Attempts -/

namespace Attempt

variable {S : Signature} {σ α β ε ε' : Type} {env : Environment S σ} {inv : σ → Prop} {s : σ}

@[simp] theorem throughout_bind {p : Attempt S ε α} {f : α → Attempt S ε β} {post : Except ε β → σ → Prop} :
    (p >>= f).run.Throughout env inv s post ↔ p.run.Throughout env inv s fun result s' =>
      match result with
      | .ok a => (f a).run.Throughout env inv s' post
      | .error e => post (.error e) s' := by
  rw [ExceptT.run_bind, Program.throughout_bind]
  constructor
  · intro throughout
    refine throughout.mono fun result s' _ holds => ?_
    cases result with
    | ok a => exact holds
    | error e => exact holds.2
  · intro throughout
    refine throughout.mono fun result s' here holds => ?_
    cases result with
    | ok a => exact holds
    | error e => exact ⟨here, holds⟩

@[simp] theorem throughout_lift {p : Program S α} {post : Except ε α → σ → Prop} :
    (liftM p : Attempt S ε α).run.Throughout env inv s post ↔
      p.Throughout env inv s fun a => post (.ok a) :=
  Program.throughout_map

@[simp] theorem throughout_attempt {p : Program S (Except ε α)} {wrap : ε → ε'}
    {post : Except ε' α → σ → Prop} :
    (p.attempt wrap).run.Throughout env inv s post ↔
      p.Throughout env inv s fun result => post (result.mapError wrap) :=
  Program.throughout_map

theorem reaches_bind {p : Attempt S ε α} {f : α → Attempt S ε β} {events : List S.Event} {a : α} {between s' : σ}
    (run : p.run.Runs env s events (some (.ok a)) between) (later : (f a).run.Reaches env between s') :
    (p >>= f).run.Reaches env s s' := by
  rw [ExceptT.run_bind]
  exact .bind run later

/-- What is reached within an attempt with which a sequence begins. -/
theorem reaches_attempt_bind {p : Program S (Except ε α)} {wrap : ε → ε'} {s' : σ} (reached : p.Reaches env s s')
    (f : α → Attempt S ε' β) : (p.attempt wrap >>= f).run.Reaches env s s' := by
  rw [ExceptT.run_bind]
  exact (reached.bind_left _).bind_left _

end Attempt

end CloudBalance
