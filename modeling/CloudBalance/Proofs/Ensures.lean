import CloudBalance.Proofs.Runs

/-!
# What the runs of a program ensure

A condition on the result of a program and on the state in which it leaves its environment is ensured
if it holds after every run that returns. Main statements: what a sequence ensures is what its first part
ensures of the state in which the second one ensures it, for programs and for attempts, so that a program
is followed question by question by rewriting.
-/

namespace CloudBalance

namespace Program

variable {S : Signature} {σ α β : Type} {env : Environment S σ} {s : σ}

/-- Every run that returns does so with a result and in a state that are as `post` says. -/
def Ensures (env : Environment S σ) (p : Program S α) (s : σ) (post : α → σ → Prop) : Prop :=
  ∀ events a s', p.Runs env s events (some a) s' → post a s'

theorem Ensures.mono {p : Program S α} {weak strong : α → σ → Prop} (ensured : p.Ensures env s strong)
    (weaker : ∀ a s', strong a s' → weak a s') : p.Ensures env s weak :=
  fun events a s' run => weaker a s' (ensured events a s' run)

/-- What is ensured where more may happen is ensured where less may. -/
theorem Ensures.narrow {wider : Environment S σ} {p : Program S α} {post : α → σ → Prop}
    (ensured : p.Ensures wider s post)
    (more : ∀ {s query answer s'}, env s query answer s' → wider s query answer s') : p.Ensures env s post :=
  fun events a s' run => ensured events a s' (run.mono more)

theorem ensures_any {p : Program S α} : p.Ensures env s fun _ _ => True :=
  fun _ _ _ _ => trivial

/-- There is a run that returns as wanted unless all runs ensure the opposite. -/
theorem exists_run {p : Program S α} {wanted : α → σ → Prop}
    (possible : ¬ p.Ensures env s fun a s' => ¬ wanted a s') :
    ∃ events a s', p.Runs env s events (some a) s' ∧ wanted a s' := by
  simpa [Ensures] using possible

@[simp] theorem ensures_done {a : α} {post : α → σ → Prop} :
    (Program.done a : Program S α).Ensures env s post ↔ post a s := by
  constructor
  · intro ensured
    exact ensured [] a s (.done a s)
  · intro here events result s' run
    obtain ⟨_, same, rfl⟩ := runs_done.mp run
    cases same
    exact here

theorem ensures_perform {q : S.Query} {post : S.Answer q → σ → Prop} :
    (perform q).Ensures env s post ↔ ∀ answer s', env s q answer s' → post answer s' := by
  constructor
  · intro ensured answer s' answered
    exact ensured _ answer s' (runs_perform.mpr ⟨answer, answered, rfl, rfl⟩)
  · intro each events a s' run
    obtain ⟨_, answered, _, same⟩ := runs_perform.mp run
    cases same
    exact each _ _ answered

@[simp] theorem ensures_bind {p : Program S α} {f : α → Program S β} {post : β → σ → Prop} :
    (p >>= f).Ensures env s post ↔ p.Ensures env s fun a s' => (f a).Ensures env s' post := by
  constructor
  · intro ensured first a between head rest b s' tail
    exact ensured _ b s' (runs_bind.mpr (.inl ⟨first, a, between, rest, head, tail, rfl⟩))
  · intro ensured events b s' run
    rcases runs_bind.mp run with ⟨first, a, between, rest, head, tail, rfl⟩ | ⟨_, impossible⟩
    · exact ensured first a between head rest b s' tail
    · cases impossible

@[simp] theorem ensures_map {p : Program S α} {f : α → β} {post : β → σ → Prop} :
    (f <$> p).Ensures env s post ↔ p.Ensures env s fun a => post (f a) := by
  rw [← bind_pure_comp, ensures_bind]
  exact forall₄_congr fun _ _ _ _ => ensures_done

/-! ## What is kept -/

/-- Whatever the program is answered, `inv` holds after it if it held before. -/
def Keeps (env : Environment S σ) (inv : σ → Prop) (p : Program S α) : Prop :=
  ∀ s, inv s → p.Ensures env s fun _ s' => inv s'

variable {inv : σ → Prop} {p : Program S α}

theorem Keeps.done (a : α) : (Program.done a : Program S α).Keeps env inv :=
  fun _ here => ensures_done.mpr here

theorem Keeps.bind {f : α → Program S β} (first : p.Keeps env inv) (next : ∀ a, (f a).Keeps env inv) :
    (p >>= f).Keeps env inv :=
  fun s here => ensures_bind.mpr ((first s here).mono fun a s' here => next a s' here)

theorem Keeps.map (keeps : p.Keeps env inv) (f : α → β) : (f <$> p).Keeps env inv :=
  fun s here => ensures_map.mpr (keeps s here)

end Program

namespace Attempt

variable {S : Signature} {σ α β ε ε' : Type} {env : Environment S σ} {s : σ}

@[simp] theorem ensures_pure {a : α} {post : Except ε α → σ → Prop} :
    (pure a : Attempt S ε α).run.Ensures env s post ↔ post (.ok a) s :=
  Program.ensures_done

@[simp] theorem ensures_throw {e : ε} {post : Except ε α → σ → Prop} :
    (throw e : Attempt S ε α).run.Ensures env s post ↔ post (.error e) s :=
  Program.ensures_done

@[simp] theorem ensures_bind {p : Attempt S ε α} {f : α → Attempt S ε β} {post : Except ε β → σ → Prop} :
    (p >>= f).run.Ensures env s post ↔ p.run.Ensures env s fun result s' =>
      match result with
      | .ok a => (f a).run.Ensures env s' post
      | .error e => post (.error e) s' := by
  rw [ExceptT.run_bind, Program.ensures_bind]
  constructor
  · intro ensured
    refine ensured.mono fun result s' holds => ?_
    cases result with
    | ok a => exact holds
    | error e =>
      change (Program.done (.error e)).Ensures env s' post at holds
      rwa [Program.ensures_done] at holds
  · intro ensured
    refine ensured.mono fun result s' holds => ?_
    cases result with
    | ok a => exact holds
    | error e =>
      change (Program.done (.error e)).Ensures env s' post
      rwa [Program.ensures_done]

@[simp] theorem ensures_lift {p : Program S α} {post : Except ε α → σ → Prop} :
    (liftM p : Attempt S ε α).run.Ensures env s post ↔ p.Ensures env s fun a => post (.ok a) :=
  Program.ensures_map

@[simp] theorem ensures_outcome {p : Attempt S ε α} {post : Except ε' (Except ε α) → σ → Prop} :
    (Attempt.outcome p : Attempt S ε' (Except ε α)).run.Ensures env s post ↔
      p.run.Ensures env s fun result => post (.ok result) :=
  Program.ensures_map

@[simp] theorem ensures_attempt {p : Program S (Except ε α)} {wrap : ε → ε'}
    {post : Except ε' α → σ → Prop} :
    (p.attempt wrap).run.Ensures env s post ↔
      p.Ensures env s fun result => post (result.mapError wrap) :=
  Program.ensures_map

@[simp] theorem ensures_adapt {p : Attempt S ε α} {wrap : ε → ε'} {post : Except ε' α → σ → Prop} :
    (ExceptT.adapt wrap p).run.Ensures env s post ↔
      p.run.Ensures env s fun result => post (result.mapError wrap) :=
  Program.ensures_map

/-- What is known already is no question. -/
@[simp] theorem ensures_known {known : Except ε α} {post : Except ε α → σ → Prop} :
    (liftM known : Attempt S ε α).run.Ensures env s post ↔ post known s := by
  cases known <;> exact Program.ensures_done

/-! ## What is kept -/

theorem keeps_bind {inv : σ → Prop} {p : Attempt S ε α} {f : α → Attempt S ε β} (first : p.run.Keeps env inv)
    (next : ∀ a, (f a).run.Keeps env inv) : (p >>= f).run.Keeps env inv := by
  rw [ExceptT.run_bind]
  refine first.bind fun result => ?_
  cases result with
  | ok a => exact next a
  | error e => exact .done _

theorem keeps_lift {inv : σ → Prop} {p : Program S α} (keeps : p.Keeps env inv) :
    (liftM p : Attempt S ε α).run.Keeps env inv :=
  keeps.map _

theorem keeps_outcome {inv : σ → Prop} {p : Attempt S ε α} (keeps : p.run.Keeps env inv) :
    (Attempt.outcome p : Attempt S ε' (Except ε α)).run.Keeps env inv :=
  keeps.map _

end Attempt

end CloudBalance
