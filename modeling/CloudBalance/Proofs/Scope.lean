import CloudBalance.Proofs.Runs

/-!
# Scopes

What a program may do at all: which questions it may ask, whatever it is answered, and whether it may halt.
Main statements: the parts of a program are within a scope one by one, what a scope rules out happens in no run,
and there is a run where all that is in the scope is answered.
-/

namespace CloudBalance

variable {S T : Signature} {σ α β ε ε' : Type}

namespace Program

/-- What a program may do: which questions it may ask, and whether it may halt. -/
structure Scope (S : Signature) where
  asks : S.Query → Prop
  halts : Prop

/-- Whatever it is answered, the program stays within the scope. -/
def Within (scope : Scope S) : Program S α → Prop
  | .done _ => True
  | .ask q next => scope.asks q ∧ ∀ answer, (next answer).Within scope
  | .halt => scope.halts

variable {scope : Scope S}

/-! ## Parts of a program -/

@[simp] theorem within_done {a : α} : (Program.done a : Program S α).Within scope :=
  trivial

@[simp] theorem within_perform {q : S.Query} : (perform q).Within scope ↔ scope.asks q :=
  ⟨fun within => within.1, fun allowed => ⟨allowed, fun _ => trivial⟩⟩

theorem Within.bind {p : Program S α} {f : α → Program S β} (first : p.Within scope)
    (next : ∀ a, (f a).Within scope) : (p >>= f).Within scope := by
  induction p with
  | done a => exact next a
  | halt => exact first
  | ask q rest ih => exact ⟨first.1, fun answer => ih answer (first.2 answer)⟩

theorem Within.map {p : Program S α} {f : α → β} (within : p.Within scope) : (f <$> p).Within scope := by
  rw [← bind_pure_comp]
  exact within.bind fun _ => trivial

theorem Within.filterM {items : List α} {check : α → Program S Bool}
    (each : ∀ a, (check a).Within scope) : (items.filterM check).Within scope := by
  -- what was chosen so far is no question
  have within : ∀ chosen, (items.filterAuxM check chosen).Within scope := by
    induction items with
    | nil => exact fun _ => trivial
    | cons a items ih => exact fun chosen => (each a).bind fun _ => ih _
  exact (within []).bind fun _ => trivial

/-- A program whose questions are answered by programs within a scope is within that scope. -/
theorem Within.expand {wider : Scope T} {handler : (q : S.Query) → Program T (S.Answer q)} {p : Program S α}
    (within : p.Within scope) (each : ∀ q, scope.asks q → (handler q).Within wider)
    (halts : scope.halts → wider.halts) : (p.expand handler).Within wider := by
  induction p with
  | done a => trivial
  | halt => exact halts within
  | ask q next ih => exact (each q within.1).bind fun answer => ih answer (within.2 answer)

/-- What may be done in a scope may be done in a wider one. -/
theorem Within.mono {wider : Scope S} {p : Program S α} (within : p.Within scope)
    (asks : ∀ q, scope.asks q → wider.asks q) (halts : scope.halts → wider.halts) : p.Within wider := by
  induction p with
  | done a => trivial
  | halt => exact halts within
  | ask q next ih => exact ⟨asks q within.1, fun answer => ih answer (within.2 answer)⟩

/-- Any program does what it may if it may do anything. -/
theorem within_any (p : Program S α) : p.Within ⟨fun _ => True, True⟩ := by
  induction p with
  | done | halt => trivial
  | ask q next ih => exact ⟨trivial, ih⟩

/-! ## What a scope rules out -/

variable {env : Environment S σ} {s s' : σ} {events : List S.Event}

theorem Within.returns {p : Program S α} {result : Option α} (within : p.Within scope)
    (never : ¬ scope.halts) (run : p.Runs env s events result s') : ∃ a, result = some a := by
  induction run with
  | done a => exact ⟨a, rfl⟩
  | halt => exact absurd within never
  | ask _ _ ih => exact ih (within.2 _)

/-- What is asked in a run is what may be asked. -/
theorem Within.asked {p : Program S α} {result : Option α} (within : p.Within scope)
    (run : p.Runs env s events result s') {event : S.Event} (member : event ∈ events) :
    scope.asks event.1 := by
  induction run with
  | done | halt => cases member
  | ask _ _ ih =>
    rcases List.mem_cons.mp member with rfl | later
    · exact within.1
    · exact ih (within.2 _) later

/-- Where no question within the scope changes the surroundings, the program does not. -/
theorem Within.unchanged {p : Program S α} {result : Option α} (within : p.Within scope)
    (still : ∀ s q answer s', scope.asks q → env s q answer s' → s' = s)
    (run : p.Runs env s events result s') : s' = s := by
  induction run with
  | done | halt => rfl
  | ask answered _ ih =>
    rw [ih (within.2 _), still _ _ _ _ within.1 answered]

/-- Where whatever may be asked has an answer, a program that never halts has a run. -/
theorem Within.exists_run {p : Program S α} (within : p.Within scope) (never : ¬ scope.halts)
    (answers : ∀ s q, scope.asks q → ∃ answer s', env s q answer s') (s : σ) :
    ∃ events a s', p.Runs env s events (some a) s' := by
  induction p generalizing s with
  | done a => exact ⟨[], a, s, .done a s⟩
  | halt => exact absurd within never
  | ask q next ih =>
    obtain ⟨answer, between, answered⟩ := answers s q within.1
    obtain ⟨events, a, s', later⟩ := ih answer (within.2 answer) between
    exact ⟨_, a, s', .ask answered later⟩

/-- What has an answer that leaves the surroundings as they are. -/
def answerable (env : Environment S σ) (s : σ) : Scope S :=
  ⟨fun q => ∃ answer, env s q answer s, False⟩

theorem Within.exists_run_still {p : Program S α} (within : p.Within (answerable env s)) :
    ∃ events a, p.Runs env s events (some a) s := by
  induction p with
  | done a => exact ⟨[], a, .done a s⟩
  | halt => exact within.elim
  | ask q next ih =>
    obtain ⟨answer, answered⟩ := within.1
    obtain ⟨events, a, later⟩ := ih answer (within.2 answer)
    exact ⟨_, a, .ask answered later⟩

end Program

/-! ## Attempts within a scope -/

namespace Attempt

variable {scope : Program.Scope S}

theorem within_bind {p : Attempt S ε α} {f : α → Attempt S ε β} (first : p.run.Within scope)
    (next : ∀ a, (f a).run.Within scope) : (p >>= f).run.Within scope := by
  rw [ExceptT.run_bind]
  refine first.bind fun result => ?_
  cases result with
  | ok a => exact next a
  | error e => trivial

theorem within_foldlM {f : β → α → Attempt S ε β} (each : ∀ b a, (f b a).run.Within scope) (items : List α)
    (b : β) : (items.foldlM f b).run.Within scope := by
  induction items generalizing b with
  | nil => trivial
  | cons a items ih => exact within_bind (each b a) fun b => ih b

theorem within_lift {p : Program S α} (within : p.Within scope) :
    (liftM p : Attempt S ε α).run.Within scope :=
  within.map

theorem within_adapt {p : Attempt S ε α} {wrap : ε → ε'} (within : p.run.Within scope) :
    (ExceptT.adapt wrap p).run.Within scope :=
  within.map

theorem within_known {known : Except ε α} : (liftM known : Attempt S ε α).run.Within scope := by
  cases known <;> trivial

end Attempt

end CloudBalance
