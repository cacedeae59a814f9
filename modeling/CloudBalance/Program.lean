/-!
# Programs that ask questions

Everything here that touches the world does so by asking: a `Program S α` is a tree of questions of
the signature `S` that ends in an answer of type `α`. The tree says which questions are asked, in
which order, and what is done with each reply, and nothing else; a handler supplies the replies.
A program at a high level (put a balancer at each location) becomes one at a low level (run this
tool, send this request) by `Program.expand`.
-/

namespace CloudBalance

/-- A set of questions with the type of the answers to each. -/
structure Signature where
  Query : Type
  Answer : Query → Type

/-- A computation that may ask the questions of `S`. `halt` ends the whole run without a result. -/
inductive Program (S : Signature) (α : Type) : Type where
  | done (value : α)
  | ask (query : S.Query) (next : S.Answer query → Program S α)
  | halt

namespace Program

variable {S T : Signature} {α β γ σ : Type}

/-- Asks one question and returns its answer. -/
def perform (query : S.Query) : Program S (S.Answer query) :=
  .ask query .done

/-- Runs `p` and goes on with its result. A halted program does not go on. -/
def bind : Program S α → (α → Program S β) → Program S β
  | .done a, f => f a
  | .ask q next, f => .ask q fun r => (next r).bind f
  | .halt, _ => .halt

instance : Monad (Program S) where
  pure := .done
  bind := bind

/-- Answers every question of `p` by a program of another signature. -/
def expand (handler : (q : S.Query) → Program T (S.Answer q)) : Program S α → Program T α
  | .done a => .done a
  | .ask q next => (handler q).bind fun r => (next r).expand handler
  | .halt => .halt

/-- Runs `p` against a handler that answers from a state; `none` when the program halts. -/
def run (handler : (q : S.Query) → σ → S.Answer q × σ) : Program S α → σ → Option α × σ
  | .done a, s => (some a, s)
  | .ask q next, s => (next (handler q s).1).run handler (handler q s).2
  | .halt, s => (none, s)

/-! ## Equations -/

@[simp] theorem pure_def (a : α) : (pure a : Program S α) = .done a := rfl

@[simp] theorem done_bind (a : α) (f : α → Program S β) : (Program.done a >>= f) = f a := rfl

@[simp] theorem ask_bind (q : S.Query) (next : S.Answer q → Program S α) (f : α → Program S β) :
    (Program.ask q next >>= f) = .ask q fun r => next r >>= f := rfl

@[simp] theorem halt_bind (f : α → Program S β) : (Program.halt >>= f) = .halt := rfl

theorem bind_done (p : Program S α) : p.bind .done = p := by
  induction p with
  | done a => rfl
  | ask q next ih => simp only [bind, ih]
  | halt => rfl

theorem bind_bind (p : Program S α) (f : α → Program S β) (g : β → Program S γ) :
    (p.bind f).bind g = p.bind fun a => (f a).bind g := by
  induction p with
  | done a => rfl
  | ask q next ih => simp only [bind, ih]
  | halt => rfl

instance : LawfulMonad (Program S) := LawfulMonad.mk' (Program S)
  bind_done
  (fun _ _ => rfl)
  bind_bind

@[simp] theorem run_perform (handler : (q : S.Query) → σ → S.Answer q × σ) (q : S.Query) (s : σ) :
    (perform q).run handler s = (some (handler q s).1, (handler q s).2) := rfl

/-- Running a sequence runs its first part and, unless that halts, its second part from the state
that the first one left. -/
theorem run_bind (handler : (q : S.Query) → σ → S.Answer q × σ) (p : Program S α)
    (f : α → Program S β) (s : σ) :
    (p >>= f).run handler s =
      match p.run handler s with
      | (some a, s') => (f a).run handler s'
      | (none, s') => (none, s') := by
  induction p generalizing s with
  | done a => rfl
  | ask q next ih => exact ih _ _
  | halt => rfl

end Program

end CloudBalance
