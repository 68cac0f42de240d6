import Mathlib.Tactic.Common

/-! # Programs of actors with a private store

A handler of an actor is a finite tree: it reads and updates its own store,
makes calls whose replies it waits for, returns, or panics. Nothing else can
happen inside a handler, so two executions differ only in the replies.
-/

namespace Effect

/-- The calls an actor can make, each with the type of its reply. -/
structure Interface where
  Call : Type
  Reply : Call → Type

/-- A handler over a store `σ`, with one continuation for every possible reply. -/
inductive Program (σ : Type) (I : Interface) (α : Type) where
  | pure (value : α)
  | panic
  | get (next : σ → Program σ I α)
  | modify (update : σ → σ) (next : Program σ I α)
  | call (request : I.Call) (next : I.Reply request → Program σ I α)

/-- Both kinds of answers of a call that can fail. -/
theorem forall_except {ε α : Type} {p : Except ε α → Prop} :
    (∀ answer, p answer) ↔ (∀ error, p (.error error)) ∧ ∀ value, p (.ok value) := by
  constructor
  · intro h
    exact ⟨fun error => h _, fun value => h _⟩
  · rintro ⟨herror, hok⟩ (error | value)
    · exact herror error
    · exact hok value

namespace Program

variable {σ τ α β γ : Type} {I : Interface}

/-- Sequencing; a panic discards what follows. -/
def bind : Program σ I α → (α → Program σ I β) → Program σ I β
  | .pure value, next => next value
  | .panic, _ => .panic
  | .get rest, next => .get fun store => (rest store).bind next
  | .modify update rest, next => .modify update (rest.bind next)
  | .call request rest, next => .call request fun reply => (rest reply).bind next

instance : Monad (Program σ I) where
  pure := .pure
  bind := .bind

/-- Read the store. -/
def read : Program σ I σ := .get .pure

/-- Update the store. -/
def update (f : σ → σ) : Program σ I Unit := .modify f (.pure ())

/-- Make a call and wait for its reply. -/
def request (c : I.Call) : Program σ I (I.Reply c) := .call c .pure

/-- Take a value that must be there. -/
def unwrap : Option α → Program σ I α
  | some value => .pure value
  | none => .panic

/-- Take the value of a call that must not have failed. -/
def unwrapOk {δ : Type} : Except δ α → Program σ I α
  | .ok value => .pure value
  | .error _ => .panic

/-- Go on only if a send reached its receiver. -/
def assert : Bool → Program σ I Unit
  | true => .pure ()
  | false => .panic

@[simp] theorem pure_eq (value : α) : (Pure.pure value : Program σ I α) = .pure value := rfl

@[simp] theorem pure_bind (value : α) (next : α → Program σ I β) :
    (Program.pure value : Program σ I α) >>= next = next value := rfl

@[simp] theorem panic_bind (next : α → Program σ I β) :
    (Program.panic : Program σ I α) >>= next = .panic := rfl

@[simp] theorem get_bind (rest : σ → Program σ I α) (next : α → Program σ I β) :
    Program.get rest >>= next = .get fun store => rest store >>= next := rfl

@[simp] theorem modify_bind (f : σ → σ) (rest : Program σ I α) (next : α → Program σ I β) :
    Program.modify f rest >>= next = .modify f (rest >>= next) := rfl

@[simp] theorem call_bind (c : I.Call) (rest : I.Reply c → Program σ I α)
    (next : α → Program σ I β) :
    Program.call c rest >>= next = .call c fun reply => rest reply >>= next := rfl

@[simp] theorem read_eq : (read : Program σ I σ) = .get .pure := rfl

@[simp] theorem update_eq (f : σ → σ) : (update f : Program σ I Unit) = .modify f (.pure ()) :=
  rfl

@[simp] theorem unwrap_some (value : α) :
    (unwrap (some value) : Program σ I α) = .pure value := rfl

@[simp] theorem unwrap_none : (unwrap none : Program σ I α) = .panic := rfl

@[simp] theorem unwrapOk_ok {δ : Type} (value : α) :
    (unwrapOk (.ok value : Except δ α) : Program σ I α) = .pure value := rfl

@[simp] theorem unwrapOk_error {δ : Type} (error : δ) :
    (unwrapOk (.error error : Except δ α) : Program σ I α) = .panic := rfl

@[simp] theorem assert_true : (assert true : Program σ I Unit) = .pure () := rfl

@[simp] theorem assert_false : (assert false : Program σ I Unit) = .panic := rfl

@[simp] theorem ite_bind (p : Prop) [Decidable p] (first second : Program σ I α)
    (next : α → Program σ I β) :
    (if p then first else second) >>= next =
      if p then first >>= next else second >>= next := by
  split <;> rfl

@[simp] theorem bind_pure (program : Program σ I α) : program >>= Program.pure = program := by
  induction program with
  | pure value => rfl
  | panic => rfl
  | get next ih => simp only [get_bind, ih]
  | modify f next ih => simp only [modify_bind, ih]
  | call c next ih => simp only [call_bind, ih]

@[simp] theorem bind_assoc (program : Program σ I α) (first : α → Program σ I β)
    (second : β → Program σ I γ) :
    program >>= first >>= second = program >>= fun value => first value >>= second := by
  induction program with
  | pure value => rfl
  | panic => rfl
  | get next ih => simp only [get_bind, ih]
  | modify f next ih => simp only [modify_bind, ih]
  | call c next ih => simp only [call_bind, ih]

/-! ## Running a part of the store -/

/-- Run a program of a component `τ` of the store. The component is looked up
again at each access; a store without it panics. -/
def focus (view : σ → Option τ) (put : τ → σ → σ) : Program τ I α → Program σ I α
  | .pure value => .pure value
  | .panic => .panic
  | .get next => .get fun store => match view store with
      | some part => focus view put (next part)
      | none => .panic
  | .modify f next => .modify (fun store => match view store with
      | some part => put (f part) store
      | none => store) (focus view put next)
  | .call c next => .call c fun reply => focus view put (next reply)

@[simp] theorem focus_pure (view : σ → Option τ) (put : τ → σ → σ) (value : α) :
    focus view put (.pure value : Program τ I α) = .pure value := rfl

@[simp] theorem focus_panic (view : σ → Option τ) (put : τ → σ → σ) :
    focus view put (.panic : Program τ I α) = .panic := rfl

@[simp] theorem focus_get (view : σ → Option τ) (put : τ → σ → σ) (next : τ → Program τ I α) :
    focus view put (.get next) = .get fun store => match view store with
      | some part => focus view put (next part)
      | none => .panic := by
  rw [focus]

@[simp] theorem focus_modify (view : σ → Option τ) (put : τ → σ → σ) (f : τ → τ)
    (next : Program τ I α) :
    focus view put (.modify f next) = .modify (fun store => match view store with
      | some part => put (f part) store
      | none => store) (focus view put next) := by
  rw [focus]

@[simp] theorem focus_call (view : σ → Option τ) (put : τ → σ → σ) (c : I.Call)
    (next : I.Reply c → Program τ I α) :
    focus view put (.call c next) = .call c fun reply => focus view put (next reply) := rfl

@[simp] theorem focus_unwrap (view : σ → Option τ) (put : τ → σ → σ) (value : Option α) :
    focus view put (unwrap value : Program τ I α) = unwrap value := by
  cases value <;> rfl

@[simp] theorem focus_unwrapOk {δ : Type} (view : σ → Option τ) (put : τ → σ → σ)
    (value : Except δ α) : focus view put (unwrapOk value : Program τ I α) = unwrapOk value := by
  cases value <;> rfl

@[simp] theorem focus_assert (view : σ → Option τ) (put : τ → σ → σ) (sent : Bool) :
    focus view put (assert sent : Program τ I Unit) = assert sent := by
  cases sent <;> rfl

@[simp] theorem focus_ite (view : σ → Option τ) (put : τ → σ → σ) (p : Prop) [Decidable p]
    (first second : Program τ I α) :
    focus view put (if p then first else second) =
      if p then focus view put first else focus view put second := by
  split <;> rfl

@[simp] theorem focus_bind (view : σ → Option τ) (put : τ → σ → σ) (program : Program τ I α)
    (next : α → Program τ I β) :
    focus view put (program >>= next) =
      focus view put program >>= fun value => focus view put (next value) := by
  induction program with
  | pure value => rfl
  | panic => rfl
  | get rest ih =>
      simp only [get_bind, focus]
      congr 1
      funext store
      cases view store with
      | none => rfl
      | some part => exact ih part
  | modify f rest ih => simp only [modify_bind, focus, ih]
  | call c rest ih => simp only [call_bind, focus, ih]

/-! ## Execution in an environment -/

/-- How a program ended. -/
inductive Outcome (α : Type) where
  | done (value : α)
  | panicked
  deriving DecidableEq

/-- An environment answers each call from its own state; it sees the caller's
store only so that it can record it. -/
abbrev Environment (σ : Type) (I : Interface) (ε : Type) :=
  σ → ε → (c : I.Call) → I.Reply c × ε

/-- The outcome, the final store and the final environment of a program. -/
structure Result (σ ε α : Type) where
  outcome : Outcome α
  store : σ
  environment : ε

/-- Run a program to its end. -/
def exec {ε : Type} (answer : Environment σ I ε) : Program σ I α → σ → ε → Result σ ε α
  | .pure value, store, environment => ⟨.done value, store, environment⟩
  | .panic, store, environment => ⟨.panicked, store, environment⟩
  | .get next, store, environment => (next store).exec answer store environment
  | .modify f next, store, environment => next.exec answer (f store) environment
  | .call c next, store, environment =>
      (next (answer store environment c).1).exec answer store (answer store environment c).2

section Exec

variable {ε : Type} (answer : Environment σ I ε)

@[simp] theorem exec_pure (value : α) (store : σ) (environment : ε) :
    (Program.pure value : Program σ I α).exec answer store environment =
      ⟨.done value, store, environment⟩ := rfl

@[simp] theorem exec_panic (store : σ) (environment : ε) :
    (Program.panic : Program σ I α).exec answer store environment =
      ⟨.panicked, store, environment⟩ := rfl

@[simp] theorem exec_get (next : σ → Program σ I α) (store : σ) (environment : ε) :
    (Program.get next).exec answer store environment =
      (next store).exec answer store environment := rfl

@[simp] theorem exec_modify (f : σ → σ) (next : Program σ I α) (store : σ) (environment : ε) :
    (Program.modify f next).exec answer store environment =
      next.exec answer (f store) environment := rfl

@[simp] theorem exec_call (c : I.Call) (next : I.Reply c → Program σ I α) (store : σ)
    (environment : ε) :
    (Program.call c next).exec answer store environment =
      (next (answer store environment c).1).exec answer store (answer store environment c).2 :=
  rfl

@[simp] theorem exec_ite (p : Prop) [Decidable p] (first second : Program σ I α) (store : σ)
    (environment : ε) :
    (if p then first else second).exec answer store environment =
      if p then first.exec answer store environment
      else second.exec answer store environment := by
  split <;> rfl

/-- Whether a last send arrives is seen in the outcome alone. -/
@[simp] theorem store_exec_assert (sent : Bool) (value : α) (store : σ) (environment : ε) :
    (((assert sent : Program σ I Unit) >>= fun _ => .pure value).exec answer store
      environment).store = store := by
  cases sent <;> rfl

@[simp] theorem environment_exec_assert (sent : Bool) (value : α) (store : σ)
    (environment : ε) :
    (((assert sent : Program σ I Unit) >>= fun _ => .pure value).exec answer store
      environment).environment = environment := by
  cases sent <;> rfl

@[simp] theorem outcome_exec_assert (sent : Bool) (value : α) (store : σ) (environment : ε) :
    (((assert sent : Program σ I Unit) >>= fun _ => .pure value).exec answer store
      environment).outcome = .done value ↔ sent = true := by
  cases sent <;> simp

end Exec

end Program

end Effect
