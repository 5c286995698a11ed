set_option autoImplicit false

/-! # Fallible computations with a trace

A `Traced ω ε α` issues commands of type `ω`, in order, and then returns an `α` or fails with an
`ε`. A failure ends the computation: what was issued before it stays issued. The commands of a
computation are data, so that what it does to the outside can be stated next to what it returns.

A property of a sequence of steps is proved by peeling its steps off with `lift_bind_elim`, for a
step that issues nothing, and `issue_bind_elim`, for one that issues a command.
-/

/-- The commands a computation issues and how it ends. -/
structure Traced (ω ε α : Type) where
  commands : List ω
  result : Except ε α

namespace Traced

variable {ω ε α β : Type}

/-- A step that issues nothing. -/
def lift (result : Except ε α) : Traced ω ε α := ⟨[], result⟩

def fail (e : ε) : Traced ω ε α := lift (.error e)

/-- Issue a command and go on with its answer. -/
def issue (command : ω) (answer : Except ε α) : Traced ω ε α := ⟨[command], answer⟩

/-- Do what the first computation does, and then, unless it failed, what the second does. -/
def andThen (x : Traced ω ε α) (f : α → Traced ω ε β) : Traced ω ε β :=
  match x.result with
  | .ok a => ⟨x.commands ++ (f a).commands, (f a).result⟩
  | .error e => ⟨x.commands, .error e⟩

instance : Monad (Traced ω ε) where
  pure a := lift (.ok a)
  bind := andThen

theorem bind_of_ok {x : Traced ω ε α} {a : α} (h : x.result = .ok a) (f : α → Traced ω ε β) :
    x >>= f = ⟨x.commands ++ (f a).commands, (f a).result⟩ := by
  show x.andThen f = _
  rw [andThen, h]

theorem bind_of_error {x : Traced ω ε α} {e : ε} (h : x.result = .error e)
    (f : α → Traced ω ε β) : x >>= f = ⟨x.commands, .error e⟩ := by
  show x.andThen f = _
  rw [andThen, h]

@[simp] theorem lift_ok_bind (a : α) (f : α → Traced ω ε β) :
    (lift (.ok a) : Traced ω ε α) >>= f = f a := rfl

@[simp] theorem lift_error_bind (e : ε) (f : α → Traced ω ε β) :
    (lift (.error e) : Traced ω ε α) >>= f = fail e := rfl

/-- The result of a sequence is that of its results in sequence: forgetting the trace is a map
of monads. -/
@[simp] theorem result_bind (x : Traced ω ε α) (f : α → Traced ω ε β) :
    (x >>= f).result = x.result >>= fun a => (f a).result := by
  cases h : x.result with
  | ok a =>
      rw [bind_of_ok h]
      rfl
  | error e =>
      rw [bind_of_error h]
      rfl

@[simp] theorem result_lift (r : Except ε α) : (lift r : Traced ω ε α).result = r := rfl

@[simp] theorem result_issue (c : ω) (r : Except ε α) : (issue c r).result = r := rfl

@[simp] theorem result_pure (a : α) : (pure a : Traced ω ε α).result = .ok a := rfl

/-! ## Peeling steps off -/

/-- A first step that issues nothing either fails, or the rest follows. -/
theorem lift_bind_elim {P : Traced ω ε β → Prop} {r : Except ε α} {f : α → Traced ω ε β}
    (error : ∀ e, r = .error e → P (fail e)) (ok : ∀ a, r = .ok a → P (f a)) :
    P (lift r >>= f) := by
  cases r with
  | ok a => exact ok a rfl
  | error e => exact error e rfl

/-- A first step that issues a command either fails after it, or the rest follows it. -/
theorem issue_bind_elim {P : Traced ω ε β → Prop} {c : ω} {r : Except ε α}
    {f : α → Traced ω ε β} (error : ∀ e, r = .error e → P ⟨[c], .error e⟩)
    (ok : ∀ a, r = .ok a → P ⟨c :: (f a).commands, (f a).result⟩) : P (issue c r >>= f) := by
  cases r with
  | ok a => exact ok a rfl
  | error e => exact error e rfl

end Traced
