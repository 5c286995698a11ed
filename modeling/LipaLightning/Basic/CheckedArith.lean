import Mathlib.Tactic

set_option autoImplicit false

/-! # Arithmetic of machine words that is checked

The operations of `UInt64` wrap, and a division by zero is `0`. A checked operation computes the
same word, or reports the fault where that word is not the exact result.

`Computes x a p` says when a checked computation has a result and which: it returns `a` if `p`
holds, and it faults otherwise. The rules below derive it along the structure of a computation,
so that `a` is what the same computation gives with the wrapping operations and `p` is the exact
condition under which nothing wraps.
-/

namespace CheckedArith

inductive Fault where
  | overflow
  | divisionByZero
  deriving DecidableEq, Repr

/-- A computation that stops at its first fault. -/
abbrev Checked (α : Type) := Except Fault α

def checkedAdd (a b : UInt64) : Checked UInt64 :=
  if a.toNat + b.toNat < 2 ^ 64 then .ok (a + b) else .error .overflow

def checkedSub (a b : UInt64) : Checked UInt64 :=
  if b.toNat ≤ a.toNat then .ok (a - b) else .error .overflow

def checkedMul (a b : UInt64) : Checked UInt64 :=
  if a.toNat * b.toNat < 2 ^ 64 then .ok (a * b) else .error .overflow

def checkedDiv (a b : UInt64) : Checked UInt64 :=
  if b = 0 then .error .divisionByZero else .ok (a / b)

/-- The computation has no fault. -/
def Faultless {α : Type} (x : Checked α) : Prop := ∃ a, x = .ok a

/-- The computation returns `a` if `p` holds, and faults if it does not. -/
def Computes {α : Type} (x : Checked α) (a : α) (p : Prop) : Prop := ∀ b, x = .ok b ↔ b = a ∧ p

variable {α β ε : Type}

/-- A checked computation that goes on with the value of a call, and returns its error. -/
def andThen (call : Except ε α) (f : α → Checked (Except ε β)) : Checked (Except ε β) :=
  match call with
  | .error e => .ok (.error e)
  | .ok a => f a

namespace Computes

theorem faultless_iff {x : Checked α} {a : α} {p : Prop} (h : Computes x a p) :
    Faultless x ↔ p := by
  constructor
  · rintro ⟨b, hb⟩
    exact ((h b).mp hb).2
  · intro hp
    exact ⟨a, (h a).mpr ⟨rfl, hp⟩⟩

theorem congr {x : Checked α} {a : α} {p q : Prop} (h : Computes x a p) (hpq : p ↔ q) :
    Computes x a q := by
  intro b
  rw [h b, hpq]

/-! ## The rules -/

theorem pure (a : α) : Computes (.ok a : Checked α) a True := by
  intro b
  rw [Except.ok.injEq, and_true, eq_comm]

theorem ite {c : Prop} [Decidable c] {a : α} {fault : Fault} :
    Computes (if c then .ok a else .error fault) a c := by
  intro b
  by_cases hc : c
  · rw [if_pos hc, Except.ok.injEq, and_iff_left hc, eq_comm]
  · rw [if_neg hc]
    exact iff_of_false nofun (fun h => hc h.2)

/-- The second computation matters only where the first one has a result. -/
theorem bind {x : Checked α} {f : α → Checked β} {a : α} {b : β} {p q : Prop}
    (hx : Computes x a p) (hf : p → Computes (f a) b q) : Computes (x >>= f) b (p ∧ q) := by
  intro c
  cases h : x with
  | ok a' =>
      obtain ⟨rfl, hp⟩ := (hx a').mp h
      show f a' = .ok c ↔ c = b ∧ p ∧ q
      rw [hf hp c, and_iff_right hp]
  | error fault =>
      have hp : ¬ p := by
        intro hp
        have hok := (hx a).mpr ⟨rfl, hp⟩
        exact nomatch h.symm.trans hok
      exact iff_of_false nofun (fun hc => hp hc.2.1)

theorem map {x : Checked α} {a : α} {p : Prop} (f : α → β) (hx : Computes x a p) :
    Computes (x >>= fun a => .ok (f a)) (f a) p := by
  have hbind : Computes (x >>= fun a => .ok (f a)) (f a) (p ∧ True) :=
    hx.bind fun _ => Computes.pure (f a)
  exact hbind.congr (iff_of_eq (and_true p))

theorem add (a b : UInt64) : Computes (checkedAdd a b) (a + b) (a.toNat + b.toNat < 2 ^ 64) :=
  ite

theorem sub (a b : UInt64) : Computes (checkedSub a b) (a - b) (b.toNat ≤ a.toNat) :=
  ite

theorem mul (a b : UInt64) : Computes (checkedMul a b) (a * b) (a.toNat * b.toNat < 2 ^ 64) :=
  ite

theorem div (a b : UInt64) : Computes (checkedDiv a b) (a / b) (b ≠ 0) := by
  have h : checkedDiv a b = if b ≠ 0 then .ok (a / b) else .error .divisionByZero :=
    (ite_not ..).symm
  rw [h]
  exact ite

/-- What follows a call is computed where the call has a value. -/
theorem andThen {call : Except ε α} {f : α → Checked (Except ε β)} {g : α → Except ε β}
    {p : α → Prop} (h : ∀ a, call = .ok a → Computes (f a) (g a) (p a)) :
    Computes (CheckedArith.andThen call f) (call >>= g) (∀ a, call = .ok a → p a) := by
  cases hcall : call with
  | error e =>
      refine (Computes.pure _).congr (iff_of_true trivial ?_)
      exact nofun
  | ok a =>
      refine (h a hcall).congr ?_
      constructor
      · rintro hp a' ha'
        obtain rfl := Except.ok.inj ha'
        exact hp
      · intro hp
        exact hp a rfl

/-- An optional value is computed with where it is there. -/
theorem option {f : α → Checked β} {g : α → β} {p : α → Prop} (o : Option α)
    (h : ∀ a, Computes (f a) (g a) (p a)) : Computes (o.mapM f) (o.map g) (∀ a ∈ o, p a) := by
  cases o with
  | none =>
      refine (Computes.pure none).congr ?_
      simp
  | some a =>
      refine ((h a).map some).congr ?_
      simp

end Computes

end CheckedArith
