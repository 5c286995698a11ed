import Mathlib.Data.List.Basic

set_option autoImplicit false

/-! # Runs of a step relation

A system is a relation `Step : σ → ε → σ → Prop`: from a state, an event leads to another state.
`Run Step s es s'` says that the events `es`, in this order, lead from `s` to `s'`.

`Run.invariant` is the invariant rule for properties of a state and the events that led to it, and
`Run.closed` the rule for a set of states that no step leaves and that allows only some events.
-/

namespace Transitions

variable {σ ε : Type*} (Step : σ → ε → σ → Prop)

/-- The events lead from one state to the other. -/
inductive Run : σ → List ε → σ → Prop
  | nil (s : σ) : Run s [] s
  | cons {s s' s'' : σ} {e : ε} {es : List ε} (step : Step s e s') (run : Run s' es s'') :
      Run s (e :: es) s''

namespace Run

variable {Step} {s s' : σ} {es fs : List ε}

/-- What holds at the start and is kept by each step holds after a run. -/
theorem invariant {I : σ → List ε → Prop}
    (hstep : ∀ es s e s', I s es → Step s e s' → I s' (es ++ [e])) (h : Run Step s es s')
    (hstart : I s []) : I s' es := by
  suffices hpast : ∀ past, I s past → I s' (past ++ es) from hpast [] hstart
  clear hstart
  induction h with
  | nil s =>
      intro past hpast
      rwa [List.append_nil]
  | cons step run ih =>
      intro past hpast
      have hnext := ih (past ++ [_]) (hstep past _ _ _ hpast step)
      rwa [List.append_assoc, List.singleton_append] at hnext

/-- A run is the run of its first events, followed by that of the others. -/
theorem split (h : Run Step s (es ++ fs) s') : ∃ s₁, Run Step s es s₁ ∧ Run Step s₁ fs s' := by
  induction es generalizing s with
  | nil => exact ⟨s, .nil s, h⟩
  | cons e es ih =>
      cases h with
      | cons step run =>
          obtain ⟨s₁, hbefore, hafter⟩ := ih run
          exact ⟨s₁, .cons step hbefore, hafter⟩

/-- A run around one of its steps. -/
theorem split_at {e : ε} (h : Run Step s (es ++ e :: fs) s') :
    ∃ s₁ s₂, Run Step s es s₁ ∧ Step s₁ e s₂ ∧ Run Step s₂ fs s' := by
  obtain ⟨s₁, hbefore, hrest⟩ := h.split
  cases hrest with
  | cons step hafter => exact ⟨s₁, _, hbefore, step, hafter⟩

/-- From a set of states that no step leaves, a run stays in it, with the events it allows. -/
theorem closed {P : σ → Prop} {Q : ε → Prop} (hstep : ∀ s e s', P s → Step s e s' → P s' ∧ Q e)
    (h : Run Step s es s') (hs : P s) : P s' ∧ ∀ e ∈ es, Q e := by
  induction h with
  | nil s => exact ⟨hs, fun e he => absurd he List.not_mem_nil⟩
  | cons step run ih =>
      obtain ⟨hnext, hevent⟩ := hstep _ _ _ hs step
      obtain ⟨hlast, hevents⟩ := ih hnext
      refine ⟨hlast, fun e he => ?_⟩
      rcases List.mem_cons.mp he with rfl | he
      · exact hevent
      · exact hevents e he

end Run

end Transitions
