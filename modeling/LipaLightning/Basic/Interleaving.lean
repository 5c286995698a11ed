import LipaLightning.Basic.Transitions

set_option autoImplicit false

/-! # Interleaved components

A pool is a list of components that all run by one step relation, each in its own time. An event
of the pool adds a component or is an event of one of them.

* `Pool Step` is the step relation of the pool.
* `added es` are the components the events have added, as they were then.
* `eventsOf i es` are the events of the component with the index `i`.

`pool_run` projects a run of the pool to each of its components, so that what holds of every run
of one component holds of each in the pool. `Run.simulate` is the rule for a system that moves
such a pool: a run of the system is one of what it simulates, with the events that are visible
there.
-/

namespace Transitions

variable {σ ε : Type*} {Step : σ → ε → σ → Prop}

namespace Run

variable {s s' s'' : σ} {es fs : List ε}

/-- A run with one step after it. -/
theorem snoc {e : ε} (h : Run Step s es s') (step : Step s' e s'') :
    Run Step s (es ++ [e]) s'' := by
  induction h with
  | nil s => exact .cons step (.nil _)
  | cons first run ih => exact .cons first (ih step)

/-- A system whose steps are steps of another one, or change nothing there, simulates it. -/
theorem simulate {τ δ : Type*} {Step' : τ → δ → τ → Prop} (f : σ → τ) (g : ε → Option δ)
    (hhidden : ∀ s e s', Step s e s' → g e = none → f s' = f s)
    (hvisible : ∀ s e s' d, Step s e s' → g e = some d → Step' (f s) d (f s'))
    (h : Run Step s es s') : Run Step' (f s) (es.filterMap g) (f s') := by
  induction h with
  | nil s => exact .nil (f s)
  | @cons s₀ s₁ s₂ e es step run ih =>
      cases hg : g e with
      | none =>
          rw [List.filterMap_cons_none hg, ← hhidden s₀ e s₁ step hg]
          exact ih
      | some d =>
          rw [List.filterMap_cons_some hg]
          exact .cons (hvisible s₀ e s₁ d step hg) ih

end Run

/-! ## Pools -/

inductive PoolEvent (σ ε : Type*) where
  | spawn (t : σ)
  | act (i : ℕ) (e : ε)
  deriving DecidableEq

variable (Step) in
inductive Pool : List σ → PoolEvent σ ε → List σ → Prop
  | spawn (ts : List σ) (t : σ) : Pool ts (.spawn t) (ts ++ [t])
  | act (ts : List σ) (i : ℕ) (e : ε) (t t' : σ) (here : ts[i]? = some t) (step : Step t e t') :
      Pool ts (.act i e) (ts.set i t')

/-- The component an event adds. -/
def PoolEvent.added : PoolEvent σ ε → Option σ
  | .spawn t => some t
  | .act _ _ => none

/-- What an event of the pool is to the component with the index `i`. -/
def PoolEvent.ofComponent (i : ℕ) : PoolEvent σ ε → Option ε
  | .spawn _ => none
  | .act j e => if j = i then some e else none

def added (es : List (PoolEvent σ ε)) : List σ := es.filterMap PoolEvent.added

def eventsOf (i : ℕ) (es : List (PoolEvent σ ε)) : List ε := es.filterMap (PoolEvent.ofComponent i)

section

variable {ts ts' : List σ} {es : List (PoolEvent σ ε)} {pe : PoolEvent σ ε} {i : ℕ}

@[simp] theorem added_append (es fs : List (PoolEvent σ ε)) :
    added (es ++ fs) = added es ++ added fs := List.filterMap_append

@[simp] theorem eventsOf_append (i : ℕ) (es fs : List (PoolEvent σ ε)) :
    eventsOf i (es ++ fs) = eventsOf i es ++ eventsOf i fs := List.filterMap_append

/-- Every component has run from where it was added, by its own events. Before it is added there
are none. -/
structure Projected (Step : σ → ε → σ → Prop) (ts : List σ) (es : List (PoolEvent σ ε)) :
    Prop where
  length_eq : ts.length = (added es).length
  runs : ∀ i t t₀, ts[i]? = some t → (added es)[i]? = some t₀ → Run Step t₀ (eventsOf i es) t
  silent : ∀ i, ts.length ≤ i → eventsOf i es = []

theorem projected_step (h : Projected Step ts es) (step : Pool Step ts pe ts') :
    Projected Step ts' (es ++ [pe]) := by
  cases step with
  | spawn t =>
      have hevents : ∀ i, eventsOf i (es ++ [.spawn t]) = eventsOf i es := by
        intro i
        rw [eventsOf_append]
        exact List.append_nil _
      refine ⟨?_, ?_, ?_⟩
      · show (ts ++ [t]).length = (added (es ++ [.spawn t])).length
        rw [added_append, List.length_append, List.length_append, h.length_eq]
        rfl
      · intro i t' t₀ hnow hbefore
        rw [hevents]
        rw [added_append] at hbefore
        rcases Nat.lt_or_ge i ts.length with hi | hi
        · rw [List.getElem?_append_left hi] at hnow
          rw [List.getElem?_append_left (h.length_eq ▸ hi)] at hbefore
          exact h.runs i t' t₀ hnow hbefore
        · rw [List.getElem?_append_right hi] at hnow
          rw [List.getElem?_append_right (h.length_eq ▸ hi), ← h.length_eq] at hbefore
          have hsame : t' = t₀ := Option.some.inj (hnow.symm.trans hbefore)
          rw [h.silent i hi, hsame]
          exact .nil t₀
      · intro i hi
        rw [hevents]
        rw [List.length_append] at hi
        exact h.silent i (by omega)
  | act j e t t' here step =>
      have hadded : added (es ++ [.act j e]) = added es := by
        rw [added_append]
        exact List.append_nil _
      have hj : j < ts.length := (List.getElem?_eq_some_iff.mp here).1
      refine ⟨?_, ?_, ?_⟩
      · rw [List.length_set, hadded]
        exact h.length_eq
      · intro i u t₀ hnow hbefore
        rw [hadded] at hbefore
        rw [eventsOf_append]
        by_cases hij : j = i
        · subst hij
          rw [List.getElem?_set_self hj] at hnow
          have hsame : t' = u := Option.some.inj hnow
          have hone : eventsOf j [(PoolEvent.act j e : PoolEvent σ ε)] = [e] := by
            simp [eventsOf, PoolEvent.ofComponent]
          rw [hone, ← hsame]
          exact (h.runs j t t₀ here hbefore).snoc step
        · rw [List.getElem?_set_ne hij] at hnow
          have hnone : eventsOf i [(PoolEvent.act j e : PoolEvent σ ε)] = [] := by
            simp [eventsOf, PoolEvent.ofComponent, hij]
          rw [hnone, List.append_nil]
          exact h.runs i u t₀ hnow hbefore
      · intro i hi
        rw [List.length_set] at hi
        have hnone : eventsOf i [(PoolEvent.act j e : PoolEvent σ ε)] = [] := by
          simp [eventsOf, PoolEvent.ofComponent, show j ≠ i by omega]
        rw [eventsOf_append, hnone, List.append_nil]
        exact h.silent i hi

theorem projected_nil : Projected Step [] [] where
  length_eq := rfl
  runs _ _ _ hnow := nomatch hnow
  silent _ _ := rfl

theorem projected_of_run (h : Run (Pool Step) [] es ts) : Projected Step ts es :=
  Run.invariant (I := fun ts es => Projected Step ts es) (fun _ _ _ _ => projected_step) h
    projected_nil

/-- **A pool runs its components.** Each of them has come from where it was added by a run of its
own events. -/
theorem pool_run (h : Run (Pool Step) [] es ts) {t : σ} (hi : ts[i]? = some t) :
    ∃ t₀, (added es)[i]? = some t₀ ∧ Run Step t₀ (eventsOf i es) t := by
  have hprojected := projected_of_run h
  have hlt : i < (added es).length := by
    rw [← hprojected.length_eq]
    exact (List.getElem?_eq_some_iff.mp hi).1
  have hbefore : (added es)[i]? = some ((added es)[i]) := List.getElem?_eq_getElem hlt
  exact ⟨_, hbefore, hprojected.runs i t _ hi hbefore⟩

end

end Transitions
