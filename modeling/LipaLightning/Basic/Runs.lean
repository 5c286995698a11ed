import Mathlib.Data.List.Basic

set_option autoImplicit false

/-! # Runs of a step function

A system is a step function `step : σ → α → σ`: the action `a` taken in the state `s` leads
to `step s a`, and an action that is not enabled leaves the state as it is. A run is the
list of its actions.

* `run step s as` is the state a run ends in.
* `AllSteps step good s as`: every action of the run meets `good` in the state before it.
* `Throughout step P s as`: `P` holds in every state of the run, the first included.

`throughout_of_allSteps` is the invariant rule for runs whose steps all meet a condition;
`throughout_iff_allSteps` is its exact form, for a condition that decides the property one
step later.
-/

namespace Runs

variable {σ α : Type*} (step : σ → α → σ)

/-- The state the run `as` from `s` ends in. -/
def run (s : σ) (as : List α) : σ := as.foldl step s

/-- Every action of the run meets `good` in the state it is taken in. -/
def AllSteps (good : σ → α → Prop) : σ → List α → Prop
  | _, [] => True
  | s, a :: as => good s a ∧ AllSteps good (step s a) as

/-- `P` holds in every state the run passes through. -/
def Throughout (P : σ → Prop) : σ → List α → Prop
  | s, [] => P s
  | s, a :: as => P s ∧ Throughout P (step s a) as

@[simp] theorem run_nil (s : σ) : run step s [] = s := rfl

@[simp] theorem run_cons (s : σ) (a : α) (as : List α) :
    run step s (a :: as) = run step (step s a) as := rfl

theorem run_append (s : σ) (as bs : List α) :
    run step s (as ++ bs) = run step (run step s as) bs :=
  List.foldl_append

theorem allSteps_append (good : σ → α → Prop) (s : σ) (as bs : List α) :
    AllSteps step good s (as ++ bs)
      ↔ AllSteps step good s as ∧ AllSteps step good (run step s as) bs := by
  induction as generalizing s with
  | nil => simp [AllSteps]
  | cons a as ih => simp [AllSteps, ih, and_assoc]

/-- A step condition may be weakened along the run. -/
theorem AllSteps.imp {good good' : σ → α → Prop} (h : ∀ s a, good s a → good' s a) :
    ∀ (as : List α) (s : σ), AllSteps step good s as → AllSteps step good' s as
  | [], _, _ => trivial
  | a :: as, s, ⟨ha, has⟩ => ⟨h s a ha, AllSteps.imp h as (step s a) has⟩

/-- The invariant rule: an invariant kept by the steps that meet `good` holds throughout
a run all of whose steps meet `good`. -/
theorem throughout_of_allSteps {good : σ → α → Prop} {I : σ → Prop}
    (hstep : ∀ s a, I s → good s a → I (step s a)) :
    ∀ (as : List α) (s : σ), I s → AllSteps step good s as → Throughout step I s as
  | [], _, hs, _ => hs
  | a :: as, s, hs, ⟨ha, has⟩ =>
      ⟨hs, throughout_of_allSteps hstep as (step s a) (hstep s a hs ha) has⟩

/-- The last state of a run is one of its states. -/
theorem Throughout.last {P : σ → Prop} :
    ∀ (as : List α) (s : σ), Throughout step P s as → P (run step s as)
  | [], _, h => h
  | a :: as, s, ⟨_, h⟩ => Throughout.last as (step s a) h

theorem Throughout.head {P : σ → Prop} :
    ∀ (as : List α) (s : σ), Throughout step P s as → P s
  | [], _, h => h
  | _ :: _, _, h => h.1

theorem Throughout.imp {P Q : σ → Prop} (h : ∀ s, P s → Q s) :
    ∀ (as : List α) (s : σ), Throughout step P s as → Throughout step Q s as
  | [], s, hs => h s hs
  | a :: as, s, ⟨hs, has⟩ => ⟨h s hs, Throughout.imp h as (step s a) has⟩

/-- When, from a state with `P` that satisfies the invariant `I`, one step keeps `P` exactly
if it meets `good`, then `P` holds throughout a run exactly if all its steps meet `good`. -/
theorem throughout_iff_allSteps {good : σ → α → Prop} {I P : σ → Prop}
    (hI : ∀ s a, I s → I (step s a))
    (hstep : ∀ s a, I s → P s → (P (step s a) ↔ good s a)) :
    ∀ (as : List α) (s : σ), I s → P s →
      (Throughout step P s as ↔ AllSteps step good s as)
  | [], _, _, hs => ⟨fun _ => trivial, fun _ => hs⟩
  | a :: as, s, hIs, hs => by
      constructor
      · rintro ⟨_, has⟩
        have hsa : P (step s a) := Throughout.head step as (step s a) has
        exact ⟨(hstep s a hIs hs).mp hsa,
          (throughout_iff_allSteps hI hstep as (step s a) (hI s a hIs) hsa).mp has⟩
      · rintro ⟨ha, has⟩
        have hsa : P (step s a) := (hstep s a hIs hs).mpr ha
        exact ⟨hs, (throughout_iff_allSteps hI hstep as (step s a) (hI s a hIs) hsa).mpr has⟩

/-- What holds throughout a run holds before and after each of its steps, next to an invariant
that every step keeps. -/
theorem Throughout.steps {I P : σ → Prop} (hI : ∀ s a, I s → I (step s a)) :
    ∀ (as : List α) (s : σ), I s → Throughout step P s as →
      AllSteps step (fun s a => I s ∧ P s ∧ P (step s a)) s as
  | [], _, _, _ => trivial
  | a :: as, s, hIs, ⟨hs, has⟩ =>
      ⟨⟨hIs, hs, Throughout.head step as (step s a) has⟩,
        Throughout.steps hI as (step s a) (hI s a hIs) has⟩

/-! ## Properties that hold until something happens -/

/-- Wherever `Q` holds in the run, it holds until a step that is `exempt`. -/
def KeptUntil (Q : σ → Prop) (exempt : σ → α → Prop) (s : σ) (as : List α) : Prop :=
  ∀ pre mid post, as = pre ++ mid ++ post → Q (run step s pre) →
    AllSteps step (fun s a => ¬ exempt s a) (run step s pre) mid → Q (run step s (pre ++ mid))

/-- A property is kept until an exempt step exactly if each step that is not exempt keeps
it. -/
theorem keptUntil_iff {Q : σ → Prop} {exempt : σ → α → Prop} (s : σ) (as : List α) :
    KeptUntil step Q exempt s as
      ↔ AllSteps step (fun s a => Q s → ¬ exempt s a → Q (step s a)) s as := by
  constructor
  · intro h
    induction as generalizing s with
    | nil => trivial
    | cons a as ih =>
        refine ⟨fun hQ ha => h [] [a] as rfl hQ ⟨ha, trivial⟩, ih (step s a) ?_⟩
        intro pre mid post heq
        exact h (a :: pre) mid post (by rw [heq]; rfl)
  · intro h pre mid post heq hQ hmid
    rw [heq, allSteps_append, allSteps_append] at h
    rw [run_append]
    exact keeps (run step s pre) mid h.1.2 hQ hmid
where
  keeps (s : σ) (mid : List α)
      (h : AllSteps step (fun s a => Q s → ¬ exempt s a → Q (step s a)) s mid) (hQ : Q s)
      (hmid : AllSteps step (fun s a => ¬ exempt s a) s mid) : Q (run step s mid) := by
    induction mid generalizing s with
    | nil => exact hQ
    | cons a mid ih => exact ih (step s a) h.2 (h.1 hQ hmid.1) hmid.2

/-- What holds of every step of a run may be stated step by step. -/
theorem allSteps_forall {ι : Sort*} {good : ι → σ → α → Prop} (s : σ) (as : List α) :
    AllSteps step (fun s a => ∀ i, good i s a) s as ↔ ∀ i, AllSteps step (good i) s as := by
  induction as generalizing s with
  | nil => simp [AllSteps]
  | cons a as ih => simp [AllSteps, ih, forall_and]

theorem allSteps_of_forall {good : σ → α → Prop} (h : ∀ s a, good s a) (s : σ) (as : List α) :
    AllSteps step good s as := by
  induction as generalizing s with
  | nil => trivial
  | cons a as ih => exact ⟨h s a, ih (step s a)⟩

theorem allSteps_congr {good good' : σ → α → Prop} (h : ∀ s a, good s a ↔ good' s a) (s : σ)
    (as : List α) : AllSteps step good s as ↔ AllSteps step good' s as :=
  ⟨AllSteps.imp step (fun s a => (h s a).mp) as s, AllSteps.imp step (fun s a => (h s a).mpr) as s⟩

/-- Conditions that are the same in the states of an invariant are the same along a run. -/
theorem allSteps_congr_of_inv {I : σ → Prop} {good good' : σ → α → Prop}
    (hI : ∀ s a, I s → I (step s a)) (h : ∀ s a, I s → (good s a ↔ good' s a)) :
    ∀ (as : List α) (s : σ), I s → (AllSteps step good s as ↔ AllSteps step good' s as)
  | [], _, _ => Iff.rfl
  | a :: as, s, hs =>
      and_congr (h s a hs) (allSteps_congr_of_inv hI h as (step s a) (hI s a hs))

end Runs
