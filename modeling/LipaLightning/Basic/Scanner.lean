import Mathlib.Data.List.Induction

set_option autoImplicit false

/-! # Scanners

A deterministic scanner reads a word letter by letter and stops where it has no transition.
When every state can still be completed, the words it reads are exactly the prefixes of the
words it accepts, so the place where it stops is the first letter that no accepted word has.
-/

/-- A deterministic automaton over `α` whose transitions are partial. -/
structure Scanner (σ α : Type) where
  start : σ
  step : σ → α → Option σ
  accept : σ → Prop

namespace Scanner

variable {σ α : Type} (M : Scanner σ α)

/-- The state after reading a word from `q`. -/
def run (q : σ) : List α → Option σ
  | [] => some q
  | a :: w => (M.step q a).bind fun q' => run q' w

/-- The language of the scanner. -/
def Accepts (w : List α) : Prop := ∃ q, M.run M.start w = some q ∧ M.accept q

/-- A word that some accepted word continues. -/
def Viable (w : List α) : Prop := ∃ rest, M.Accepts (w ++ rest)

/-- Every state can be completed to an accepting one. -/
def Trim : Prop := ∀ q, ∃ w q', M.run q w = some q' ∧ M.accept q'

@[simp] theorem run_nil (q : σ) : M.run q [] = some q := rfl

@[simp] theorem run_cons (q : σ) (a : α) (w : List α) :
    M.run q (a :: w) = (M.step q a).bind fun q' => M.run q' w := rfl

theorem run_append (q : σ) (w v : List α) :
    M.run q (w ++ v) = (M.run q w).bind fun q' => M.run q' v := by
  induction w generalizing q with
  | nil => rfl
  | cons a w ih =>
      rw [List.cons_append, run_cons, run_cons, Option.bind_assoc]
      congr 1
      funext q'
      exact ih q'

variable {M}

/-- Two reads in a row. -/
theorem run_trans {q q' q'' : σ} {w v : List α} (hw : M.run q w = some q')
    (hv : M.run q' v = some q'') : M.run q (w ++ v) = some q'' := by
  rw [run_append, hw, Option.bind_some, hv]

theorem run_snoc {q q' q'' : σ} {w : List α} {a : α} (hw : M.run q w = some q')
    (ha : M.step q' a = some q'') : M.run q (w ++ [a]) = some q'' :=
  run_trans hw (by simp [ha])

theorem accepts_iff {w : List α} {q : σ} (hw : M.run M.start w = some q) :
    M.Accepts w ↔ M.accept q := by
  constructor
  · rintro ⟨q', hq', haccept⟩
    obtain rfl : q = q' := by simpa [hw] using hq'
    exact haccept
  · exact fun haccept => ⟨q, hw, haccept⟩

/-- What holds at the start and after every letter holds after a word. -/
theorem run_induction {P : σ → List α → Prop} (hstart : P M.start [])
    (hstep : ∀ q w a q', P q w → M.step q a = some q' → P q' (w ++ [a])) {w : List α} {q : σ}
    (hw : M.run M.start w = some q) : P q w := by
  induction w using List.reverseRecOn generalizing q with
  | nil =>
      cases hw
      exact hstart
  | append_singleton w a ih =>
      rw [run_append, Option.bind_eq_some_iff] at hw
      obtain ⟨q', hq', ha⟩ := hw
      rw [run_cons, Option.bind_eq_some_iff] at ha
      obtain ⟨q'', hq'', hq⟩ := ha
      cases hq
      exact hstep q' w a q (ih hq') hq''

/-- A word that was read is viable. -/
theorem viable_of_run (htrim : M.Trim) {w : List α} {q : σ} (hw : M.run M.start w = some q) :
    M.Viable w := by
  obtain ⟨v, q', hv, haccept⟩ := htrim q
  exact ⟨v, q', run_trans hw hv, haccept⟩

/-- A letter without a transition is the end of what is viable. -/
theorem not_viable_of_stuck {w : List α} {q : σ} {a : α} (hw : M.run M.start w = some q)
    (ha : M.step q a = none) : ¬ M.Viable (w ++ [a]) := by
  rintro ⟨rest, q', hrun, -⟩
  rw [List.append_assoc, run_append, hw, Option.bind_some, List.singleton_append, run_cons, ha]
    at hrun
  cases hrun

/-- A run that is stuck after a word does not read further. -/
theorem run_stuck {w : List α} {q : σ} {a : α} (hw : M.run M.start w = some q)
    (ha : M.step q a = none) (rest : List α) : M.run M.start (w ++ a :: rest) = none := by
  rw [run_append, hw, Option.bind_some, run_cons, ha]
  rfl

/-- A word is stuck at one place only. -/
theorem eq_of_stuck {w w' rest rest' : List α} {q q' : σ} {a a' : α}
    (h : w ++ a :: rest = w' ++ a' :: rest') (hw : M.run M.start w = some q)
    (ha : M.step q a = none) (hw' : M.run M.start w' = some q') (ha' : M.step q' a' = none) :
    w = w' := by
  rcases List.append_eq_append_iff.mp h with ⟨v, rfl, hv⟩ | ⟨v, rfl, hv⟩
  · cases v with
    | nil => exact (List.append_nil w).symm
    | cons b v =>
        obtain ⟨rfl, -⟩ := List.cons.inj hv
        rw [run_stuck hw ha v] at hw'
        cases hw'
  · cases v with
    | nil => exact List.append_nil w'
    | cons b v =>
        obtain ⟨rfl, -⟩ := List.cons.inj hv
        rw [run_stuck hw' ha' v] at hw
        cases hw

end Scanner
