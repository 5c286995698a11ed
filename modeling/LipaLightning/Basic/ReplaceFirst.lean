import Mathlib.Data.List.Infix

set_option autoImplicit false

/-! # Replacing the first occurrence of a pattern

Where a pattern first occurs in a list, and the list with that occurrence replaced. The replacement
can be read back from the result exactly if the pattern occurs at all.
-/

namespace ReplaceFirst

variable {α : Type} [DecidableEq α]

/-- What comes before the first occurrence of the pattern, and what comes after it. -/
def around (pattern : List α) : List α → Option (List α × List α)
  | [] => if pattern = [] then some ([], []) else none
  | a :: l =>
      if pattern <+: a :: l then some ([], (a :: l).drop pattern.length)
      else (around pattern l).map fun sides => (a :: sides.1, sides.2)

/-- The list with the first occurrence of the pattern replaced. -/
def replaceFirst (pattern replacement l : List α) : List α :=
  match around pattern l with
  | none => l
  | some (before, after) => before ++ replacement ++ after

/-- Read the replacement from a list made of the same sides. -/
def readBack (pattern l result : List α) : Option (List α) :=
  match around pattern l with
  | none => none
  | some (before, after) =>
      if before <+: result ∧ after <:+ result.drop before.length then
        some ((result.drop before.length).take (result.length - before.length - after.length))
      else none

variable {pattern l : List α}

theorem around_eq_none_iff : around pattern l = none ↔ ¬ pattern <:+: l := by
  induction l with
  | nil =>
      unfold around
      rw [List.infix_nil]
      split
      · rename_i hnil
        simp [hnil]
      · rename_i hnil
        simp [hnil]
  | cons a l ih =>
      unfold around
      rw [List.infix_cons_iff, not_or]
      split
      · rename_i hstarts
        simp [hstarts]
      · rename_i hstarts
        rw [Option.map_eq_none_iff, ih]
        simp [hstarts]

/-- A list without the pattern stays as it is. -/
theorem replaceFirst_eq_self (h : ¬ pattern <:+: l) (replacement : List α) :
    replaceFirst pattern replacement l = l := by
  unfold replaceFirst
  rw [around_eq_none_iff.mpr h]

/-- The replacement is read back from the result. -/
theorem readBack_replaceFirst (h : pattern <:+: l) (replacement : List α) :
    readBack pattern l (replaceFirst pattern replacement l) = some replacement := by
  unfold readBack replaceFirst
  cases haround : around pattern l with
  | none => exact absurd h (around_eq_none_iff.mp haround)
  | some sides =>
      obtain ⟨before, after⟩ := sides
      have hdrop : (before ++ replacement ++ after).drop before.length = replacement ++ after := by
        rw [List.append_assoc, List.drop_left]
      have hlength : (before ++ replacement ++ after).length - before.length - after.length
          = replacement.length := by
        simp only [List.length_append]
        omega
      dsimp only
      rw [hdrop, hlength, List.take_left, if_pos]
      constructor
      · rw [List.append_assoc]
        exact List.prefix_append before _
      · exact List.suffix_append replacement after

end ReplaceFirst
