import Mathlib.Algebra.Order.Floor.Div
import Mathlib.Algebra.Order.Floor.Semifield
import Mathlib.Data.Rat.Floor
import Mathlib.Tactic.FieldSimp
import Mathlib.Tactic.Linarith
import Mathlib.Tactic.Ring

set_option autoImplicit false

/-! # Directed rounding

A quotient of natural numbers is rounded down to the greatest integer that is not above it and
up to the least integer that is not below it (`Rounds`). A quotient by a product can be
computed by two divisions. Rounding down loses nothing by this; rounding up after a division
that rounds down is right exactly under the condition of `ceilDiv_div`.
-/

namespace DirectedRounding

/-- `down` is the greatest integer not above `exact`, and `up` the least one not below it. -/
structure Rounds (exact : ℚ) (down up : ℕ) : Prop where
  isGreatest : IsGreatest {n : ℕ | (n : ℚ) ≤ exact} down
  isLeast : IsLeast {n : ℕ | exact ≤ n} up

namespace Rounds

variable {exact : ℚ} {down up : ℕ}

theorem down_le_up (h : Rounds exact down up) : down ≤ up := by
  have hle : (down : ℚ) ≤ up := le_trans h.isGreatest.1 h.isLeast.1
  exact_mod_cast hle

/-- The integer after `down` is above the exact value. -/
theorem up_le (h : Rounds exact down up) : up ≤ down + 1 := by
  refine h.isLeast.2 ?_
  by_contra hnot
  have hlt : ((down + 1 : ℕ) : ℚ) < exact := not_le.mp hnot
  have := h.isGreatest.2 hlt.le
  omega

/-- Both roundings give the same exactly if there is nothing to round. -/
theorem down_eq_up_iff (h : Rounds exact down up) : down = up ↔ ∃ n : ℕ, exact = n := by
  constructor
  · rintro rfl
    exact ⟨down, le_antisymm h.isLeast.1 h.isGreatest.1⟩
  · rintro ⟨n, rfl⟩
    have hdown : n ≤ down := h.isGreatest.2 (le_refl (n : ℚ))
    have hup : up ≤ n := h.isLeast.2 (le_refl (n : ℚ))
    exact le_antisymm h.down_le_up (le_trans hup hdown)

end Rounds

variable {a b c n : ℕ}

theorem isGreatest_div : IsGreatest {n : ℕ | (n : ℚ) ≤ (a : ℚ) / b} (a / b) := by
  have hfloor : ⌊(a : ℚ) / b⌋₊ = a / b := Nat.floor_div_eq_div a b
  rw [← hfloor]
  have hnonneg : (0 : ℚ) ≤ (a : ℚ) / b := by positivity
  exact ⟨Nat.floor_le hnonneg, fun n hn => Nat.le_floor hn⟩

/-- An integer is not below a quotient exactly if it is not below the quotient rounded up. -/
theorem div_le_iff_ceilDiv_le (hb : 0 < b) : (a : ℚ) / b ≤ n ↔ a ⌈/⌉ b ≤ n := by
  have hpos : (0 : ℚ) < b := by exact_mod_cast hb
  rw [div_le_iff₀ hpos, ceilDiv_le_iff_le_smul hb, smul_eq_mul, mul_comm]
  exact_mod_cast Iff.rfl

theorem isLeast_iff (hb : 0 < b) : IsLeast {n : ℕ | (a : ℚ) / b ≤ n} n ↔ n = a ⌈/⌉ b := by
  have hset : {n : ℕ | (a : ℚ) / b ≤ n} = Set.Ici (a ⌈/⌉ b) :=
    Set.ext fun n => div_le_iff_ceilDiv_le hb
  rw [hset]
  exact ⟨fun h => h.unique isLeast_Ici, fun h => h ▸ isLeast_Ici⟩

/-- A quotient is rounded by a pair of integers exactly if these are the two divisions. -/
theorem rounds_iff {down up : ℕ} (hb : 0 < b) :
    Rounds ((a : ℚ) / b) down up ↔ down = a / b ∧ up = a ⌈/⌉ b := by
  constructor
  · rintro ⟨hdown, hup⟩
    exact ⟨hdown.unique isGreatest_div, (isLeast_iff hb).mp hup⟩
  · rintro ⟨rfl, rfl⟩
    exact ⟨isGreatest_div, (isLeast_iff hb).mpr rfl⟩

/-! ## Two divisions -/

/-- Rounding up is adding one to the quotient unless the division is exact. -/
theorem ceilDiv_eq (hb : 0 < b) : a ⌈/⌉ b = a / b + if a % b = 0 then 0 else 1 := by
  rw [Nat.ceilDiv_eq_add_pred_div]
  have hmod := Nat.mod_lt a hb
  have hdiv := Nat.div_add_mod a b
  split
  · next h =>
    rw [Nat.add_zero, Nat.div_eq_of_lt_le]
    · rw [mul_comm]
      omega
    · rw [add_mul, mul_comm]
      omega
  · next h =>
    rw [Nat.div_eq_of_lt_le]
    · rw [add_mul, mul_comm]
      omega
    · rw [add_mul, add_mul, mul_comm]
      omega

/-- A quotient by a product is exact if both divisions are. -/
theorem mod_mul_eq_zero_iff (hb : 0 < b) :
    a % (b * c) = 0 ↔ a % b = 0 ∧ a / b % c = 0 := by
  rw [Nat.mod_mul]
  constructor
  · intro h
    have hleft : a % b = 0 := by omega
    have hright : b * (a / b % c) = 0 := by omega
    exact ⟨hleft, (Nat.mul_eq_zero.mp hright).resolve_left (Nat.ne_of_gt hb)⟩
  · rintro ⟨h1, h2⟩
    rw [h1, h2, Nat.mul_zero]

/-- **Rounding up after a division that rounds down.** The result is the quotient by the product
rounded up exactly if the first division is exact, or the second one rounds up anyway. -/
theorem ceilDiv_div (hb : 0 < b) (hc : 0 < c) :
    (a / b) ⌈/⌉ c = a ⌈/⌉ (b * c) ↔ a % b = 0 ∨ a / b % c ≠ 0 := by
  rw [ceilDiv_eq hc, ceilDiv_eq (Nat.mul_pos hb hc), Nat.div_div_eq_div_mul, Nat.add_right_inj]
  have hexact := mod_mul_eq_zero_iff (a := a) (c := c) hb
  by_cases h1 : a % b = 0
  · by_cases h2 : a / b % c = 0
    · simp [h1, h2, hexact.mpr ⟨h1, h2⟩]
    · have h3 : ¬ a % (b * c) = 0 := fun h => h2 (hexact.mp h).2
      simp [h1, h2, h3]
  · have h3 : ¬ a % (b * c) = 0 := fun h => h1 (hexact.mp h).1
    by_cases h2 : a / b % c = 0 <;> simp [h1, h2, h3]

end DirectedRounding
