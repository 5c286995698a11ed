import LipaLightning.Amount
import LipaLightning.Basic.DirectedRounding

set_option autoImplicit false

/-! # The rounding of amounts

`to_amount_down` and `to_amount_up` (`amount.rs`) show an amount of msats in whole sats and in
the minor units of a currency. The sats are rounded in the direction that is asked for. The
minor units are computed by two divisions, by the rate and by 1000, of which the first one
always rounds down; so rounding up can end below the exact value.
-/

namespace LipaLightning

open DirectedRounding

/-- The amount in sats. -/
def Msats.exactSats (m : Msats) : ℚ := (m.msats.toNat : ℚ) / (1000 : ℕ)

/-- The amount in minor units of a currency, at a rate of sats per major unit. -/
def Msats.exactMinorUnits (m : Msats) (rate : ExchangeRate) : ℚ :=
  ((m.msats.toNat * 100 : ℕ) : ℚ) / (rate.rate.toNat * 1000 : ℕ)

/-- Two values are shown for an exact one: rounded down and up, at most one apart, and the same
only if the exact value is an integer. -/
structure ShownRounded (exact : ℚ) (down up : UInt64) : Prop where
  rounds : Rounds exact down.toNat up.toNat
  down_le_up : down ≤ up
  up_le : up.toNat ≤ down.toNat + 1
  eq_iff : down = up ↔ ∃ n : ℕ, exact = n

/-- Both fields of the amounts are rounded in the direction that is asked for. -/
structure DirectedAmounts (m : Msats) (rate : ExchangeRate) : Prop where
  sats : ShownRounded m.exactSats (m.toAmountDown (some rate)).sats (m.toAmountUp (some rate)).sats
  fiat : ∃ down up, (m.toAmountDown (some rate)).fiat = some down ∧
    (m.toAmountUp (some rate)).fiat = some up ∧
    ShownRounded (m.exactMinorUnits rate) down.minorUnits up.minorUnits

/-- The first division leaves no remainder, or the second one rounds up anyway; and adding 999
to round up does not leave the range of `u64`. -/
def RoundsUpOnce (m : Msats) (rate : ExchangeRate) : Prop :=
  (m.msats.toNat * 100 % rate.rate.toNat = 0 ∨
    m.msats.toNat * 100 / rate.rate.toNat % 1000 ≠ 0) ∧
  m.msats.toNat * 100 / rate.rate.toNat + 999 < 2 ^ 64

instance (m : Msats) (rate : ExchangeRate) : Decidable (RoundsUpOnce m rate) :=
  inferInstanceAs (Decidable (_ ∧ _))

/-- What is rounded correctly has the other properties as well. -/
theorem shownRounded_iff {exact : ℚ} {down up : UInt64} :
    ShownRounded exact down up ↔ Rounds exact down.toNat up.toNat := by
  constructor
  · exact ShownRounded.rounds
  · intro h
    refine ⟨h, UInt64.le_iff_toNat_le.mpr h.down_le_up, h.up_le, ?_⟩
    rw [← h.down_eq_up_iff, UInt64.toNat_inj]

/-- Rounding up is the division rounded up unless it wraps. -/
theorem toNat_round_up_eq {m : UInt64} (h : m.toNat + 999 < 2 ^ 64) :
    (round m .up).toNat = m.toNat ⌈/⌉ 1000 := by
  rw [toNat_round_up, Nat.mod_eq_of_lt h, Nat.ceilDiv_eq_add_pred_div]
  rfl

/-- The quotient that the minor units are rounded from. -/
theorem toNat_quotient {m : Msats} (rate : ExchangeRate) (hfit : m.msats.toNat * 100 < 2 ^ 64) :
    (m.msats * 100 / rate.rate.toUInt64).toNat = m.msats.toNat * 100 / rate.rate.toNat := by
  have h100 : (100 : UInt64).toNat = 100 := rfl
  rw [UInt64.toNat_div, UInt64.toNat_mul, h100, Nat.mod_eq_of_lt hfit, UInt32.toNat_toUInt64]

/-- The sats are rounded in the direction that is asked for. -/
theorem rounds_sats {m : Msats} (rate : ExchangeRate) (hfit : m.msats.toNat * 100 < 2 ^ 64) :
    Rounds m.exactSats (m.toAmountDown (some rate)).sats.toNat
      (m.toAmountUp (some rate)).sats.toNat := by
  refine (rounds_iff (by norm_num)).mpr ⟨?_, ?_⟩
  · rw [Msats.toAmountDown_sats, toNat_round_down]
  · rw [Msats.toAmountUp_sats, toNat_round_up_eq (by omega)]

/-- The minor units are rounded in the direction that is asked for exactly if the remainder of
the first division makes no difference. -/
theorem rounds_minorUnits_iff {m : Msats} {rate : ExchangeRate} (hrate : 0 < rate.rate)
    (hfit : m.msats.toNat * 100 < 2 ^ 64) :
    Rounds (m.exactMinorUnits rate)
        (round (m.msats * 100 / rate.rate.toUInt64) .down).toNat
        (round (m.msats * 100 / rate.rate.toUInt64) .up).toNat ↔
      RoundsUpOnce m rate := by
  have hpos : 0 < rate.rate.toNat := UInt32.lt_iff_toNat_lt.mp hrate
  have hquotient := toNat_quotient rate hfit
  have hdown : (round (m.msats * 100 / rate.rate.toUInt64) .down).toNat
      = m.msats.toNat * 100 / (rate.rate.toNat * 1000) := by
    rw [toNat_round_down, hquotient, Nat.div_div_eq_div_mul]
  rw [Msats.exactMinorUnits, rounds_iff (Nat.mul_pos hpos (by norm_num)), and_iff_right hdown,
    RoundsUpOnce]
  by_cases hwrap : m.msats.toNat * 100 / rate.rate.toNat + 999 < 2 ^ 64
  · rw [toNat_round_up_eq (by rwa [hquotient]), hquotient, ceilDiv_div hpos (by norm_num),
      and_iff_left hwrap]
  · -- the sum wraps to nothing, but the exact value is positive
    have hzero : (round (m.msats * 100 / rate.rate.toUInt64) .up).toNat = 0 := by
      have := (m.msats * 100 / rate.rate.toUInt64).toNat_lt
      rw [toNat_round_up]
      omega
    refine iff_of_false (fun h => ?_) (fun h => hwrap h.2)
    rw [hzero, eq_comm, Nat.le_zero.symm, ceilDiv_le_iff_le_smul (Nat.mul_pos hpos (by norm_num)),
      smul_zero, Nat.le_zero] at h
    rw [h, Nat.zero_div] at hwrap
    omega

/-- **Amounts are rounded as asked for** exactly if the first division leaves no remainder or
the second one rounds up anyway. -/
theorem directedAmounts_iff {m : Msats} {rate : ExchangeRate} (hrate : 0 < rate.rate)
    (hfit : m.msats.toNat * 100 < 2 ^ 64) : DirectedAmounts m rate ↔ RoundsUpOnce m rate := by
  rw [← rounds_minorUnits_iff hrate hfit, ← shownRounded_iff]
  constructor
  · rintro ⟨-, down, up, hdown, hup, h⟩
    obtain rfl := Option.some.inj hdown
    obtain rfl := Option.some.inj hup
    exact h
  · intro h
    exact ⟨shownRounded_iff.mpr (rounds_sats rate hfit), _, _, rfl, rfl, h⟩

/-- 12 349 123 msats at 4256 sats per unit. -/
theorem directedAmounts_iff_test :
    DirectedAmounts ⟨12349123⟩ ⟨"EUR", 4256, 0⟩ ↔ RoundsUpOnce ⟨12349123⟩ ⟨"EUR", 4256, 0⟩ :=
  directedAmounts_iff (by decide) (by decide)

/-- 30 001 msats at 3000 sats per unit are a bit more than one minor unit, and rounding up gives
one. -/
theorem rounding_up_below_exact :
    ¬ ∀ (m : Msats) (rate : ExchangeRate), 0 < rate.rate → m.msats.toNat * 100 < 2 ^ 64 →
      DirectedAmounts m rate := by
  intro h
  obtain ⟨down, up, hdown, hup, hrounded⟩ :=
    (h ⟨30001⟩ ⟨"EUR", 3000, 0⟩ (by decide) (by decide)).fiat
  obtain rfl := Option.some.inj hdown
  obtain rfl := Option.some.inj hup
  exact absurd ((rounds_minorUnits_iff (by decide) (by decide)).mp hrounded.rounds) (by decide)

end LipaLightning
