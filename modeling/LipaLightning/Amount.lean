import Mathlib.Tactic

set_option autoImplicit false

/-! # Amounts

Amounts in sats and in msats, and their conversion to the `Amount` shown to the user
(`amount.rs`). All quantities are `u64`, so the arithmetic wraps as it does in the release
profile of the source.
-/

namespace LipaLightning

/-- `std::time::SystemTime`, in nanoseconds since the Unix epoch. -/
abbrev SystemTime := Int

/-- Exchange rate as sats per major unit (`exchange_rate_provider.rs`). -/
structure ExchangeRate where
  currencyCode : String
  rate : UInt32
  updatedAt : SystemTime
  deriving DecidableEq, Repr

structure Sats where
  sats : UInt64
  msats : UInt64
  deriving DecidableEq, Repr

def Sats.new (sats : UInt64) : Sats := ⟨sats, sats * 1000⟩

structure Msats where
  msats : UInt64
  deriving DecidableEq, Repr

def asSats (n : UInt64) : Sats := Sats.new n

def asMsats (n : UInt64) : Msats := ⟨n⟩

inductive Rounding where
  | up
  | down
  deriving DecidableEq, Repr

def round (msat : UInt64) : Rounding → UInt64
  | .up => (msat + 999) / 1000
  | .down => msat / 1000

def Msats.satsRoundUp (m : Msats) : Sats := Sats.new (round m.msats .up)

def Msats.satsRoundDown (m : Msats) : Sats := Sats.new (round m.msats .down)

/-- A fiat value accompanied by the exchange rate that was used to get it. -/
structure FiatValue where
  minorUnits : UInt64
  currencyCode : String
  rate : UInt32
  convertedAt : SystemTime
  deriving DecidableEq, Repr

/-- A sat amount accompanied by its fiat value in a specific fiat currency. -/
structure Amount where
  sats : UInt64
  fiat : Option FiatValue
  deriving DecidableEq, Repr

def Amount.toMsats (a : Amount) : UInt64 := (asSats a.sats).msats

/-- The conversion of an amount. The source panics at a rate of `0`, where the division of
`UInt64` gives `0`. -/
def msatsToAmount (rounding : Rounding) (msats : UInt64) (rate : Option ExchangeRate) : Amount where
  sats := round msats rounding
  fiat := rate.map fun rate =>
    { minorUnits := round (msats * 100 / rate.rate.toUInt64) rounding
      currencyCode := rate.currencyCode
      rate := rate.rate
      convertedAt := rate.updatedAt }

def Sats.toAmountUp (s : Sats) (rate : Option ExchangeRate) : Amount :=
  msatsToAmount .up s.msats rate

def Sats.toAmountDown (s : Sats) (rate : Option ExchangeRate) : Amount :=
  msatsToAmount .down s.msats rate

def Msats.toAmountUp (m : Msats) (rate : Option ExchangeRate) : Amount :=
  msatsToAmount .up m.msats rate

def Msats.toAmountDown (m : Msats) (rate : Option ExchangeRate) : Amount :=
  msatsToAmount .down m.msats rate

/-! ## The sats of an amount -/

@[simp] theorem msatsToAmount_sats (rounding : Rounding) (msats : UInt64)
    (rate : Option ExchangeRate) :
    (msatsToAmount rounding msats rate).sats = round msats rounding := rfl

@[simp] theorem Sats.toAmountUp_sats (s : Sats) (rate : Option ExchangeRate) :
    (s.toAmountUp rate).sats = round s.msats .up := rfl

@[simp] theorem Sats.toAmountDown_sats (s : Sats) (rate : Option ExchangeRate) :
    (s.toAmountDown rate).sats = round s.msats .down := rfl

@[simp] theorem Msats.toAmountUp_sats (m : Msats) (rate : Option ExchangeRate) :
    (m.toAmountUp rate).sats = round m.msats .up := rfl

@[simp] theorem Msats.toAmountDown_sats (m : Msats) (rate : Option ExchangeRate) :
    (m.toAmountDown rate).sats = round m.msats .down := rfl

/-! ## Rounding within `u64` -/

/-- An amount of sats that `u64` can hold in msats, also when it is rounded up. -/
def FitsMsats (sats : UInt64) : Prop := sats.toNat < 2 ^ 64 / 1000

theorem toNat_round_up (m : UInt64) : (round m .up).toNat = (m.toNat + 999) % 2 ^ 64 / 1000 := by
  simp [round]

theorem toNat_round_down (m : UInt64) : (round m .down).toNat = m.toNat / 1000 := by
  simp [round]

theorem toNat_msats (n : UInt64) : (asSats n).msats.toNat = n.toNat * 1000 % 2 ^ 64 := by
  simp [asSats, Sats.new]

/-- What a sum wraps to. -/
theorem add_mod_of_wraps {a b : ℕ} (ha : a < 2 ^ 64) (hb : b < 2 ^ 64) (h : ¬ a + b < 2 ^ 64) :
    (a + b) % 2 ^ 64 = a + b - 2 ^ 64 := by
  omega

theorem FitsMsats.of_le {a b : UInt64} (hb : FitsMsats b) (h : a ≤ b) : FitsMsats a := by
  unfold FitsMsats at hb ⊢
  rw [UInt64.le_iff_toNat_le] at h
  omega

theorem le_msats {n : UInt64} (h : FitsMsats n) : n ≤ (asSats n).msats := by
  unfold FitsMsats at h
  rw [UInt64.le_iff_toNat_le, toNat_msats, Nat.mod_eq_of_lt (by omega)]
  omega

theorem round_up_asSats {n : UInt64} (h : FitsMsats n) : round (asSats n).msats .up = n := by
  unfold FitsMsats at h
  apply UInt64.toNat_inj.mp
  rw [toNat_round_up, toNat_msats]
  omega

/-- An amount that fits in msats is rounded down to itself, any other one to less. -/
theorem toNat_round_down_asSats_eq_iff (n : UInt64) :
    (round (asSats n).msats .down).toNat = n.toNat ↔ n.toNat * 1000 < 2 ^ 64 := by
  rw [toNat_round_down, toNat_msats]
  omega

theorem round_down_msats {n : UInt64} (hfits : n.toNat * 1000 < 2 ^ 64) :
    round (asSats n).msats .down = n :=
  UInt64.toNat_inj.mp ((toNat_round_down_asSats_eq_iff n).mpr hfits)

theorem round_down_asSats {n : UInt64} (h : FitsMsats n) : round (asSats n).msats .down = n := by
  have hfits : n.toNat * 1000 < 2 ^ 64 := by
    unfold FitsMsats at h
    omega
  exact round_down_msats hfits

theorem round_up_asSats_le (n : UInt64) : round (asSats n).msats .up ≤ n := by
  rw [UInt64.le_iff_toNat_le, toNat_round_up, toNat_msats]
  omega

end LipaLightning
