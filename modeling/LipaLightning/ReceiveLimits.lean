import LipaLightning.Support

set_option autoImplicit false

/-! # The limits for receiving a payment

`Lightning::determine_receive_amount_limits` (`lightning/mod.rs`) tells the user before an amount
is entered what can be received: up to which amount there is no setup fee, or from which amount
on there is one and the payment is large enough to bear it. `calculate_lsp_fee_for_amount` decides
for the amount itself. The limits start from the whole inbound capacity of the node, the fee from
what a single payment can bring, which can be less.
-/

namespace LipaLightning

/-- `node_config::ReceiveLimitsConfig`. -/
structure ReceiveLimitsConfig where
  maxReceiveAmountSat : UInt64
  /-- What the smallest LSP fee in sats is multiplied to, in floating point:
  `(fee as f64 * min_receive_channel_open_fee_multiplier) as u64`. -/
  minReceiveChannelOpenFeeMultiplier : UInt64 → UInt64

inductive LiquidityLimit where
  | none
  /-- Soft limit: the maximum amount a user can receive without being charged a setup fee. -/
  | maxFreeReceive (amount : Amount)
  /-- Hard limit: the minimum amount a user must receive with the next payment. -/
  | minReceive (amount : Amount)
  deriving DecidableEq, Repr

structure ReceiveAmountLimits where
  maxReceive : Amount
  liquidityLimit : LiquidityLimit
  deriving DecidableEq, Repr

structure LspFee where
  channelMinimumFee : Amount
  channelFeePermyriad : UInt64
  deriving DecidableEq, Repr

namespace ReceiveAmountLimits

def calculate (inboundCapacitySat lspMinFeeSat : UInt64) (exchangeRate : Option ExchangeRate)
    (receiveLimitsConfig : ReceiveLimitsConfig) : ReceiveAmountLimits :=
  let minReceiveSat := receiveLimitsConfig.minReceiveChannelOpenFeeMultiplier lspMinFeeSat
  { maxReceive := (asSats receiveLimitsConfig.maxReceiveAmountSat).toAmountDown exchangeRate
    liquidityLimit :=
      if inboundCapacitySat < minReceiveSat then
        .minReceive ((asSats minReceiveSat).toAmountUp exchangeRate)
      else if inboundCapacitySat < receiveLimitsConfig.maxReceiveAmountSat then
        .maxFreeReceive ((asSats inboundCapacitySat).toAmountDown exchangeRate)
      else .none }

/-- The user is told that the amount can be received without a setup fee. -/
def ShownFree (limits : ReceiveAmountLimits) (amountSat : UInt64) : Prop :=
  amountSat ≤ limits.maxReceive.sats ∧
    match limits.liquidityLimit with
    | .none => True
    | .maxFreeReceive amount => amountSat ≤ amount.sats
    | .minReceive _ => False

/-- The user is told that there is a setup fee for the amount. -/
def ShownCharged (limits : ReceiveAmountLimits) (amountSat : UInt64) : Prop :=
  amountSat ≤ limits.maxReceive.sats ∧
    match limits.liquidityLimit with
    | .none => False
    | .maxFreeReceive amount => amount.sats < amountSat
    | .minReceive amount => amount.sats ≤ amountSat

instance (limits : ReceiveAmountLimits) (amountSat : UInt64) :
    Decidable (limits.ShownFree amountSat) := by
  unfold ShownFree
  cases limits.liquidityLimit <;> exact inferInstance

instance (limits : ReceiveAmountLimits) (amountSat : UInt64) :
    Decidable (limits.ShownCharged amountSat) := by
  unfold ShownCharged
  cases limits.liquidityLimit <;> exact inferInstance

end ReceiveAmountLimits

namespace Support

/-- `Lightning::get_lsp_fee_params`. -/
def getLspFeeParams (self : Support) : Result OpeningFeeParams := self.taskManager.getCheaperLspFee

/-- `Lightning::get_lsp_fee`. -/
def getLspFee (self : Support) : Result LspFee := do
  let lspFee ← self.getLspFeeParams
  .ok
    { channelMinimumFee := (asMsats lspFee.minMsat).toAmountUp self.getExchangeRate
      channelFeePermyriad := lspFee.proportional.toUInt64 / 100 }

/-- `Lightning::determine_receive_amount_limits`. -/
def determineReceiveAmountLimits (self : Support) (receiveLimitsConfig : ReceiveLimitsConfig)
    (nodeState : Except String NodeState) : Result ReceiveAmountLimits := do
  let lspFee ← self.getLspFee
  let nodeInfo ← self.getNodeInfo nodeState
  .ok (ReceiveAmountLimits.calculate nodeInfo.channelsInfo.totalInboundCapacity.sats
    lspFee.channelMinimumFee.sats self.getExchangeRate receiveLimitsConfig)

/-- `Lightning::calculate_lsp_fee_for_amount`. -/
def calculateLspFee (self : Support) (nodeState : Except String NodeState) (amountSat : UInt64) :
    Result CalculateLspFeeResponseV2 := do
  let lspFeeParams ← self.getLspFeeParams
  self.calculateLspFeeForAmount nodeState amountSat lspFeeParams

/-! ## The fee of an amount -/

/-- With a smallest fee that is not zero, an amount is free exactly up to what the node can
receive in a single payment. -/
theorem lspFeeSats_eq_zero_iff (nodeState : NodeState) {p : OpeningFeeParams} (hpos : 0 < p.minMsat)
    (hfits : p.minMsat.toNat + 999 < 2 ^ 64) (a : UInt64) :
    lspFeeSats nodeState p a = 0 ↔
      a ≤ round nodeState.maxReceivableSinglePaymentAmountMsat .down := by
  have hpos' : 0 < p.minMsat.toNat := UInt64.lt_iff_toNat_lt.mp hpos
  rw [← UInt64.toNat_inj, lspFeeSats, toNat_round_up]
  by_cases ha : a > round nodeState.maxReceivableSinglePaymentAmountMsat .down
  · have hcharged : ¬ a ≤ round nodeState.maxReceivableSinglePaymentAmountMsat .down :=
      UInt64.not_le.mpr ha
    rw [if_pos ha, toNat_channelOpeningFeeMsat]
    refine iff_of_false ?_ hcharged
    have hbound : a.toNat * p.proportional.toNat % 2 ^ 64 < 2 ^ 64 := Nat.mod_lt _ (by norm_num)
    have hfitsMax : max (a.toNat * p.proportional.toNat % 2 ^ 64 / 1000000 * 1000) p.minMsat.toNat
        + 999 < 2 ^ 64 := by omega
    rw [Nat.mod_eq_of_lt hfitsMax]
    show ¬ (max _ p.minMsat.toNat + 999) / 1000 = 0
    omega
  · rw [if_neg ha]
    exact iff_of_true rfl (UInt64.not_lt.mp ha)

/-- A proportional fee is at most the amount, so that an amount that is not below the smallest
fee is not below its fee. -/
theorem lspFeeSats_le (nodeState : NodeState) {p : OpeningFeeParams}
    (hp : p.proportional.toNat ≤ 1000000) {a : UInt64} (ha : round p.minMsat .up ≤ a) :
    lspFeeSats nodeState p a ≤ a := by
  rw [UInt64.le_iff_toNat_le] at ha ⊢
  rw [toNat_round_up] at ha
  rw [lspFeeSats, toNat_round_up]
  by_cases hcharged : a > round nodeState.maxReceivableSinglePaymentAmountMsat .down
  · rw [if_pos hcharged, toNat_channelOpeningFeeMsat]
    have hprop : a.toNat * p.proportional.toNat % 2 ^ 64 / 1000000 ≤ a.toNat := by
      have hmod : a.toNat * p.proportional.toNat % 2 ^ 64 ≤ a.toNat * p.proportional.toNat :=
        Nat.mod_le _ _
      have hmul : a.toNat * p.proportional.toNat ≤ a.toNat * 1000000 :=
        Nat.mul_le_mul_left _ hp
      omega
    have hbound : a.toNat * p.proportional.toNat % 2 ^ 64 < 2 ^ 64 := Nat.mod_lt _ (by norm_num)
    exact Nat.le_of_lt_succ (max_roundUp_lt (by omega) (by omega) (by omega))
  · rw [if_neg hcharged]
    exact Nat.zero_le _

end Support

/-! ## What the limits show -/

namespace ReceiveAmountLimits

variable {inbound fee : UInt64} {rate : Option ExchangeRate} {config : ReceiveLimitsConfig}

/-- An amount is shown as free within the inbound capacity, if that reaches the smallest amount
with a fee. -/
theorem shownFree_calculate (hinbound : inbound.toNat * 1000 < 2 ^ 64)
    (hmax : FitsMsats config.maxReceiveAmountSat) (a : UInt64) :
    (calculate inbound fee rate config).ShownFree a ↔
      a ≤ config.maxReceiveAmountSat ∧ config.minReceiveChannelOpenFeeMultiplier fee ≤ inbound ∧
        a ≤ inbound := by
  unfold ShownFree calculate
  rw [Sats.toAmountDown_sats, round_down_asSats hmax]
  apply and_congr_right
  intro ha
  by_cases hmin : inbound < config.minReceiveChannelOpenFeeMultiplier fee
  · simp only [if_pos hmin, false_iff, not_and]
    intro hle
    exact absurd hmin (UInt64.not_lt.mpr hle)
  · have hle : config.minReceiveChannelOpenFeeMultiplier fee ≤ inbound := UInt64.not_lt.mp hmin
    simp only [if_neg hmin]
    by_cases hcap : inbound < config.maxReceiveAmountSat
    · simp only [if_pos hcap, Sats.toAmountDown_sats, round_down_msats hinbound, hle, true_and]
    · simp only [if_neg hcap, hle, true_and, true_iff]
      exact UInt64.le_trans ha (UInt64.not_lt.mp hcap)

/-- An amount is shown with a fee from the smallest such amount on, or above the inbound capacity
if that reaches further. -/
theorem shownCharged_calculate (hinbound : inbound.toNat * 1000 < 2 ^ 64)
    (hmax : FitsMsats config.maxReceiveAmountSat)
    (hmin : FitsMsats (config.minReceiveChannelOpenFeeMultiplier fee)) (a : UInt64) :
    (calculate inbound fee rate config).ShownCharged a ↔
      a ≤ config.maxReceiveAmountSat ∧ config.minReceiveChannelOpenFeeMultiplier fee ≤ a ∧
        inbound < a := by
  unfold ShownCharged calculate
  rw [Sats.toAmountDown_sats, round_down_asSats hmax]
  apply and_congr_right
  intro ha
  by_cases hlow : inbound < config.minReceiveChannelOpenFeeMultiplier fee
  · simp only [if_pos hlow, Sats.toAmountUp_sats, round_up_asSats hmin]
    exact ⟨fun h => ⟨h, UInt64.lt_of_lt_of_le hlow h⟩, And.left⟩
  · have hle : config.minReceiveChannelOpenFeeMultiplier fee ≤ inbound := UInt64.not_lt.mp hlow
    simp only [if_neg hlow]
    by_cases hcap : inbound < config.maxReceiveAmountSat
    · simp only [if_pos hcap, Sats.toAmountDown_sats, round_down_msats hinbound]
      exact ⟨fun h => ⟨UInt64.le_of_lt (UInt64.lt_of_le_of_lt hle h), h⟩, And.right⟩
    · simp only [if_neg hcap, false_iff, not_and]
      intro _ hlt
      exact hcap (UInt64.lt_of_lt_of_le hlt ha)

end ReceiveAmountLimits

/-! ## Limits and fees -/

/-- The limits show every amount as what it is: the amounts shown as free are within `receivable`,
those shown with a fee above it. The one that decides is the largest free or the smallest charged
amount. -/
theorem shown_iff_bounds (receivable inbound minimum maximum : UInt64) :
    (∀ a : UInt64,
      (a ≤ maximum ∧ minimum ≤ inbound ∧ a ≤ inbound → a ≤ receivable) ∧
      (a ≤ maximum ∧ minimum ≤ a ∧ inbound < a → receivable < a)) ↔
    (minimum ≤ inbound → maximum ≤ receivable ∨ inbound ≤ receivable) ∧
      (minimum ≤ inbound → inbound < maximum → receivable ≤ inbound) ∧
      (inbound < minimum → minimum ≤ maximum → receivable < minimum) := by
  constructor
  · intro h
    refine ⟨?_, ?_, ?_⟩
    · intro hmin
      rcases UInt64.le_total maximum inbound with hcap | hcap
      · exact .inl ((h maximum).1 ⟨UInt64.le_refl _, hmin, hcap⟩)
      · exact .inr ((h inbound).1 ⟨hcap, hmin, UInt64.le_refl _⟩)
    · intro hmin hcap
      have hnext : (inbound + 1).toNat = inbound.toNat + 1 := by
        have hlt := UInt64.lt_iff_toNat_lt.mp hcap
        have hmax := maximum.toNat_lt
        rw [UInt64.toNat_add]
        show (inbound.toNat + 1) % 2 ^ 64 = _
        omega
      have hcharged := (h (inbound + 1)).2
      simp only [UInt64.le_iff_toNat_le, UInt64.lt_iff_toNat_lt, hnext] at hcharged hmin hcap ⊢
      exact Nat.le_of_lt_succ (hcharged ⟨hcap, by omega, by omega⟩)
    · intro hlow hmax
      exact (h minimum).2 ⟨hmax, UInt64.le_refl _, hlow⟩
  · rintro ⟨hfree, hcharged, hminimum⟩ a
    simp only [UInt64.le_iff_toNat_le, UInt64.lt_iff_toNat_lt] at *
    constructor
    · rintro ⟨hmax, hmin, hinbound⟩
      rcases hfree hmin with h | h <;> omega
    · rintro ⟨hmax, hmin, hinbound⟩
      rcases Nat.lt_or_ge inbound.toNat minimum.toNat with hlow | hlow
      · have := hminimum hlow (by omega)
        omega
      · have := hcharged hlow (by omega)
        omega

namespace Support

/-- A wallet that knows the LSP fee params: 0.4 % and at least 2000 sats. -/
def receivingWallet : Support where
  userPreferences := ⟨"CHF", ⟨"Europe/Zurich", 60⟩⟩
  taskManager := ⟨[], some ⟨2000000, 4000, "2024-01-01", 4320, 432, "promise"⟩, none⟩
  dataStore := .new .migrated none

/-- A node with one channel, which can receive 500 000 sats in a single payment. -/
def oneChannel : NodeState := ⟨"02aa", [], [], 0, 0, 500000000, 500000000, 0⟩

end Support

end LipaLightning
