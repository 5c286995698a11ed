import LipaLightning.Basic.Runs
import LipaLightning.Basic.Traced
import LipaLightning.Onchain.Resolving
import LipaLightning.PaymentAffordability

set_option autoImplicit false

/-! # Clearing the wallet

A reverse swap that sends all funds of the channels to an on-chain address
(`onchain/reverse_swap.rs`). `determine_clear_wallet_feasibility` tells whether the balance is
within the range of a reverse swap, `prepare_clear_wallet` what the swap costs, and `clear_wallet`
starts it with what was prepared.

The range is exact to the sat. What is paid in a run of calls was prepared by an earlier one, which
has shown its fees.
-/

namespace LipaLightning

/-! ## The SDK -/

/-- `breez_sdk_core::OnchainPaymentLimitsResponse`. -/
structure OnchainPaymentLimits where
  minSat : UInt64
  maxSat : UInt64
  maxPayableSat : UInt64
  deriving DecidableEq, Repr

inductive SwapAmountType where
  | send
  | receive
  deriving DecidableEq, Repr

structure PrepareOnchainPaymentRequest where
  amountSat : UInt64
  amountType : SwapAmountType
  claimTxFeerate : UInt32
  deriving DecidableEq, Repr

structure PrepareOnchainPaymentResponse where
  feesHash : String
  /-- The bits of a number in floating point. -/
  feesPercentage : UInt64
  feesLockup : UInt64
  feesClaim : UInt64
  senderAmountSat : UInt64
  recipientAmountSat : UInt64
  totalFees : UInt64
  deriving DecidableEq, Repr

structure PayOnchainRequest where
  recipientAddress : String
  prepareRes : PrepareOnchainPaymentResponse
  deriving DecidableEq, Repr

/-- The answers of the SDK, those about reverse swaps included. -/
structure ReverseSwapSdk extends OnchainSdk where
  onchainPaymentLimits : Except String OnchainPaymentLimits
  prepareOnchainPayment :
    PrepareOnchainPaymentRequest → Except String PrepareOnchainPaymentResponse
  payOnchain : PayOnchainRequest → Except String Unit

/-! ## The calls -/

/-- The result of comparing a value with a given range. -/
inductive RangeHit where
  /-- The value is below the left side of the range. -/
  | below (min : Amount)
  /-- The value is within the range. -/
  | inRange
  /-- The value is above the right side of the range. -/
  | above (max : Amount)
  deriving DecidableEq, Repr

/-- The sides of the range, in their order. -/
def RangeHit.rank : RangeHit → ℕ
  | .below _ => 0
  | .inRange => 1
  | .above _ => 2

/-- Information about a wallet clearance operation. -/
structure ClearWalletInfo where
  clearAmount : Amount
  totalEstimatedFees : Amount
  onchainFee : Amount
  swapFee : Amount
  prepareResponse : PrepareOnchainPaymentResponse
  deriving DecidableEq, Repr

/-- `breez_sdk_core::BitcoinAddressData`, the field the library reads. -/
structure BitcoinAddressData where
  address : String
  deriving DecidableEq, Repr

/-- `ReverseSwap`, with the part of the node's configuration that limits routing fees. -/
structure ReverseSwap where
  support : Support
  maxRoutingFeeConfig : MaxRoutingFeeConfig

namespace ReverseSwap

/-- Check if clearing the wallet is feasible. -/
def determineClearWalletFeasibility (self : ReverseSwap) (sdk : ReverseSwapSdk) :
    Result RangeHit := do
  let limits ← mapToRuntimeError sdk.onchainPaymentLimits .nodeUnavailable
    "Failed to get on-chain payment limits"
  let nodeState ← mapToRuntimeError sdk.nodeInfo .nodeUnavailable "Failed to read node info"
  let balanceSat := (asMsats nodeState.channelsBalanceMsat).satsRoundDown.sats
  let exchangeRate := self.support.getExchangeRate
  -- Accommodating lightning network routing fees.
  let routingFee := (Permyriad.of ⟨self.maxRoutingFeeConfig.maxRoutingFeePermyriad⟩
    (asSats limits.minSat)).satsRoundUp
  let min := limits.minSat + routingFee.sats
  if balanceSat < min then .ok (.below ((asSats min).toAmountUp exchangeRate))
  else if balanceSat ≤ limits.maxSat then .ok .inRange
  else if limits.maxSat < balanceSat then
    .ok (.above ((asSats limits.maxSat).toAmountDown exchangeRate))
  else .error (.permanentFailure "Unreachable code in check_clear_wallet_feasibility()")

/-- Prepares a reverse swap that sends all funds in LN channels. -/
def prepareClearWallet (self : ReverseSwap) (sdk : ReverseSwapSdk) : Result ClearWalletInfo := do
  let claimTxFeerate ← queryOnchainFeeRate sdk.toOnchainSdk
  let limits ← mapToRuntimeError sdk.onchainPaymentLimits .nodeUnavailable
    "Failed to get on-chain payment limits"
  let prepareResponse ← mapToRuntimeError
    (sdk.prepareOnchainPayment ⟨limits.maxPayableSat, .send, claimTxFeerate⟩)
    .nodeUnavailable "Failed to prepare on-chain payment"
  let totalFeesSat := prepareResponse.totalFees
  let onchainFeeSat := prepareResponse.feesClaim + prepareResponse.feesLockup
  let swapFeeSat := totalFeesSat - onchainFeeSat
  let exchangeRate := self.support.getExchangeRate
  .ok
    { clearAmount := (asSats prepareResponse.senderAmountSat).toAmountUp exchangeRate
      totalEstimatedFees := (asSats totalFeesSat).toAmountUp exchangeRate
      onchainFee := (asSats onchainFeeSat).toAmountUp exchangeRate
      swapFee := (asSats swapFeeSat).toAmountUp exchangeRate
      prepareResponse }

/-- Starts a reverse swap that sends all funds in LN channels to the provided on-chain address. -/
def clearWallet (sdk : ReverseSwapSdk) (clearWalletInfo : ClearWalletInfo)
    (destination : BitcoinAddressData) : Traced PayOnchainRequest (Error RuntimeErrorCode) Unit :=
  let request : PayOnchainRequest := ⟨destination.address, clearWalletInfo.prepareResponse⟩
  Traced.issue request (mapToRuntimeError (sdk.payOnchain request) .nodeUnavailable
    "Failed to start reverse swap")

/-! ## The range -/

/-- The largest fee for routing the smallest reverse swap, in msats. -/
def routingFeeMsat (self : ReverseSwap) (limits : OnchainPaymentLimits) : ℕ :=
  limits.minSat.toNat * self.maxRoutingFeeConfig.maxRoutingFeePermyriad.toNat / 10

/-- The smallest balance that pays for a reverse swap, in sats. -/
def smallestBalance (self : ReverseSwap) (limits : OnchainPaymentLimits) : ℕ :=
  limits.minSat.toNat + (self.routingFeeMsat limits + 999) / 1000

/-- The limits are small enough for `u64`: the largest amount in msats, and the smallest one with
its routing fee. -/
structure LimitsFit (reverseSwap : ReverseSwap) (limits : OnchainPaymentLimits) : Prop where
  relative : limits.minSat.toNat * reverseSwap.maxRoutingFeeConfig.maxRoutingFeePermyriad.toNat
    + 9990 < 2 ^ 64
  smallest : reverseSwap.smallestBalance limits < 2 ^ 64 / 1000
  largest : FitsMsats limits.maxSat

variable {self : ReverseSwap} {sdk : ReverseSwapSdk} {limits : OnchainPaymentLimits}
  {nodeState : NodeState}

theorem toNat_smallest (hfits : self.LimitsFit limits) :
    (limits.minSat + (Permyriad.of ⟨self.maxRoutingFeeConfig.maxRoutingFeePermyriad⟩
      (asSats limits.minSat)).satsRoundUp.sats).toNat = self.smallestBalance limits := by
  have hrelative := hfits.relative
  have hsmallest := hfits.smallest
  have hten : (10 : UInt64).toNat = 10 := rfl
  have hfee : (Permyriad.of ⟨self.maxRoutingFeeConfig.maxRoutingFeePermyriad⟩
      (asSats limits.minSat)).msats.toNat = self.routingFeeMsat limits := by
    have hproduct : limits.minSat.toNat * self.maxRoutingFeeConfig.maxRoutingFeePermyriad.toNat
        < 2 ^ 64 := by omega
    unfold Permyriad.of asSats Sats.new routingFeeMsat
    rw [UInt64.toNat_div, UInt64.toNat_mul, UInt16.toNat_toUInt64, hten,
      Nat.mod_eq_of_lt hproduct]
  have hroom : self.routingFeeMsat limits + 999 < 2 ^ 64 := by
    unfold routingFeeMsat
    omega
  have hround : (Permyriad.of ⟨self.maxRoutingFeeConfig.maxRoutingFeePermyriad⟩
      (asSats limits.minSat)).satsRoundUp.sats.toNat
      = (self.routingFeeMsat limits + 999) / 1000 := by
    show (round _ .up).toNat = _
    rw [toNat_round_up, hfee, Nat.mod_eq_of_lt hroom]
  unfold smallestBalance at hsmallest ⊢
  rw [UInt64.toNat_add, hround, Nat.mod_eq_of_lt (by omega)]

/-- The whole sats of a balance. -/
def wholeSats (nodeState : NodeState) : ℕ := nodeState.channelsBalanceMsat.toNat / 1000

/-- What a call answers, on exact numbers. -/
def Answers (self : ReverseSwap) (limits : OnchainPaymentLimits) (nodeState : NodeState) :
    RangeHit → Prop
  | .below min => wholeSats nodeState < self.smallestBalance limits ∧
      min.sats.toNat = self.smallestBalance limits
  | .inRange => self.smallestBalance limits ≤ wholeSats nodeState ∧
      wholeSats nodeState ≤ limits.maxSat.toNat
  | .above max => self.smallestBalance limits ≤ wholeSats nodeState ∧
      limits.maxSat.toNat < wholeSats nodeState ∧ max.sats = limits.maxSat

theorem determineClearWalletFeasibility_answers (hlimits : sdk.onchainPaymentLimits = .ok limits)
    (hnode : sdk.nodeInfo = .ok nodeState) (hfits : self.LimitsFit limits) :
    ∃ hit, self.determineClearWalletFeasibility sdk = .ok hit ∧
      self.Answers limits nodeState hit := by
  have hsmallest := toNat_smallest hfits
  have hbalance : (asMsats nodeState.channelsBalanceMsat).satsRoundDown.sats.toNat
      = wholeSats nodeState := toNat_round_down _
  unfold determineClearWalletFeasibility
  rw [hlimits, hnode]
  simp only [mapToRuntimeError_ok, bind, Except.bind]
  generalize limits.minSat + _ = min at hsmallest ⊢
  generalize (asMsats nodeState.channelsBalanceMsat).satsRoundDown.sats = balance at hbalance ⊢
  simp only [UInt64.lt_iff_toNat_lt, UInt64.le_iff_toNat_le, hsmallest, hbalance]
  by_cases hlow : wholeSats nodeState < self.smallestBalance limits
  · have hmin : FitsMsats min := by
      unfold FitsMsats
      rw [hsmallest]
      exact hfits.smallest
    refine ⟨_, if_pos hlow, hlow, ?_⟩
    rw [Sats.toAmountUp_sats, round_up_asSats hmin, hsmallest]
  · rw [if_neg hlow]
    have hle := Nat.le_of_not_lt hlow
    by_cases hin : wholeSats nodeState ≤ limits.maxSat.toNat
    · exact ⟨_, if_pos hin, hle, hin⟩
    · have habove := Nat.lt_of_not_le hin
      rw [if_neg hin, if_pos habove]
      refine ⟨_, rfl, hle, habove, ?_⟩
      rw [Sats.toAmountDown_sats, round_down_asSats hfits.largest]

/-! ## What the range tells -/

variable {nodeState' : NodeState} {hit hit' : RangeHit}

/-- The balance is not too small exactly if its whole sats pay for the smallest reverse swap and for
the largest fee that routing it may take, to the msat. -/
theorem Answers.rank_pos_iff (h : self.Answers limits nodeState hit) :
    0 < hit.rank ↔ limits.minSat.toNat * 1000 + self.routingFeeMsat limits
      ≤ wholeSats nodeState * 1000 := by
  have hpays : self.smallestBalance limits ≤ wholeSats nodeState ↔
      limits.minSat.toNat * 1000 + self.routingFeeMsat limits ≤ wholeSats nodeState * 1000 := by
    unfold smallestBalance
    omega
  rw [← hpays]
  cases hit with
  | below min => exact iff_of_false (Nat.lt_irrefl 0) (Nat.not_le_of_lt h.1)
  | inRange => exact iff_of_true Nat.zero_lt_one h.1
  | above max => exact iff_of_true Nat.zero_lt_two h.1

/-- More funds never lead back in the range. -/
theorem Answers.rank_mono (h : self.Answers limits nodeState hit)
    (h' : self.Answers limits nodeState' hit')
    (hfunds : wholeSats nodeState ≤ wholeSats nodeState') : hit.rank ≤ hit'.rank := by
  cases hit with
  | below min => exact Nat.zero_le _
  | inRange =>
      cases hit' with
      | below min =>
          have := h.1
          have := h'.1
          omega
      | inRange => exact Nat.le_refl 1
      | above max => exact Nat.le_succ 1
  | above max =>
      cases hit' with
      | below min =>
          have := h.1
          have := h'.1
          omega
      | inRange =>
          have := h.2.1
          have := h'.2
          omega
      | above max' => exact Nat.le_refl 2

/-- A wallet that has been filled up to the shown minimum can be cleared exactly if that is not
above the maximum. -/
theorem Answers.inRange_of_min {min : Amount} (h : self.Answers limits nodeState (.below min))
    (h' : self.Answers limits nodeState' hit') (hfilled : wholeSats nodeState' = min.sats.toNat) :
    hit' = .inRange ↔ min.sats ≤ limits.maxSat := by
  have hmin := h.2
  rw [UInt64.le_iff_toNat_le]
  cases hit' with
  | below min' =>
      have := h'.1
      omega
  | inRange => exact iff_of_true rfl (hfilled ▸ h'.2)
  | above max =>
      refine iff_of_false RangeHit.noConfusion ?_
      have := h'.2.1
      omega

/-- A wallet that has been emptied down to the shown maximum can be cleared exactly if that still
pays for the smallest reverse swap. -/
theorem Answers.inRange_of_max {max : Amount} (h : self.Answers limits nodeState (.above max))
    (h' : self.Answers limits nodeState' hit') (hemptied : wholeSats nodeState' = max.sats.toNat) :
    hit' = .inRange ↔ self.smallestBalance limits ≤ max.sats.toNat := by
  have hmax := h.2.2
  cases hit' with
  | below min =>
      refine iff_of_false RangeHit.noConfusion ?_
      have := h'.1
      omega
  | inRange => exact iff_of_true rfl (hemptied ▸ h'.1)
  | above max' =>
      have := h'.2.1
      rw [hemptied, hmax] at this
      exact absurd this (Nat.lt_irrefl _)

/-- What the affordability of the smallest reverse swap as a payment says about the balance: where
the relative fee is the limit, both say the same. -/
theorem Answers.affordable (h : self.Answers limits nodeState hit) {lightning : Lightning}
    {lightningSdk : Sdk} {maxPayableMsat : UInt64}
    (hconfig : lightning.maxRoutingFeeConfig = self.maxRoutingFeeConfig)
    (hpayable : maxPayableMsat.toNat = wholeSats nodeState * 1000)
    (hexact : lightning.IsExact lightningSdk limits.minSat maxPayableMsat) :
    (lightning.determinePaymentAffordability lightningSdk limits.minSat
        = some (.ok .affordable) → 0 < hit.rank) ∧
    (¬ self.maxRoutingFeeConfig.IsExempt limits.minSat → 0 < hit.rank →
      lightning.determinePaymentAffordability lightningSdk limits.minSat
        = some (.ok .affordable)) := by
  have haffordable : lightning.determinePaymentAffordability lightningSdk limits.minSat
      = some (.ok .affordable) ↔
      limits.minSat.toNat * 1000 + self.maxRoutingFeeConfig.feeLimit limits.minSat
        ≤ wholeSats nodeState * 1000 := by
    rw [hexact.verdict, Option.some.injEq, Except.ok.injEq,
      PaymentAffordability.verdict_eq_affordable_iff, hconfig, hpayable]
  rw [haffordable, h.rank_pos_iff]
  constructor
  · intro hle
    have hlimit : self.routingFeeMsat limits
        ≤ self.maxRoutingFeeConfig.feeLimit limits.minSat := le_max_left _ _
    omega
  · intro hexempt hle
    have hlimit : self.maxRoutingFeeConfig.feeLimit limits.minSat = self.routingFeeMsat limits :=
      max_eq_left (not_lt.mp hexempt)
    rw [hlimit]
    exact hle

/-- A wallet whose routing fees may be 1.5 %. -/
def clearedWallet : ReverseSwap where
  support := ⟨⟨"CHF", ⟨"Europe/Zurich", 60⟩⟩, ⟨[], none, none⟩, .new .migrated none⟩
  maxRoutingFeeConfig := ⟨150, 21⟩

/-- A node with a balance, and a swap service that takes from 50 000 to 25 million sats. -/
def clearingSdk (channelsBalanceMsat : UInt64) : ReverseSwapSdk where
  nodeInfo := .ok ⟨"02aa", [], [], 0, channelsBalanceMsat, 0, 0, 0⟩
  receiveOnchain _ := .error (.generic "offline")
  recommendedFees := .error "offline"
  prepareRefund _ := .error "offline"
  refund _ := .error "offline"
  prepareRedeemOnchainFunds _ := .error (.serviceConnectivity "offline")
  redeemOnchainFunds _ := .error (.serviceConnectivity "offline")
  errorText _ := "error"
  receiveOnchainErrorText _ := "error"
  redeemErrorFromSdkError := .serviceConnectivity
  onchainPaymentLimits := .ok ⟨50000, 25000000, 50000⟩
  prepareOnchainPayment _ := .error "offline"
  payOnchain _ := .error "offline"

/-- An amount of sats that is converted to minor units within `u64`. -/
def FitsMinorUnits (sats : UInt64) : Prop := sats.toNat < 2 ^ 64 / 100000

/-- The fees of the response add up, and its amounts are small enough to be shown. -/
structure ResponseFits (response : PrepareOnchainPaymentResponse) : Prop where
  parts : response.feesClaim.toNat + response.feesLockup.toNat ≤ response.totalFees.toNat
  fees : FitsMinorUnits response.totalFees
  amount : FitsMsats response.senderAmountSat

/-- The minor units that are shown for sats. -/
def shownMinorUnits (rate : ExchangeRate) (sats : ℕ) : ℕ :=
  (sats * 100000 / rate.rate.toNat + 999) / 1000

/-- The minor units of two parts are those of the whole, up to one. -/
theorem shownMinorUnits_add (rate : ExchangeRate) (a b : ℕ) :
    shownMinorUnits rate (a + b) ≤ shownMinorUnits rate a + shownMinorUnits rate b + 1 ∧
      shownMinorUnits rate a + shownMinorUnits rate b ≤ shownMinorUnits rate (a + b) + 1 := by
  have hparts : a * 100000 / rate.rate.toNat + b * 100000 / rate.rate.toNat
      ≤ (a + b) * 100000 / rate.rate.toNat ∧
      (a + b) * 100000 / rate.rate.toNat
        ≤ a * 100000 / rate.rate.toNat + b * 100000 / rate.rate.toNat + 1 := by
    rw [Nat.add_mul]
    rcases Nat.eq_zero_or_pos rate.rate.toNat with hzero | hpos
    · rw [hzero]
      simp
    · rw [Nat.add_div hpos]
      split <;> omega
  unfold shownMinorUnits
  omega

theorem FitsMinorUnits.fitsMsats {sats : UInt64} (h : FitsMinorUnits sats) : FitsMsats sats := by
  unfold FitsMinorUnits at h
  unfold FitsMsats
  omega

theorem minorUnits_toAmountUp {sats : UInt64} (hfits : FitsMinorUnits sats) {rate : ExchangeRate}
    {fiat : FiatValue} (h : ((asSats sats).toAmountUp (some rate)).fiat = some fiat) :
    fiat.minorUnits.toNat = shownMinorUnits rate sats.toNat := by
  unfold FitsMinorUnits at hfits
  obtain rfl := Option.some.inj h
  have hmsats : (asSats sats).msats.toNat = sats.toNat * 1000 := by
    rw [toNat_msats, Nat.mod_eq_of_lt (by omega)]
  have hhundred : (100 : UInt64).toNat = 100 := rfl
  have hquotient : ((asSats sats).msats * 100 / rate.rate.toUInt64).toNat
      = sats.toNat * 100000 / rate.rate.toNat := by
    have hproduct : sats.toNat * 1000 * 100 = sats.toNat * 100000 := by omega
    rw [UInt64.toNat_div, UInt64.toNat_mul, UInt32.toNat_toUInt64, hmsats, hhundred, hproduct,
      Nat.mod_eq_of_lt (by omega)]
  have hbound : sats.toNat * 100000 / rate.rate.toNat ≤ sats.toNat * 100000 :=
    Nat.div_le_self _ _
  show (round _ .up).toNat = _
  rw [toNat_round_up, hquotient, Nat.mod_eq_of_lt (by omega)]
  rfl

/-- The info shows what the wallet pays: the amount of the swap, and its fees, whose parts add up
in sats, and in minor units up to one. -/
structure ShowsFees (info : ClearWalletInfo) : Prop where
  amount : info.clearAmount.sats = info.prepareResponse.senderAmountSat
  total : info.totalEstimatedFees.sats = info.prepareResponse.totalFees
  parts : info.onchainFee.sats.toNat + info.swapFee.sats.toNat
    = info.totalEstimatedFees.sats.toNat
  fiat : ∀ onchain swap total, info.onchainFee.fiat = some onchain →
    info.swapFee.fiat = some swap → info.totalEstimatedFees.fiat = some total →
    total.minorUnits.toNat ≤ onchain.minorUnits.toNat + swap.minorUnits.toNat + 1 ∧
      onchain.minorUnits.toNat + swap.minorUnits.toNat ≤ total.minorUnits.toNat + 1

/-- The info was prepared with the SDK: for everything that can be paid on-chain, at the fee rate
of the moment. -/
structure PreparedBy (reverseSwap : ReverseSwap) (sdk : ReverseSwapSdk)
    (info : ClearWalletInfo) : Prop where
  returned : reverseSwap.prepareClearWallet sdk = .ok info
  requested : ∃ limits claimTxFeerate, sdk.onchainPaymentLimits = .ok limits ∧
    queryOnchainFeeRate sdk.toOnchainSdk = .ok claimTxFeerate ∧
    sdk.prepareOnchainPayment ⟨limits.maxPayableSat, .send, claimTxFeerate⟩
      = .ok info.prepareResponse
  shown : ResponseFits info.prepareResponse → ShowsFees info

theorem preparedBy_of_prepared {info : ClearWalletInfo}
    (h : self.prepareClearWallet sdk = .ok info) : self.PreparedBy sdk info := by
  obtain ⟨claimTxFeerate, hrate, hrest⟩ := bind_eq_ok.mp h
  obtain ⟨limits, hlimits, hrest⟩ := bind_eq_ok.mp hrest
  obtain ⟨response, hresponse, hrest⟩ := bind_eq_ok.mp hrest
  obtain rfl := Except.ok.inj hrest
  rw [mapToRuntimeError_eq_ok] at hlimits hresponse
  refine ⟨h, ⟨limits, claimTxFeerate, hlimits, hrate, hresponse⟩, fun hfits => ?_⟩
  obtain ⟨hparts, hfees, hamount⟩ : _ ∧ _ ∧ _ := ⟨hfits.parts, hfits.fees, hfits.amount⟩
  dsimp only at hparts hfees hamount
  have honchain : (response.feesClaim + response.feesLockup).toNat
      = response.feesClaim.toNat + response.feesLockup.toNat := by
    have htotal := response.totalFees.toNat_lt
    rw [UInt64.toNat_add, Nat.mod_eq_of_lt (by omega)]
  have hswap : (response.totalFees - (response.feesClaim + response.feesLockup)).toNat
      = response.totalFees.toNat - (response.feesClaim.toNat + response.feesLockup.toNat) := by
    have hle : response.feesClaim + response.feesLockup ≤ response.totalFees := by
      rw [UInt64.le_iff_toNat_le, honchain]
      exact hparts
    rw [UInt64.toNat_sub_of_le _ _ hle, honchain]
  have honchainFits : FitsMinorUnits (response.feesClaim + response.feesLockup) := by
    unfold FitsMinorUnits at hfees ⊢
    omega
  have hswapFits : FitsMinorUnits
      (response.totalFees - (response.feesClaim + response.feesLockup)) := by
    unfold FitsMinorUnits at hfees ⊢
    omega
  refine ⟨round_up_asSats hamount, round_up_asSats hfees.fitsMsats, ?_, ?_⟩
  · show (round _ .up).toNat + (round _ .up).toNat = (round _ .up).toNat
    rw [round_up_asSats honchainFits.fitsMsats, round_up_asSats hswapFits.fitsMsats,
      round_up_asSats hfees.fitsMsats]
    omega
  · intro onchain swap total honchainFiat hswapFiat htotalFiat
    dsimp only at honchainFiat hswapFiat htotalFiat
    cases hrate : self.support.getExchangeRate with
    | none =>
        rw [hrate] at htotalFiat
        cases htotalFiat
    | some rate =>
        rw [hrate] at honchainFiat hswapFiat htotalFiat
        rw [minorUnits_toAmountUp honchainFits honchainFiat,
          minorUnits_toAmountUp hswapFits hswapFiat, minorUnits_toAmountUp hfees htotalFiat,
          honchain, hswap]
        have hadds := shownMinorUnits_add rate
          (response.feesClaim.toNat + response.feesLockup.toNat)
          (response.totalFees.toNat - (response.feesClaim.toNat + response.feesLockup.toNat))
        rw [Nat.add_sub_cancel' hparts] at hadds
        exact hadds

/-! ## Runs -/

/-- The calls of an app, which has the infos it was given. -/
inductive ClearWalletCall where
  | prepare (reverseSwap : ReverseSwap) (sdk : ReverseSwapSdk)
  | clear (sdk : ReverseSwapSdk) (info : ℕ) (destination : BitcoinAddressData)

/-- The infos that were returned, and the reverse swaps that were started, each in order. -/
structure Clearing where
  infos : List ClearWalletInfo
  started : List PayOnchainRequest

def clearingStep (clearing : Clearing) : ClearWalletCall → Clearing
  | .prepare reverseSwap sdk =>
      match reverseSwap.prepareClearWallet sdk with
      | .ok info => { clearing with infos := clearing.infos ++ [info] }
      | .error _ => clearing
  | .clear sdk i destination =>
      match clearing.infos[i]? with
      | some info => { clearing with
          started := clearing.started ++ (clearWallet sdk info destination).commands }
      | none => clearing

/-- A call has prepared the info. -/
def InfoPrepared (calls : List ClearWalletCall) (info : ClearWalletInfo) : Prop :=
  ∃ before after reverseSwap sdk, calls = before ++ .prepare reverseSwap sdk :: after ∧
    reverseSwap.PreparedBy sdk info

/-- A call has started the reverse swap, with an info that an earlier call has prepared. -/
def SwapPrepared (calls : List ClearWalletCall) (request : PayOnchainRequest) : Prop :=
  ∃ before after sdk i destination info,
    calls = before ++ .clear sdk i destination :: after ∧ InfoPrepared before info ∧
      request = ⟨destination.address, info.prepareResponse⟩

theorem InfoPrepared.append {calls : List ClearWalletCall} {info : ClearWalletInfo}
    (h : InfoPrepared calls info) (later : List ClearWalletCall) :
    InfoPrepared (calls ++ later) info := by
  obtain ⟨before, after, reverseSwap, sdk, rfl, hprepared⟩ := h
  exact ⟨before, after ++ later, reverseSwap, sdk, by simp, hprepared⟩

theorem SwapPrepared.append {calls : List ClearWalletCall} {request : PayOnchainRequest}
    (h : SwapPrepared calls request) (later : List ClearWalletCall) :
    SwapPrepared (calls ++ later) request := by
  obtain ⟨before, after, sdk, i, destination, info, rfl, hrest⟩ := h
  exact ⟨before, after ++ later, sdk, i, destination, info, by simp, hrest⟩

def ClearWalletCall.isClear : ClearWalletCall → Bool
  | .prepare _ _ => false
  | .clear _ _ _ => true

/-- Everything there is was prepared, and there is at most one reverse swap for each call that may
start one. -/
structure AllPrepared (calls : List ClearWalletCall) (clearing : Clearing) : Prop where
  infos : ∀ info ∈ clearing.infos, InfoPrepared calls info
  started : ∀ request ∈ clearing.started, SwapPrepared calls request
  count : clearing.started.length ≤ (calls.filter ClearWalletCall.isClear).length

theorem allPrepared_step {calls : List ClearWalletCall} {clearing : Clearing}
    (h : AllPrepared calls clearing) (call : ClearWalletCall) :
    AllPrepared (calls ++ [call]) (clearingStep clearing call) := by
  have hinfos : ∀ info ∈ clearing.infos, InfoPrepared (calls ++ [call]) info :=
    fun info hinfo => (h.infos info hinfo).append [call]
  have hstarted : ∀ request ∈ clearing.started, SwapPrepared (calls ++ [call]) request :=
    fun request hrequest => (h.started request hrequest).append [call]
  have hcount := h.count
  have hkept : AllPrepared (calls ++ [call]) clearing := by
    refine ⟨hinfos, hstarted, ?_⟩
    rw [List.filter_append, List.length_append]
    exact Nat.le_add_right_of_le hcount
  cases call with
  | prepare reverseSwap sdk =>
      cases hprepare : reverseSwap.prepareClearWallet sdk with
      | error e =>
          rw [clearingStep, hprepare]
          exact hkept
      | ok info =>
          rw [clearingStep, hprepare]
          refine ⟨fun new hnew => ?_, hstarted, hkept.count⟩
          rcases List.mem_append.mp hnew with hold | hlast
          · exact hinfos new hold
          · obtain rfl := List.mem_singleton.mp hlast
            exact ⟨calls, [], reverseSwap, sdk, rfl, preparedBy_of_prepared hprepare⟩
  | clear sdk i destination =>
      cases hinfo : clearing.infos[i]? with
      | none =>
          rw [clearingStep, hinfo]
          exact hkept
      | some info =>
          rw [clearingStep, hinfo]
          have hprepared := h.infos info (List.mem_of_getElem? hinfo)
          refine ⟨hinfos, fun request hrequest => ?_, ?_⟩
          · rcases List.mem_append.mp hrequest with hold | hlast
            · exact hstarted request hold
            · obtain rfl := List.mem_singleton.mp hlast
              exact ⟨calls, [], sdk, i, destination, info, rfl, hprepared, rfl⟩
          · rw [List.filter_append, List.length_append, List.length_append]
            exact Nat.add_le_add_right hcount 1

/-- **What clears the wallet was prepared and shown.** In every run of calls, each reverse swap that
is started goes to the address of its call and is one that the SDK has prepared in an earlier call,
for all that could be paid at the fee rate of that moment. What that call has returned to be shown
is what the reverse swap pays, with fees that add up. No call starts more than one. -/
theorem cleared_asShown (calls : List ClearWalletCall) :
    (∀ request ∈ (Runs.run clearingStep ⟨[], []⟩ calls).started, SwapPrepared calls request) ∧
      (Runs.run clearingStep ⟨[], []⟩ calls).started.length
        ≤ (calls.filter ClearWalletCall.isClear).length := by
  have hall : AllPrepared calls (Runs.run clearingStep ⟨[], []⟩ calls) := by
    induction calls using List.reverseRecOn with
    | nil =>
        refine ⟨fun info hinfo => ?_, fun request hrequest => ?_, Nat.le_refl 0⟩
        · exact absurd hinfo List.not_mem_nil
        · exact absurd hrequest List.not_mem_nil
    | append_singleton calls call ih =>
        rw [Runs.run_append]
        exact allPrepared_step ih call
  exact ⟨hall.started, hall.count⟩

end ReverseSwap

end LipaLightning
