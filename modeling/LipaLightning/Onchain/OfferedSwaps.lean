import LipaLightning.Onchain.Swap
import LipaLightning.Onchain.ChannelCloses

set_option autoImplicit false

/-! # Offered swaps

The fees for resolving on-chain funds tell the user whether the funds can be swapped back to
lightning, and `swap` checks the amount again before it broadcasts. The two computations agree
for a failed swap as long as no amount leaves the range of `u64`. For channel closes `swap`
holds back the reserve of the node, which the fees do not.
-/

namespace LipaLightning

namespace OpenSwap

variable {support : Support} {sdk : OnchainSdk}

/-- A swap address and an LSP fee that were found come from an open swap. -/
theorem exists_of_create {info : SwapAddressInfo} {params : OpeningFeeParams} {sats : UInt64}
    {fee : CalculateLspFeeResponseV2} (hcreate : (Swap.mk support).create sdk = .ok info)
    (hparams : (Swap.mk support).getLspFeeParams = .ok params)
    (hfee : support.calculateLspFeeForAmount sdk.nodeInfo sats params = .ok fee) :
    ∃ swap : OpenSwap support sdk, info.address = swap.swapInfo.bitcoinAddress ∧
      info.minDeposit.sats = swap.minDeposit ∧ info.maxDeposit.sats = swap.maxDeposit ∧
      fee.lspFee.sats = swap.lspFee sats := by
  obtain ⟨params', hparams', hcreate⟩ := bind_eq_ok.mp hcreate
  obtain rfl : params = params' := by
    simpa only [mapError_eq_ok, hparams, Except.ok.injEq] using hparams'
  obtain ⟨swapInfo, hswap, hinfo⟩ := bind_eq_ok.mp hcreate
  obtain ⟨nodeState, hnode, hsats, -⟩ := Support.calculateLspFeeForAmount_ok hfee
  obtain rfl := Except.ok.inj hinfo
  exact ⟨⟨params, nodeState, swapInfo, hparams, hnode, hswap⟩, rfl, rfl, rfl, hsats⟩

/-- The checks that `swap` makes of the amount it sends. -/
structure Accepts (swap : OpenSwap support sdk) (sats : UInt64) : Prop where
  minDeposit : swap.minDeposit ≤ sats
  maxDeposit : sats ≤ swap.maxDeposit
  lspFee : swap.lspFee sats < sats

/-- The checks of an offer suffice for the amount that was offered, in the range of `u64`. -/
theorem accepts_of_offered {self : OpenSwap support sdk} {sats amount : UInt64}
    (hmin : self.swapInfo.minAllowedDeposit.toUInt64 ≤ sats)
    (hmax : sats ≤ self.swapInfo.maxAllowedDeposit.toUInt64)
    (hlsp : self.lspFee amount < sats) (hle : sats ≤ amount)
    (hfits : FitsMsats self.swapInfo.maxAllowedDeposit.toUInt64)
    (hproportional : self.lspFeeParams.proportional.toNat < 1000000) : self.Accepts sats where
  minDeposit := UInt64.le_trans (round_up_asSats_le _) hmin
  maxDeposit := by
    unfold OpenSwap.maxDeposit
    rwa [round_down_asSats hfits]
  lspFee := Support.lspFeeSats_lt self.nodeState hproportional hle hlsp

/-- The largest deposit of a swap, rounded through msats. -/
theorem toNat_maxDeposit (self : OpenSwap support sdk) :
    self.maxDeposit.toNat
      = self.swapInfo.maxAllowedDeposit.toUInt64.toNat * 1000 % 2 ^ 64 / 1000 := by
  rw [maxDeposit, toNat_round_down, toNat_msats]

theorem toNat_minDeposit (self : OpenSwap support sdk) :
    self.minDeposit.toNat
      = (self.swapInfo.minAllowedDeposit.toUInt64.toNat * 1000 % 2 ^ 64 + 999) % 2 ^ 64
        / 1000 := by
  rw [minDeposit, toNat_round_up, toNat_msats]

/-- What is held back from `funds` leaves an accepted amount exactly if `funds` passes the checks
with it on top, where a difference that wraps is above the limit. -/
theorem accepts_sub_iff (self : OpenSwap support sdk) {funds held : UInt64}
    (hwrap : funds.toNat < held.toNat → self.maxDeposit.toNat < (funds - held).toNat) :
    self.Accepts (funds - held) ↔
      self.minDeposit.toNat + held.toNat ≤ funds.toNat ∧
      funds.toNat ≤ self.maxDeposit.toNat + held.toNat ∧
      (self.lspFee (funds - held)).toNat + held.toNat < funds.toNat := by
  have hsub : held.toNat ≤ funds.toNat → (funds - held).toNat = funds.toNat - held.toNat :=
    fun hle => UInt64.toNat_sub_of_le _ _ (UInt64.le_iff_toNat_le.mpr hle)
  constructor
  · intro h
    have h1 := UInt64.le_iff_toNat_le.mp h.minDeposit
    have h2 := UInt64.le_iff_toNat_le.mp h.maxDeposit
    have h3 := UInt64.lt_iff_toNat_lt.mp h.lspFee
    have hle : held.toNat ≤ funds.toNat := by
      by_contra hlt
      have := hwrap (Nat.lt_of_not_le hlt)
      omega
    rw [hsub hle] at h1 h2 h3
    refine ⟨?_, ?_, ?_⟩ <;> omega
  · rintro ⟨h1, h2, h3⟩
    have hle : held.toNat ≤ funds.toNat := by omega
    refine ⟨UInt64.le_iff_toNat_le.mpr ?_, UInt64.le_iff_toNat_le.mpr ?_,
      UInt64.lt_iff_toNat_lt.mpr ?_⟩ <;> rw [hsub hle] <;> omega

/-- A difference that wraps because of the reserve is at least `2 ^ 63`, and no limit is. -/
theorem maxDeposit_lt_sub_reserve (self : OpenSwap support sdk) {funds reserve : UInt64}
    (hreserve : reserve.toNat ≤ 2 ^ 63) (hlt : funds.toNat < reserve.toNat) :
    self.maxDeposit.toNat < (funds - reserve).toNat := by
  have hmsats := (asSats self.swapInfo.maxAllowedDeposit.toUInt64).msats.toNat_lt
  have hsub := UInt64.toNat_sub funds reserve
  rw [toNat_maxDeposit]
  omega

/-- A fee that is below the funds once it is rounded through msats, but not before, leaves a
difference above every limit. -/
theorem maxDeposit_lt_sub_fee (self : OpenSwap support sdk) {funds fee : UInt64}
    (hfee : round (asSats fee).msats .up < funds) (hlt : funds.toNat < fee.toNat) :
    self.maxDeposit.toNat < (funds - fee).toNat := by
  have hfeeLt := fee.toNat_lt
  have hmax : self.maxDeposit.toNat ≤ 2 ^ 64 / 1000 := by
    have hmsats := (asSats self.swapInfo.maxAllowedDeposit.toUInt64).msats.toNat_lt
    rw [maxDeposit, toNat_round_down]
    omega
  have hsub : (funds - fee).toNat = 2 ^ 64 - fee.toNat + funds.toNat := by
    rw [UInt64.toNat_sub, Nat.mod_eq_of_lt (by omega)]
  by_contra hle
  -- the fee is short of `2 ^ 64` by so little that its msats wrap 999 times
  have hmsats : fee.toNat * 1000 % 2 ^ 64 = 2 ^ 64 - (2 ^ 64 - fee.toNat) * 1000 := by
    omega
  rw [UInt64.lt_iff_toNat_lt, toNat_round_up, toNat_msats, hmsats] at hfee
  omega

end OpenSwap

/-! ## Failed swaps -/

namespace Swap

/-- `swap` passes its checks and hands the refund to the SDK, which broadcasts it. -/
def ReachesBroadcast (self : Swap) (sdk : OnchainSdk) (failedSwapInfo : FailedSwapInfo)
    (satsPerVbyte : UInt32) : Prop :=
  ∃ refund, self.swapRefund sdk failedSwapInfo satsPerVbyte = .ok refund

variable {support : Support} {sdk : OnchainSdk} {failedSwapInfo : FailedSwapInfo}

theorem reachesBroadcast_iff {satsPerVbyte : UInt32} :
    (Swap.mk support).ReachesBroadcast sdk failedSwapInfo satsPerVbyte ↔
      ∃ (swap : OpenSwap support sdk) (response : PrepareRefundResponse),
        sdk.prepareRefund ⟨failedSwapInfo.address, swap.swapInfo.bitcoinAddress, satsPerVbyte⟩
          = .ok response ∧
        swap.Accepts (failedSwapInfo.amount.sats - response.refundTxFeeSat) := by
  unfold ReachesBroadcast swapRefund
  simp only [bind_eq_ok, mapToRuntimeError_eq_ok, ensure_eq_ok]
  constructor
  · rintro ⟨refund, info, hcreate, response, hresponse, -, hmin, -, hmax, params, hparams,
      fee, hfee, -, hlsp, -⟩
    obtain ⟨swap, haddress, hmin', hmax', hfee'⟩ :=
      OpenSwap.exists_of_create hcreate hparams hfee
    rw [haddress] at hresponse
    rw [hmin'] at hmin
    rw [hmax'] at hmax
    rw [hfee'] at hlsp
    exact ⟨swap, response, hresponse, hmin, hmax, hlsp⟩
  · rintro ⟨swap, response, hresponse, hmin, hmax, hlsp⟩
    obtain ⟨info, hcreate, haddress, hmin', hmax'⟩ := swap.create_eq
    obtain ⟨fee, hfee, hfee', -⟩ := support.calculateLspFeeForAmount_node swap.nodeState
      (failedSwapInfo.amount.sats - response.refundTxFeeSat) swap.lspFeeParams
    rw [← swap.node_eq] at hfee
    rw [← haddress] at hresponse
    rw [← hmin'] at hmin
    rw [← hmax'] at hmax
    exact ⟨_, info, hcreate, response, hresponse, (), hmin, (), hmax, swap.lspFeeParams,
      swap.params_eq, fee, hfee, (), hfee' ▸ hlsp, rfl⟩

/-- An offer of a swap for a failed swap: the refund it was prepared with pays more than the
refund fee, and what is left passed the checks of the offer. -/
theorem determineResolvingFees_offered {fees : OnchainResolvingFees}
    (hfees : (Swap.mk support).determineResolvingFees sdk failedSwapInfo = .ok (some fees))
    (hoffered : fees.swapFees.isSome) :
    ∃ (swap : OpenSwap support sdk) (response : PrepareRefundResponse) (sent : Sats),
      sdk.prepareRefund
        ⟨failedSwapInfo.address, swap.swapInfo.bitcoinAddress, fees.satsPerVbyte⟩
        = .ok response ∧
      round (asSats response.refundTxFeeSat).msats .up < failedSwapInfo.amount.sats ∧
      sent.sats = round (asSats (failedSwapInfo.amount.sats
        - round (asSats response.refundTxFeeSat).msats .up)).msats .down ∧
      swap.swapInfo.minAllowedDeposit.toUInt64 ≤ sent.sats ∧
      sent.sats ≤ swap.swapInfo.maxAllowedDeposit.toUInt64 ∧
      swap.lspFee failedSwapInfo.amount.toMsats < sent.sats := by
  unfold determineResolvingFees at hfees
  obtain ⟨swap, sent, onchainFee, hprepare, -, hmin, hmax, hlsp⟩ :=
    getOnchainResolvingFees_offered hfees hoffered
  unfold prepareSweep at hprepare
  simp only [bind_eq_ok, mapToRuntimeError_eq_ok, ensure_eq_ok] at hprepare
  obtain ⟨sweepInfo, ⟨rate, hrate, response, hresponse, -, hfee, hsweep⟩, hsent⟩ := hprepare
  obtain rfl := Except.ok.inj hsweep
  obtain ⟨hsent, -, hrate'⟩ := by simpa only [Except.ok.injEq, Prod.mk.injEq] using hsent
  subst hsent
  subst hrate'
  exact ⟨swap, response, _, hresponse, hfee, rfl, hmin, hmax, hlsp⟩

/-- No amount of the refund leaves the range of `u64`, and the LSP takes less than the whole
amount. -/
structure WithinRange (swap : OpenSwap support sdk) (failedSwapInfo : FailedSwapInfo)
    (response : PrepareRefundResponse) : Prop where
  amount : FitsMsats failedSwapInfo.amount.sats
  fee : FitsMsats response.refundTxFeeSat
  maxDeposit : FitsMsats swap.swapInfo.maxAllowedDeposit.toUInt64
  proportional : swap.lspFeeParams.proportional.toNat < 1000000

/-- Within the range of `u64` both computations send the same amount, and it is accepted. -/
theorem accepts_of_withinRange {swap : OpenSwap support sdk} {response : PrepareRefundResponse}
    {sent : Sats} (hrange : WithinRange swap failedSwapInfo response)
    (hfee : round (asSats response.refundTxFeeSat).msats .up < failedSwapInfo.amount.sats)
    (hsent : sent.sats = round (asSats (failedSwapInfo.amount.sats
      - round (asSats response.refundTxFeeSat).msats .up)).msats .down)
    (hmin : swap.swapInfo.minAllowedDeposit.toUInt64 ≤ sent.sats)
    (hmax : sent.sats ≤ swap.swapInfo.maxAllowedDeposit.toUInt64)
    (hlsp : swap.lspFee failedSwapInfo.amount.toMsats < sent.sats) :
    swap.Accepts (failedSwapInfo.amount.sats - response.refundTxFeeSat) := by
  rw [round_up_asSats hrange.fee] at hfee hsent
  -- the fee is below the amount, so nothing wraps and rounding is exact
  have hle : failedSwapInfo.amount.sats - response.refundTxFeeSat ≤ failedSwapInfo.amount.sats := by
    rw [UInt64.le_iff_toNat_le, UInt64.toNat_sub_of_le _ _ (UInt64.le_of_lt hfee)]
    exact Nat.sub_le _ _
  rw [round_down_asSats (hrange.amount.of_le hle)] at hsent
  rw [hsent] at hmin hmax hlsp
  refine OpenSwap.accepts_of_offered hmin hmax hlsp ?_ hrange.maxDeposit hrange.proportional
  exact UInt64.le_trans hle (le_msats hrange.amount)

/-- Where an amount wraps in msats: what the refund fee leaves is within the limits of a deposit
that these wrap to, and above its LSP fee. -/
structure WithinWrappedLimits (swap : OpenSwap support sdk) (failedSwapInfo : FailedSwapInfo)
    (response : PrepareRefundResponse) : Prop where
  minDeposit :
    (swap.swapInfo.minAllowedDeposit.toUInt64.toNat * 1000 % 2 ^ 64 + 999) % 2 ^ 64 / 1000
      + response.refundTxFeeSat.toNat ≤ failedSwapInfo.amount.sats.toNat
  maxDeposit : failedSwapInfo.amount.sats.toNat
    ≤ swap.swapInfo.maxAllowedDeposit.toUInt64.toNat * 1000 % 2 ^ 64 / 1000
      + response.refundTxFeeSat.toNat
  lspFee :
    (swap.lspFee (failedSwapInfo.amount.sats - response.refundTxFeeSat)).toNat
      + response.refundTxFeeSat.toNat < failedSwapInfo.amount.sats.toNat

theorem accepts_iff_withinWrappedLimits {swap : OpenSwap support sdk}
    {response : PrepareRefundResponse}
    (hfee : round (asSats response.refundTxFeeSat).msats .up < failedSwapInfo.amount.sats) :
    swap.Accepts (failedSwapInfo.amount.sats - response.refundTxFeeSat)
      ↔ WithinWrappedLimits swap failedSwapInfo response := by
  rw [swap.accepts_sub_iff (swap.maxDeposit_lt_sub_fee hfee), swap.toNat_minDeposit,
    swap.toNat_maxDeposit]
  constructor
  · rintro ⟨hmin, hmax, hlsp⟩
    exact ⟨hmin, hmax, hlsp⟩
  · intro h
    exact ⟨h.minDeposit, h.maxDeposit, h.lspFee⟩

end Swap

/-! ## Channel closes -/

namespace ChannelClose

/-- `swap` passes its checks and hands the transaction to the SDK, which broadcasts it. -/
def ReachesBroadcast (self : ChannelClose) (sdk : OnchainSdk) (satPerVbyte : UInt32) : Prop :=
  ∃ redemption, self.swapRedemption sdk satPerVbyte = .ok redemption

variable {support : Support} {sdk : OnchainSdk}

/-- The sats that are left of the on-chain balance after the fee of the transaction. -/
def fundsAfterFee (swap : OpenSwap support sdk) (response : PrepareRedeemOnchainFundsResponse) :
    UInt64 :=
  round swap.nodeState.onchainBalanceMsat .down - response.txFeeSat

theorem reachesBroadcast_iff {satPerVbyte : UInt32} :
    (ChannelClose.mk support).ReachesBroadcast sdk satPerVbyte ↔
      ∃ (swap : OpenSwap support sdk) (response : PrepareRedeemOnchainFundsResponse),
        sdk.prepareRedeemOnchainFunds ⟨swap.swapInfo.bitcoinAddress, satPerVbyte⟩
          = .ok response ∧
        swap.Accepts (fundsAfterFee swap response - clnDustLimitSat) := by
  unfold ReachesBroadcast swapRedemption
  simp only [bind_eq_ok, mapError_eq_ok, ensure_eq_ok]
  -- the code subtracts the reserve first, which is the same for wrapping subtractions
  have hcomm (balance fee : UInt64) :
      balance - clnDustLimitSat - fee = balance - fee - clnDustLimitSat := by
    grind
  constructor
  · rintro ⟨redemption, nodeState, hnode, info, hcreate, response, hresponse, -, hmin, -, hmax,
      params, hparams, fee, hfee, -, hlsp, -⟩
    obtain ⟨swap, haddress, hmin', hmax', hfee'⟩ :=
      OpenSwap.exists_of_create hcreate hparams hfee
    obtain rfl : nodeState = swap.nodeState := by simpa [swap.node_eq, eq_comm] using hnode
    rw [haddress] at hresponse
    simp only [asMsats, Msats.satsRoundDown, Sats.new, hcomm] at hmin hmax hlsp hfee'
    rw [hmin', gt_iff_lt, UInt64.not_lt] at hmin
    rw [hmax', UInt64.not_lt] at hmax
    rw [hfee', ge_iff_le, UInt64.not_le] at hlsp
    exact ⟨swap, response, hresponse, hmin, hmax, hlsp⟩
  · rintro ⟨swap, response, hresponse, hmin, hmax, hlsp⟩
    obtain ⟨info, hcreate, haddress, hmin', hmax'⟩ := swap.create_eq
    obtain ⟨fee, hfee, hfee', -⟩ := support.calculateLspFeeForAmount_node swap.nodeState
      (fundsAfterFee swap response - clnDustLimitSat) swap.lspFeeParams
    rw [← swap.node_eq] at hfee
    rw [← haddress] at hresponse
    rw [← hmin', ← UInt64.not_lt, ← gt_iff_lt] at hmin
    rw [← hmax', ← UInt64.not_lt] at hmax
    rw [OpenSwap.lspFee, ← hfee', ← UInt64.not_le, ← ge_iff_le] at hlsp
    refine ⟨_, swap.nodeState, swap.node_eq, info, hcreate, response, hresponse, (), ?_, (), ?_,
      swap.lspFeeParams, swap.params_eq, fee, ?_, (), ?_, rfl⟩
    all_goals simp only [asMsats, Msats.satsRoundDown, Sats.new, hcomm]
    exacts [hmin, hmax, hfee, hlsp]

/-- An offer of a swap for channel closes: the prepared transaction leaves an amount that passed
the checks of the offer, and its fee is at most half of the balance. -/
theorem determineResolvingFees_offered {fees : OnchainResolvingFees}
    (hfees : (ChannelClose.mk support).determineResolvingFees sdk = .ok (some fees))
    (hoffered : fees.swapFees.isSome) :
    ∃ (swap : OpenSwap support sdk) (response : PrepareRedeemOnchainFundsResponse)
      (onchainFeeSat sent : UInt64),
      sdk.prepareRedeemOnchainFunds ⟨swap.swapInfo.bitcoinAddress, fees.satsPerVbyte⟩
        = .ok response ∧
      (onchainFeeSat = response.txFeeSat ∨
        onchainFeeSat = response.txFeeSat + clnDustLimitSat) ∧
      round (asSats onchainFeeSat).msats .up * 2 ≤ round swap.nodeState.onchainBalanceMsat .down ∧
      sent = round (asSats (fundsAfterFee swap response)).msats .up ∧
      sent ≤ swap.swapInfo.maxAllowedDeposit.toUInt64 ∧
      swap.lspFee swap.nodeState.onchainBalanceMsat < sent := by
  unfold determineResolvingFees at hfees
  simp only [bind_eq_ok, mapToRuntimeError_eq_ok, ensure_eq_ok] at hfees
  obtain ⟨nodeState, hnode, -, -, hfees⟩ := hfees
  obtain ⟨swap, sent, onchainFee, hprepare, hhalf, -, hmax, hlsp⟩ :=
    getOnchainResolvingFees_offered hfees hoffered
  obtain rfl : nodeState = swap.nodeState := by simpa [swap.node_eq, eq_comm] using hnode
  unfold prepareSweep at hprepare
  simp only [bind_eq_ok, mapError_eq_ok, mapToRuntimeError_eq_ok, Support.getNodeUtxos,
    swap.node_eq] at hprepare
  obtain ⟨sweepInfo, ⟨rate, hrate, response, hresponse, nodeState, hnode', utxos, hutxos,
    hsweep⟩, hsent⟩ := hprepare
  obtain rfl := Except.ok.inj hnode'
  obtain rfl := Except.ok.inj hsweep
  obtain ⟨hsent, hfee, hrate'⟩ := by simpa only [Except.ok.injEq, Prod.mk.injEq] using hsent
  subst hsent
  subst hfee
  subst hrate'
  refine ⟨swap, response, _, _, hresponse, ?_, hhalf, rfl, hmax, hlsp⟩
  split
  · exact .inl rfl
  · exact .inr rfl

/-- No amount of the transaction leaves the range of `u64`. -/
structure WithinRange (swap : OpenSwap support sdk)
    (response : PrepareRedeemOnchainFundsResponse) : Prop where
  fee : response.txFeeSat.toNat + clnDustLimitSat.toNat < 2 ^ 64 / 1000
  maxDeposit : FitsMsats swap.swapInfo.maxAllowedDeposit.toUInt64

/-- Within the range of `u64` what an offer leaves after the fee is at most the limit. -/
theorem fundsAfterFee_le {swap : OpenSwap support sdk}
    {response : PrepareRedeemOnchainFundsResponse} {onchainFeeSat sent : UInt64}
    (hrange : WithinRange swap response)
    (hfee : onchainFeeSat = response.txFeeSat ∨
      onchainFeeSat = response.txFeeSat + clnDustLimitSat)
    (hhalf : round (asSats onchainFeeSat).msats .up * 2
      ≤ round swap.nodeState.onchainBalanceMsat .down)
    (hsent : sent = round (asSats (fundsAfterFee swap response)).msats .up)
    (hmax : sent ≤ swap.swapInfo.maxAllowedDeposit.toUInt64)
    (hlsp : swap.lspFee swap.nodeState.onchainBalanceMsat < sent) :
    fundsAfterFee swap response ≤ swap.maxDeposit := by
  have hfit := hrange.fee
  have hdust : clnDustLimitSat.toNat = 546 := rfl
  have hle : response.txFeeSat.toNat ≤ onchainFeeSat.toNat ∧
      onchainFeeSat.toNat < 2 ^ 64 / 1000 := by
    rcases hfee with rfl | rfl
    · omega
    · rw [UInt64.toNat_add]
      omega
  -- the fee is at most half of the balance, so subtracting it does not wrap
  have htwo : (2 : UInt64).toNat = 2 := rfl
  rw [round_up_asSats hle.2, UInt64.le_iff_toNat_le, UInt64.toNat_mul, htwo] at hhalf
  have hbalance : (round swap.nodeState.onchainBalanceMsat .down).toNat ≤ 2 ^ 64 / 1000 := by
    have := swap.nodeState.onchainBalanceMsat.toNat_lt
    rw [toNat_round_down]
    omega
  have hfunds : (fundsAfterFee swap response).toNat ≤ 2 ^ 64 / 1000 := by
    have hsub := UInt64.toNat_sub_of_le (round swap.nodeState.onchainBalanceMsat .down)
      response.txFeeSat (UInt64.le_iff_toNat_le.mpr (by omega))
    unfold fundsAfterFee
    omega
  by_cases hfits : FitsMsats (fundsAfterFee swap response)
  · rw [round_up_asSats hfits] at hsent
    rw [← hsent, OpenSwap.maxDeposit, round_down_asSats hrange.maxDeposit]
    exact hmax
  · -- rounding up wraps to an offer of nothing, which no fee is below
    unfold FitsMsats at hfits
    have hzero : sent.toNat = 0 := by
      rw [hsent, toNat_round_up, toNat_msats]
      omega
    have := UInt64.lt_iff_toNat_lt.mp hlsp
    omega

/-- The funds pay for the reserve on top of what was offered. What is left is at most the largest
deposit, unless amounts wrap in msats. -/
structure CoversReserve (swap : OpenSwap support sdk)
    (response : PrepareRedeemOnchainFundsResponse) : Prop where
  minDeposit :
    swap.minDeposit.toNat + clnDustLimitSat.toNat ≤ (fundsAfterFee swap response).toNat
  lspFee :
    (swap.lspFee (fundsAfterFee swap response - clnDustLimitSat)).toNat + clnDustLimitSat.toNat
      < (fundsAfterFee swap response).toNat
  maxDeposit :
    WithinRange swap response ∨
      (fundsAfterFee swap response).toNat
        ≤ swap.swapInfo.maxAllowedDeposit.toUInt64.toNat * 1000 % 2 ^ 64 / 1000
          + clnDustLimitSat.toNat

end ChannelClose

/-! ## What is offered is accepted -/

variable {support : Support} {sdk : OnchainSdk}

/-- A failed swap that is offered is accepted if no amount leaves the range of `u64`; if one
does, it is accepted exactly when it is within the limits as they wrap. -/
theorem Swap.offered_accepted_iff {failedSwapInfo : FailedSwapInfo} {fees : OnchainResolvingFees}
    (hfees : (Swap.mk support).determineResolvingFees sdk failedSwapInfo = .ok (some fees))
    (hoffered : fees.swapFees.isSome) :
    (Swap.mk support).ReachesBroadcast sdk failedSwapInfo fees.satsPerVbyte ↔
      ∃ (swap : OpenSwap support sdk) (response : PrepareRefundResponse),
        sdk.prepareRefund
          ⟨failedSwapInfo.address, swap.swapInfo.bitcoinAddress, fees.satsPerVbyte⟩
          = .ok response ∧
        (Swap.WithinRange swap failedSwapInfo response ∨
          Swap.WithinWrappedLimits swap failedSwapInfo response) := by
  obtain ⟨swap, response, sent, hresponse, hfee, hsent, hmin, hmax, hlsp⟩ :=
    Swap.determineResolvingFees_offered hfees hoffered
  rw [Swap.reachesBroadcast_iff]
  -- the offer was prepared for the same swap and got the same answer
  have hsame : ∀ (swap' : OpenSwap support sdk) (response' : PrepareRefundResponse),
      sdk.prepareRefund ⟨failedSwapInfo.address, swap'.swapInfo.bitcoinAddress,
        fees.satsPerVbyte⟩ = .ok response' → swap' = swap ∧ response' = response := by
    intro swap' response' hresponse'
    obtain rfl := Subsingleton.elim swap swap'
    exact ⟨rfl, Except.ok.inj (hresponse'.symm.trans hresponse)⟩
  constructor
  · rintro ⟨swap', response', hresponse', haccepts⟩
    obtain ⟨rfl, rfl⟩ := hsame swap' response' hresponse'
    exact ⟨_, _, hresponse, .inr ((Swap.accepts_iff_withinWrappedLimits hfee).mp haccepts)⟩
  · rintro ⟨swap', response', hresponse', h⟩
    obtain ⟨rfl, rfl⟩ := hsame swap' response' hresponse'
    refine ⟨_, _, hresponse, ?_⟩
    rcases h with hrange | hlimits
    · exact Swap.accepts_of_withinRange hrange hfee hsent hmin hmax hlsp
    · exact (Swap.accepts_iff_withinWrappedLimits hfee).mpr hlimits

/-- A swap of channel-close funds that is offered is accepted exactly when the funds cover the
reserve of the node as well. -/
theorem ChannelClose.offered_accepted_iff {fees : OnchainResolvingFees}
    (hfees : (ChannelClose.mk support).determineResolvingFees sdk = .ok (some fees))
    (hoffered : fees.swapFees.isSome) :
    (ChannelClose.mk support).ReachesBroadcast sdk fees.satsPerVbyte ↔
      ∃ (swap : OpenSwap support sdk) (response : PrepareRedeemOnchainFundsResponse),
        sdk.prepareRedeemOnchainFunds ⟨swap.swapInfo.bitcoinAddress, fees.satsPerVbyte⟩
          = .ok response ∧
        ChannelClose.CoversReserve swap response := by
  have hdust : clnDustLimitSat.toNat ≤ 2 ^ 63 := by decide
  rw [ChannelClose.reachesBroadcast_iff]
  constructor
  · rintro ⟨swap, response, hresponse, haccepts⟩
    obtain ⟨hmin, hmax, hlsp⟩ :=
      (swap.accepts_sub_iff (swap.maxDeposit_lt_sub_reserve hdust)).mp haccepts
    rw [swap.toNat_maxDeposit] at hmax
    exact ⟨swap, response, hresponse, hmin, hlsp, .inr hmax⟩
  · rintro ⟨swap, response, hresponse, hcovers⟩
    refine ⟨swap, response, hresponse,
      (swap.accepts_sub_iff (swap.maxDeposit_lt_sub_reserve hdust)).mpr
        ⟨hcovers.minDeposit, ?_, hcovers.lspFee⟩⟩
    rcases hcovers.maxDeposit with hrange | hmax
    · obtain ⟨swap', response', onchainFeeSat, sent, hresponse', hfee, hhalf, hsent, hmax,
        hlsp⟩ := ChannelClose.determineResolvingFees_offered hfees hoffered
      obtain rfl := Subsingleton.elim swap swap'
      obtain rfl : response = response' := by simpa [hresponse] using hresponse'
      have := UInt64.le_iff_toNat_le.mp
        (ChannelClose.fundsAfterFee_le hrange hfee hhalf hsent hmax hlsp)
      omega
    · rw [swap.toNat_maxDeposit]
      exact hmax

/-- **When an offered swap is accepted.** The swap of a failed swap reaches the broadcast as
long as no amount leaves the range of `u64`; if one does, exactly when what is left after the fee
is within the limits that these wrap to and above its LSP fee. The swap of channel-close funds
reaches it exactly when what is left after the fee of the transaction is at least the reserve above
the minimum deposit, and above the LSP fee of the amount without the reserve. -/
theorem offeredSwaps_accepted_iff (support : Support) (sdk : OnchainSdk) :
    (∀ (failedSwapInfo : FailedSwapInfo) (fees : OnchainResolvingFees),
      (Swap.mk support).determineResolvingFees sdk failedSwapInfo = .ok (some fees) →
      fees.swapFees.isSome →
      ((Swap.mk support).ReachesBroadcast sdk failedSwapInfo fees.satsPerVbyte ↔
        ∃ (swap : OpenSwap support sdk) (response : PrepareRefundResponse),
          sdk.prepareRefund
            ⟨failedSwapInfo.address, swap.swapInfo.bitcoinAddress, fees.satsPerVbyte⟩
            = .ok response ∧
          (Swap.WithinRange swap failedSwapInfo response ∨
            Swap.WithinWrappedLimits swap failedSwapInfo response))) ∧
    (∀ fees : OnchainResolvingFees,
      (ChannelClose.mk support).determineResolvingFees sdk = .ok (some fees) →
      fees.swapFees.isSome →
      ((ChannelClose.mk support).ReachesBroadcast sdk fees.satsPerVbyte ↔
        ∃ (swap : OpenSwap support sdk) (response : PrepareRedeemOnchainFundsResponse),
          sdk.prepareRedeemOnchainFunds ⟨swap.swapInfo.bitcoinAddress, fees.satsPerVbyte⟩
            = .ok response ∧
          ChannelClose.CoversReserve swap response)) :=
  ⟨fun _ _ hfees hoffered => Swap.offered_accepted_iff hfees hoffered,
    fun _ hfees hoffered => ChannelClose.offered_accepted_iff hfees hoffered⟩

/-- A test that holds of what a call found. -/
theorem exists_ok_some_of_any {ε α : Type} {result : Except ε (Option α)} {p : α → Bool}
    (h : result.toOption.join.any p = true) : ∃ a, result = .ok (some a) ∧ p a = true := by
  match result, h with
  | .ok (some a), h => exact ⟨a, rfl, h⟩

/-- A wallet that knows the LSP fee params. -/
def closedChannelSupport : Support where
  userPreferences := ⟨"CHF", ⟨"Europe/Zurich", 60⟩⟩
  taskManager := ⟨[], none, some ⟨2500000, 4000, "2024-01-01", 4320, 432, "promise"⟩⟩
  dataStore := .new .migrated none

/-- Its node has 51 000 sats of channel-close funds. Deposits start at 50 000 sats, and the
transaction costs 500 sats. -/
def closedChannelSdk : OnchainSdk where
  nodeInfo := .ok ⟨"02aa", [], [], 51000000, 0, 100000000000, 0, 0⟩
  receiveOnchain := fun _ => .ok ⟨"bc1qswap", 50000, 4000000⟩
  recommendedFees := .ok ⟨3⟩
  prepareRefund := fun _ => .error "unknown swap"
  refund := fun _ => .error "unknown swap"
  prepareRedeemOnchainFunds := fun _ => .ok ⟨500⟩
  redeemOnchainFunds := fun _ => .ok ⟨[0xab]⟩
  errorText := fun _ => "error"
  receiveOnchainErrorText := fun _ => "error"
  redeemErrorFromSdkError := .generic

/-- A swap is offered for the 50 500 sats that are left after the fee; the swap itself sends
49 954 sats, which is below the limit. -/
theorem reserve_breaks_offer :
    ¬ ∀ (support : Support) (sdk : OnchainSdk),
      (∀ (failedSwapInfo : FailedSwapInfo) (fees : OnchainResolvingFees),
        (Swap.mk support).determineResolvingFees sdk failedSwapInfo = .ok (some fees) →
        fees.swapFees.isSome →
        (Swap.mk support).ReachesBroadcast sdk failedSwapInfo fees.satsPerVbyte) ∧
      (∀ fees : OnchainResolvingFees,
        (ChannelClose.mk support).determineResolvingFees sdk = .ok (some fees) →
        fees.swapFees.isSome →
        (ChannelClose.mk support).ReachesBroadcast sdk fees.satsPerVbyte) := by
  intro h
  have hoffer : (((ChannelClose.mk closedChannelSupport).determineResolvingFees
      closedChannelSdk).toOption.join.any fun fees =>
        fees.swapFees.isSome && fees.satsPerVbyte == 3) = true := by decide +kernel
  have hswap : succeeded ((ChannelClose.mk closedChannelSupport).swapRedemption
      closedChannelSdk 3) = false := by decide +kernel
  obtain ⟨fees, hfees, hfound⟩ := exists_ok_some_of_any hoffer
  simp only [Bool.and_eq_true, beq_iff_eq] at hfound
  obtain ⟨redemption, haccepted⟩ := (h closedChannelSupport closedChannelSdk).2 fees hfees hfound.1
  rw [hfound.2] at haccepted
  rw [haccepted] at hswap
  cases hswap

end LipaLightning
