import LipaLightning.Basic.CheckedArith
import LipaLightning.Onchain.OfferedSwaps

set_option autoImplicit false

/-! # Swapping recovered funds

Both ways to swap funds back to lightning subtract the fee of the transaction from the funds
before they check anything (`Swap::swap` in `onchain/swap.rs`, `ChannelClose::swap` in
`onchain/channel_closes.rs`). Here the subtractions are checked. A swap is safe exactly if the
fee, with the reserve of the node for channel closes, is at most the funds: `prepare_sweep`
makes this comparison, the swaps do not.
-/

namespace LipaLightning

open CheckedArith

/-- An accepted amount as a number. -/
theorem OpenSwap.Accepts.bounds {support : Support} {sdk : OnchainSdk}
    {swap : OpenSwap support sdk} {sats : UInt64} (h : swap.Accepts sats) :
    swap.minDeposit.toNat ≤ sats.toNat ∧ sats.toNat ≤ swap.maxDeposit.toNat ∧
      (swap.lspFee (.ofNat sats.toNat)).toNat < sats.toNat := by
  rw [UInt64.ofNat_toNat]
  exact ⟨UInt64.le_iff_toNat_le.mp h.minDeposit, UInt64.le_iff_toNat_le.mp h.maxDeposit,
    UInt64.lt_iff_toNat_lt.mp h.lspFee⟩

/-! ## Failed swaps -/

namespace Swap

/-- The rest of `swapRefund`, once the net amount is known. -/
def refundOfNet (self : Swap) (sdk : OnchainSdk) (failedSwapInfo : FailedSwapInfo)
    (satsPerVbyte : UInt32) (swapAddressInfo : SwapAddressInfo) (sendAmountSats : UInt64) :
    Result RefundRequest := do
  ensure (swapAddressInfo.minDeposit.sats ≤ sendAmountSats)
    (.runtimeError .nodeUnavailable "Failed swap amount isn't enough for creating new swap")
  ensure (swapAddressInfo.maxDeposit.sats ≥ sendAmountSats)
    (.runtimeError .nodeUnavailable "Failed swap amount is too big for creating new swap")
  let lspFees ← self.support.calculateLspFeeForAmount sdk.nodeInfo sendAmountSats
    (← self.getLspFeeParams)
  ensure (lspFees.lspFee.sats < sendAmountSats)
    (.runtimeError .nodeUnavailable
      "A new channel is needed and the failed swap amount is not enough to pay for fees")
  .ok ⟨failedSwapInfo.address, swapAddressInfo.address, satsPerVbyte⟩

/-- `swapRefund` with its subtraction checked. -/
def checkedSwapRefund (self : Swap) (sdk : OnchainSdk) (failedSwapInfo : FailedSwapInfo)
    (satsPerVbyte : UInt32) : Checked (Result RefundRequest) :=
  andThen (mapToRuntimeError (self.create sdk) .nodeUnavailable "Couldn't generate swap address")
    fun swapAddressInfo =>
  andThen (mapToRuntimeError
      (sdk.prepareRefund ⟨failedSwapInfo.address, swapAddressInfo.address, satsPerVbyte⟩)
      .nodeUnavailable "Coudln't prepare refund")
    fun prepareResponse => do
  let sendAmountSats ← checkedSub failedSwapInfo.amount.sats prepareResponse.refundTxFeeSat
  .ok (self.refundOfNet sdk failedSwapInfo satsPerVbyte swapAddressInfo sendAmountSats)

/-- The swap address was created, and the refund to it was prepared. -/
structure Prepared (swap : Swap) (sdk : OnchainSdk) (failedSwapInfo : FailedSwapInfo)
    (satsPerVbyte : UInt32) (info : SwapAddressInfo) (response : PrepareRefundResponse) :
    Prop where
  create_eq : swap.create sdk = .ok info
  prepare_eq : sdk.prepareRefund ⟨failedSwapInfo.address, info.address, satsPerVbyte⟩
    = .ok response

/-- The errors for funds that do not suffice. -/
def InsufficientFunds (e : Error RuntimeErrorCode) : Prop :=
  e = .runtimeError .nodeUnavailable "Failed swap amount isn't enough for creating new swap" ∨
    e = .runtimeError .nodeUnavailable
      "A new channel is needed and the failed swap amount is not enough to pay for fees"

/-- `swap` subtracts without a fault, reports a fee above the funds as such, and broadcasts a
refund only if the net amount is one that a swap accepts. -/
structure SafeSwap (support : Support) (sdk : OnchainSdk) (failedSwapInfo : FailedSwapInfo)
    (satsPerVbyte : UInt32) : Prop where
  faultless : Faultless ((Swap.mk support).checkedSwapRefund sdk failedSwapInfo satsPerVbyte)
  insufficient : ∀ info response,
    (Swap.mk support).Prepared sdk failedSwapInfo satsPerVbyte info response →
    failedSwapInfo.amount.sats < response.refundTxFeeSat →
    ∃ e, (Swap.mk support).swap sdk failedSwapInfo satsPerVbyte = .error e ∧ InsufficientFunds e
  broadcast : (Swap.mk support).ReachesBroadcast sdk failedSwapInfo satsPerVbyte →
    ∃ (swap : OpenSwap support sdk) (response : PrepareRefundResponse) (net : ℕ),
      sdk.prepareRefund ⟨failedSwapInfo.address, swap.swapInfo.bitcoinAddress, satsPerVbyte⟩
        = .ok response ∧
      net + response.refundTxFeeSat.toNat = failedSwapInfo.amount.sats.toNat ∧
      swap.minDeposit.toNat ≤ net ∧ net ≤ swap.maxDeposit.toNat ∧
      (swap.lspFee (.ofNat net)).toNat < net

/-- The fee of the refund is at most the amount of the failed swap. -/
def FeeCovered (self : Swap) (sdk : OnchainSdk) (failedSwapInfo : FailedSwapInfo)
    (satsPerVbyte : UInt32) : Prop :=
  ∀ info response, self.Prepared sdk failedSwapInfo satsPerVbyte info response →
    response.refundTxFeeSat ≤ failedSwapInfo.amount.sats

variable {support : Support} {sdk : OnchainSdk} {failedSwapInfo : FailedSwapInfo}
  {satsPerVbyte : UInt32}

theorem computes_checkedSwapRefund (self : Swap) (sdk : OnchainSdk)
    (failedSwapInfo : FailedSwapInfo) (satsPerVbyte : UInt32) :
    Computes (self.checkedSwapRefund sdk failedSwapInfo satsPerVbyte)
      (self.swapRefund sdk failedSwapInfo satsPerVbyte)
      (self.FeeCovered sdk failedSwapInfo satsPerVbyte) := by
  have hcomputes : Computes (self.checkedSwapRefund sdk failedSwapInfo satsPerVbyte)
      (self.swapRefund sdk failedSwapInfo satsPerVbyte) _ :=
    Computes.andThen fun info _ => Computes.andThen fun response _ =>
      (Computes.sub failedSwapInfo.amount.sats response.refundTxFeeSat).map
        (self.refundOfNet sdk failedSwapInfo satsPerVbyte info)
  refine hcomputes.congr ?_
  simp only [mapToRuntimeError_eq_ok, ← UInt64.le_iff_toNat_le]
  constructor
  · intro h info response hprepared
    exact h info hprepared.create_eq response hprepared.prepare_eq
  · intro h info hcreate response hprepare
    exact h info response ⟨hcreate, hprepare⟩

/-- A swap address that was created for an open swap. -/
theorem prepared_of_openSwap (swap : OpenSwap support sdk) {response : PrepareRefundResponse}
    (hresponse : sdk.prepareRefund
      ⟨failedSwapInfo.address, swap.swapInfo.bitcoinAddress, satsPerVbyte⟩ = .ok response) :
    ∃ info, (Swap.mk support).Prepared sdk failedSwapInfo satsPerVbyte info response := by
  obtain ⟨info, hcreate, haddress, -, -⟩ := swap.create_eq
  rw [← haddress] at hresponse
  exact ⟨info, hcreate, hresponse⟩

/-- A swap is safe exactly if the fee is covered. -/
theorem safeSwap_iff :
    SafeSwap support sdk failedSwapInfo satsPerVbyte ↔
      (Swap.mk support).FeeCovered sdk failedSwapInfo satsPerVbyte := by
  have hcomputes := computes_checkedSwapRefund (Swap.mk support) sdk failedSwapInfo satsPerVbyte
  constructor
  · intro hsafe
    exact hcomputes.faultless_iff.mp hsafe.faultless
  · intro hcovered
    refine ⟨hcomputes.faultless_iff.mpr hcovered, ?_, ?_⟩
    · intro info response hprepared hless
      exact absurd hless (UInt64.not_lt.mpr (hcovered info response hprepared))
    · intro hreaches
      obtain ⟨swap, response, hresponse, haccepts⟩ := reachesBroadcast_iff.mp hreaches
      obtain ⟨info, hprepared⟩ := prepared_of_openSwap swap hresponse
      have hle := hcovered info response hprepared
      have hnet := UInt64.toNat_sub_of_le _ _ hle
      rw [UInt64.le_iff_toNat_le] at hle
      exact ⟨swap, response, _, hresponse, by omega, haccepts.bounds⟩

end Swap

/-! ## Channel closes -/

namespace ChannelClose

/-- The rest of `swapRedemption`, once the net amount is known. -/
def redemptionOfNet (self : ChannelClose) (sdk : OnchainSdk) (satPerVbyte : UInt32)
    (swapAddressInfo : SwapAddressInfo) (sendAmountSats : UInt64) :
    Except RedeemOnchainError RedeemOnchainFundsRequest := do
  ensure (¬ swapAddressInfo.minDeposit.sats > sendAmountSats)
    (.insufficientFunds (s!"Not enough funds ({sendAmountSats} sats after onchain fees) "
      ++ s!"available for min swap amount({swapAddressInfo.minDeposit.sats} sats)"))
  ensure (¬ swapAddressInfo.maxDeposit.sats < sendAmountSats)
    (.generic (s!"Available funds ({sendAmountSats} sats after onchain fees) exceed limit for "
      ++ s!"swap ({swapAddressInfo.maxDeposit.sats} sats)"))
  let lspFeeParams ← (Swap.mk self.support).getLspFeeParams.mapError fun e =>
    .generic s!"Couldn't retrieve lsp fee params: {sdk.errorText e}"
  let lspFee ← (self.support.calculateLspFeeForAmount sdk.nodeInfo sendAmountSats
    lspFeeParams).mapError fun e => .generic s!"Couldn't retrieve node info: {sdk.errorText e}"
  ensure (¬ lspFee.lspFee.sats ≥ sendAmountSats)
    (.insufficientFunds (s!"Available funds ({sendAmountSats} sats after onchain fees) are not "
      ++ s!"enough for lsp fees ({lspFee.lspFee.sats} sats)"))
  .ok ⟨swapAddressInfo.address, satPerVbyte⟩

/-- `swapRedemption` with its two subtractions checked. -/
def checkedSwapRedemption (self : ChannelClose) (sdk : OnchainSdk) (satPerVbyte : UInt32) :
    Checked (Except RedeemOnchainError RedeemOnchainFundsRequest) :=
  andThen (sdk.nodeInfo.mapError sdk.redeemErrorFromSdkError) fun nodeState =>
  andThen (((Swap.mk self.support).create sdk).mapError fun e =>
      .generic s!"Couldn't generate swap address: {sdk.receiveOnchainErrorText e}")
    fun swapAddressInfo =>
  andThen (sdk.prepareRedeemOnchainFunds ⟨swapAddressInfo.address, satPerVbyte⟩)
    fun prepareResponse => do
  let onchainBalance := asMsats nodeState.onchainBalanceMsat
  let aboveReserve ← checkedSub onchainBalance.satsRoundDown.sats clnDustLimitSat
  let sendAmountSats ← checkedSub aboveReserve prepareResponse.txFeeSat
  .ok (self.redemptionOfNet sdk satPerVbyte swapAddressInfo sendAmountSats)

/-- The node state was read, the swap address was created, and the transaction to it was
prepared. -/
structure Prepared (close : ChannelClose) (sdk : OnchainSdk) (satPerVbyte : UInt32)
    (nodeState : NodeState) (info : SwapAddressInfo)
    (response : PrepareRedeemOnchainFundsResponse) : Prop where
  node_eq : sdk.nodeInfo = .ok nodeState
  create_eq : (Swap.mk close.support).create sdk = .ok info
  prepare_eq : sdk.prepareRedeemOnchainFunds ⟨info.address, satPerVbyte⟩ = .ok response

/-- The sats of the fee and the reserve together, and of the balance. -/
def costs (response : PrepareRedeemOnchainFundsResponse) : ℕ :=
  response.txFeeSat.toNat + clnDustLimitSat.toNat

def funds (nodeState : NodeState) : ℕ := nodeState.onchainBalanceMsat.toNat / 1000

/-- `swap` subtracts without a fault, reports a fee that the funds above the reserve do not
cover as such, and broadcasts a transaction only if the net amount is one that a swap accepts. -/
structure SafeSwap (support : Support) (sdk : OnchainSdk) (satPerVbyte : UInt32) : Prop where
  faultless : Faultless ((ChannelClose.mk support).checkedSwapRedemption sdk satPerVbyte)
  insufficient : ∀ nodeState info response,
    (ChannelClose.mk support).Prepared sdk satPerVbyte nodeState info response →
    funds nodeState < costs response →
    ∃ err, (ChannelClose.mk support).swap sdk satPerVbyte = .error (.insufficientFunds err)
  broadcast : (ChannelClose.mk support).ReachesBroadcast sdk satPerVbyte →
    ∃ (swap : OpenSwap support sdk) (response : PrepareRedeemOnchainFundsResponse) (net : ℕ),
      sdk.prepareRedeemOnchainFunds ⟨swap.swapInfo.bitcoinAddress, satPerVbyte⟩ = .ok response ∧
      net + costs response = funds swap.nodeState ∧
      swap.minDeposit.toNat ≤ net ∧ net ≤ swap.maxDeposit.toNat ∧
      (swap.lspFee (.ofNat net)).toNat < net

/-- The fee of the transaction and the reserve are at most the balance. -/
def FeeCovered (self : ChannelClose) (sdk : OnchainSdk) (satPerVbyte : UInt32) : Prop :=
  ∀ nodeState info response, self.Prepared sdk satPerVbyte nodeState info response →
    costs response ≤ funds nodeState

variable {support : Support} {sdk : OnchainSdk} {satPerVbyte : UInt32}

theorem toNat_satsRoundDown (nodeState : NodeState) :
    (asMsats nodeState.onchainBalanceMsat).satsRoundDown.sats.toNat = funds nodeState :=
  toNat_round_down nodeState.onchainBalanceMsat

theorem computes_checkedSwapRedemption (self : ChannelClose) (sdk : OnchainSdk)
    (satPerVbyte : UInt32) :
    Computes (self.checkedSwapRedemption sdk satPerVbyte) (self.swapRedemption sdk satPerVbyte)
      (self.FeeCovered sdk satPerVbyte) := by
  have hcomputes : Computes (self.checkedSwapRedemption sdk satPerVbyte)
      (self.swapRedemption sdk satPerVbyte) _ :=
    Computes.andThen fun nodeState _ => Computes.andThen fun info _ =>
      Computes.andThen fun response _ =>
        (Computes.sub (asMsats nodeState.onchainBalanceMsat).satsRoundDown.sats
          clnDustLimitSat).bind fun _ =>
        (Computes.sub ((asMsats nodeState.onchainBalanceMsat).satsRoundDown.sats
          - clnDustLimitSat) response.txFeeSat).map (self.redemptionOfNet sdk satPerVbyte info)
  refine hcomputes.congr ?_
  simp only [mapError_eq_ok]
  -- the second subtraction is from what the first one leaves
  have hsub (nodeState : NodeState) (response : PrepareRedeemOnchainFundsResponse) :
      (clnDustLimitSat.toNat ≤ (asMsats nodeState.onchainBalanceMsat).satsRoundDown.sats.toNat ∧
        response.txFeeSat.toNat ≤ ((asMsats nodeState.onchainBalanceMsat).satsRoundDown.sats
          - clnDustLimitSat).toNat) ↔ costs response ≤ funds nodeState := by
    have hbalance := toNat_satsRoundDown nodeState
    unfold costs
    by_cases hle : clnDustLimitSat ≤ (asMsats nodeState.onchainBalanceMsat).satsRoundDown.sats
    · rw [UInt64.toNat_sub_of_le _ _ hle]
      rw [UInt64.le_iff_toNat_le] at hle
      omega
    · rw [UInt64.le_iff_toNat_le] at hle
      omega
  simp only [hsub]
  constructor
  · intro h nodeState info response hprepared
    exact h nodeState hprepared.node_eq info hprepared.create_eq response hprepared.prepare_eq
  · intro h nodeState hnode info hcreate response hprepare
    exact h nodeState info response ⟨hnode, hcreate, hprepare⟩

/-- A swap is safe exactly if the fee and the reserve are covered. -/
theorem safeSwap_iff :
    SafeSwap support sdk satPerVbyte ↔ (ChannelClose.mk support).FeeCovered sdk satPerVbyte := by
  have hcomputes := computes_checkedSwapRedemption (ChannelClose.mk support) sdk satPerVbyte
  constructor
  · intro hsafe
    exact hcomputes.faultless_iff.mp hsafe.faultless
  · intro hcovered
    refine ⟨hcomputes.faultless_iff.mpr hcovered, ?_, ?_⟩
    · intro nodeState info response hprepared hless
      exact absurd hless (Nat.not_lt.mpr (hcovered nodeState info response hprepared))
    · intro hreaches
      obtain ⟨swap, response, hresponse, haccepts⟩ := reachesBroadcast_iff.mp hreaches
      obtain ⟨info, hcreate, haddress, -, -⟩ := swap.create_eq
      have hle := hcovered swap.nodeState info response
        ⟨swap.node_eq, hcreate, haddress ▸ hresponse⟩
      refine ⟨swap, response, _, hresponse, ?_, haccepts.bounds⟩
      -- neither the fee nor the reserve is above what it is subtracted from
      have hbalance : (round swap.nodeState.onchainBalanceMsat .down).toNat
          = funds swap.nodeState := toNat_satsRoundDown swap.nodeState
      unfold costs at hle ⊢
      have hfee : (fundsAfterFee swap response).toNat + response.txFeeSat.toNat
          = funds swap.nodeState := by
        unfold fundsAfterFee
        rw [UInt64.toNat_sub_of_le _ _ (UInt64.le_iff_toNat_le.mpr (by omega))]
        omega
      rw [UInt64.toNat_sub_of_le _ _ (UInt64.le_iff_toNat_le.mpr (by omega))]
      omega

end ChannelClose

/-- **When recovered funds are swapped safely.** Both swaps are safe exactly if the fee of the
transaction that was prepared is at most the funds, together with the reserve for the funds of
channel closes. -/
theorem recoveredFunds_safe_iff (support : Support) (sdk : OnchainSdk) :
    (∀ (failedSwapInfo : FailedSwapInfo) (satsPerVbyte : UInt32),
      Swap.SafeSwap support sdk failedSwapInfo satsPerVbyte ↔
        (Swap.mk support).FeeCovered sdk failedSwapInfo satsPerVbyte) ∧
    (∀ satPerVbyte : UInt32,
      ChannelClose.SafeSwap support sdk satPerVbyte ↔
        (ChannelClose.mk support).FeeCovered sdk satPerVbyte) :=
  ⟨fun _ _ => Swap.safeSwap_iff, fun _ => ChannelClose.safeSwap_iff⟩

/-- A failed swap of 300 sats whose refund costs 500 sats is reported as too big. -/
theorem small_failed_swap_too_big :
    ¬ ∀ (support : Support) (sdk : OnchainSdk),
      (∀ (failedSwapInfo : FailedSwapInfo) (satsPerVbyte : UInt32),
        Swap.SafeSwap support sdk failedSwapInfo satsPerVbyte) ∧
      (∀ satPerVbyte : UInt32, ChannelClose.SafeSwap support sdk satPerVbyte) := by
  intro h
  let sdk : OnchainSdk := { closedChannelSdk with prepareRefund := fun _ => .ok ⟨500⟩ }
  let failedSwapInfo : FailedSwapInfo := ⟨"bc1qfailed", ⟨300, none⟩, 0⟩
  have hsafe := (h closedChannelSupport sdk).1 failedSwapInfo 3
  have hswap : (Swap.mk closedChannelSupport).swap sdk failedSwapInfo 3 = .error
      (.runtimeError .nodeUnavailable "Failed swap amount is too big for creating new swap") := by
    decide
  obtain ⟨e, he, hinsufficient⟩ := hsafe.insufficient
    ⟨"bc1qswap", ⟨50000, none⟩, ⟨4000000, none⟩, ⟨0, none⟩⟩ ⟨500⟩ ⟨by decide, rfl⟩ (by decide)
  obtain rfl := Except.error.inj (hswap.symm.trans he)
  rcases hinsufficient with h | h
  · exact absurd h (by decide)
  · exact absurd h (by decide)

end LipaLightning
