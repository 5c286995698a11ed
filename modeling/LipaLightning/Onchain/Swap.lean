import LipaLightning.Onchain.Resolving

set_option autoImplicit false

/-! # Swaps

Resolving a failed swap (`onchain/swap.rs`): preparing the sweep of its funds, sweeping them to
an address of the user, and swapping them back to lightning.
-/

namespace LipaLightning

structure FailedSwapInfo where
  address : String
  amount : Amount
  createdAt : SystemTime
  deriving DecidableEq, Repr

/-- Information on the resolution of a failed swap. -/
structure SweepFailedSwapInfo where
  swapAddress : String
  recoveredAmount : Amount
  onchainFee : Amount
  toAddress : String
  onchainFeeRate : UInt32
  deriving DecidableEq, Repr

namespace Swap

/-- Prepares the sweep of a failed swap to an address. -/
def prepareSweep (self : Swap) (sdk : OnchainSdk) (failedSwapInfo : FailedSwapInfo)
    (toAddress : String) : Result SweepFailedSwapInfo := do
  let onchainFeeRate ← queryOnchainFeeRate sdk
  let response ← mapToRuntimeError
    (sdk.prepareRefund ⟨failedSwapInfo.address, toAddress, onchainFeeRate⟩)
    .nodeUnavailable "Failed to prepare a failed swap refund transaction"
  let rate := self.support.getExchangeRate
  let onchainFee := (asSats response.refundTxFeeSat).toAmountUp rate
  ensure (failedSwapInfo.amount.sats > onchainFee.sats)
    (.permanentFailure "Swap amount is below fees")
  .ok
    { swapAddress := failedSwapInfo.address
      recoveredAmount := (asSats (failedSwapInfo.amount.sats - onchainFee.sats)).toAmountDown rate
      onchainFee
      toAddress
      onchainFeeRate }

/-- The fees for resolving a failed swap, if there are enough funds to pay for fees. -/
def determineResolvingFees (self : Swap) (sdk : OnchainSdk) (failedSwapInfo : FailedSwapInfo) :
    Result (Option OnchainResolvingFees) :=
  let prepareOnchainTx (address : String) : Result (Sats × Sats × UInt32) := do
    let sweepInfo ← self.prepareSweep sdk failedSwapInfo address
    .ok (asSats sweepInfo.recoveredAmount.sats, asSats sweepInfo.onchainFee.sats,
      sweepInfo.onchainFeeRate)
  getOnchainResolvingFees self.support self sdk (asMsats failedSwapInfo.amount.toMsats)
    prepareOnchainTx

/-- Broadcasts the sweep of a failed swap. -/
def sweep (sdk : OnchainSdk) (sweepFailedSwapInfo : SweepFailedSwapInfo) : Result String := do
  let response ← mapToRuntimeError
    (sdk.refund ⟨sweepFailedSwapInfo.swapAddress, sweepFailedSwapInfo.toAddress,
      sweepFailedSwapInfo.onchainFeeRate⟩)
    .nodeUnavailable "Failed to create and broadcast failed swap refund transaction"
  .ok response.refundTxId

/-- The first part of `swap`: everything up to the refund that is broadcast. -/
def swapRefund (self : Swap) (sdk : OnchainSdk) (failedSwapInfo : FailedSwapInfo)
    (satsPerVbyte : UInt32) : Result RefundRequest := do
  let swapAddressInfo ← mapToRuntimeError (self.create sdk) .nodeUnavailable
    "Couldn't generate swap address"
  let prepareResponse ← mapToRuntimeError
    (sdk.prepareRefund ⟨failedSwapInfo.address, swapAddressInfo.address, satsPerVbyte⟩)
    .nodeUnavailable "Coudln't prepare refund"
  -- the offer rounds the fee through msats before it subtracts it
  let sendAmountSats := failedSwapInfo.amount.sats - prepareResponse.refundTxFeeSat
  ensure (swapAddressInfo.minDeposit.sats ≤ sendAmountSats)
    (.runtimeError .nodeUnavailable "Failed swap amount isn't enough for creating new swap")
  ensure (swapAddressInfo.maxDeposit.sats ≥ sendAmountSats)
    (.runtimeError .nodeUnavailable "Failed swap amount is too big for creating new swap")
  let lspFees ← self.support.calculateLspFeeForAmount sdk.nodeInfo sendAmountSats
    (← self.getLspFeeParams)
  ensure (lspFees.lspFee.sats < sendAmountSats)
    (.runtimeError .nodeUnavailable
      "A new channel is needed and the failed swap amount is not enough to pay for fees")
  .ok ⟨failedSwapInfo.address, swapAddressInfo.address, satsPerVbyte⟩

/-- Swaps the funds of a failed swap back to lightning. -/
def swap (self : Swap) (sdk : OnchainSdk) (failedSwapInfo : FailedSwapInfo)
    (satsPerVbyte : UInt32) : Result String := do
  let refund ← self.swapRefund sdk failedSwapInfo satsPerVbyte
  let refundResponse ← mapToRuntimeError (sdk.refund refund) .nodeUnavailable
    "Couldn't broadcast swap refund transaction"
  .ok refundResponse.refundTxId

end Swap

end LipaLightning
