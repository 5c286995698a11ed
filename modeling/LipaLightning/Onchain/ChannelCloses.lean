import LipaLightning.Onchain.Resolving

set_option autoImplicit false

/-! # Channel closes

Resolving the on-chain funds of closed channels (`onchain/channel_closes.rs`): preparing a
sweep, sweeping the funds to an address of the user, and swapping them back to lightning.
-/

namespace LipaLightning

/-- The sats that the node keeps as a reserve of its on-chain funds. -/
def clnDustLimitSat : UInt64 := 546

/-- The source keeps a `Swap` here, which `Onchain::new` builds on the same support. -/
structure ChannelClose where
  support : Support

structure SweepChannelCloseInfo where
  address : String
  onchainFeeRate : UInt32
  onchainFeeAmount : Amount
  amount : Amount
  deriving DecidableEq, Repr

namespace ChannelClose

/-- Prepares a sweep of all on-chain funds to an address. -/
def prepareSweep (self : ChannelClose) (sdk : OnchainSdk) (address : String) :
    Except RedeemOnchainError SweepChannelCloseInfo := do
  let onchainFeeRate ← (queryOnchainFeeRate sdk).mapError fun e =>
    .serviceConnectivity (sdk.errorText e)
  let res ← sdk.prepareRedeemOnchainFunds ⟨address, onchainFeeRate⟩
  let nodeState ← sdk.nodeInfo.mapError fun e =>
    .serviceConnectivity s!"Failed to fetch on-chain balance: {e}"
  let onchainBalanceSat := ((asMsats nodeState.onchainBalanceMsat).toAmountDown none).sats
  let rate := self.support.getExchangeRate
  let utxos ← (Support.getNodeUtxos sdk.nodeInfo).mapError fun e => .generic (sdk.errorText e)
  -- the reserve is part of the fee that is shown, unless the node has set it aside already
  let onchainFeeSat :=
    if utxos.any fun u => u.amountMillisatoshi = clnDustLimitSat * 1000 then res.txFeeSat
    else res.txFeeSat + clnDustLimitSat
  .ok
    { address
      onchainFeeRate
      onchainFeeAmount := (asSats onchainFeeSat).toAmountUp rate
      amount := (asSats (onchainBalanceSat - res.txFeeSat)).toAmountUp rate }

/-- The fees for resolving channel closes, if there are enough funds to pay for fees. -/
def determineResolvingFees (self : ChannelClose) (sdk : OnchainSdk) :
    Result (Option OnchainResolvingFees) := do
  let nodeState ← mapToRuntimeError sdk.nodeInfo .nodeUnavailable
    "Couldn't fetch on-chain balance"
  let onchainBalance := asMsats nodeState.onchainBalanceMsat
  ensure (onchainBalance.msats ≠ 0) (.invalidInput "No on-chain funds to resolve")
  let prepareOnchainTx (address : String) : Result (Sats × Sats × UInt32) := do
    let sweepInfo ← mapToRuntimeError (self.prepareSweep sdk address) .nodeUnavailable
      "Failed to prepare sweep funds from channel closes"
    .ok (asSats sweepInfo.amount.sats, asSats sweepInfo.onchainFeeAmount.sats,
      sweepInfo.onchainFeeRate)
  getOnchainResolvingFees self.support ⟨self.support⟩ sdk onchainBalance prepareOnchainTx

/-- Broadcasts a prepared sweep. -/
def sweep (sdk : OnchainSdk) (sweepInfo : SweepChannelCloseInfo) : Result String := do
  let response ← mapToRuntimeError
    (sdk.redeemOnchainFunds ⟨sweepInfo.address, sweepInfo.onchainFeeRate⟩)
    .nodeUnavailable "Failed to sweep funds"
  .ok (hexEncode response.txid)

/-- The first part of `swap`: everything up to the transaction that is broadcast. -/
def swapRedemption (self : ChannelClose) (sdk : OnchainSdk) (satPerVbyte : UInt32) :
    Except RedeemOnchainError RedeemOnchainFundsRequest := do
  let nodeState ← sdk.nodeInfo.mapError sdk.redeemErrorFromSdkError
  let onchainBalance := asMsats nodeState.onchainBalanceMsat
  let swapAddressInfo ← ((Swap.mk self.support).create sdk).mapError fun e =>
    .generic s!"Couldn't generate swap address: {sdk.receiveOnchainErrorText e}"
  let prepareResponse ← sdk.prepareRedeemOnchainFunds ⟨swapAddressInfo.address, satPerVbyte⟩
  -- the reserve is subtracted here, but not from the amount of an offer
  let sendAmountSats :=
    onchainBalance.satsRoundDown.sats - clnDustLimitSat - prepareResponse.txFeeSat
  ensure (¬ swapAddressInfo.minDeposit.sats > sendAmountSats)
    (.insufficientFunds (s!"Not enough funds ({sendAmountSats} sats after onchain fees) "
      ++ s!"available for min swap amount({swapAddressInfo.minDeposit.sats} sats)"))
  ensure (¬ swapAddressInfo.maxDeposit.sats < sendAmountSats)
    (.generic (s!"Available funds ({sendAmountSats} sats after onchain fees) exceed limit for "
      ++ s!"swap ({swapAddressInfo.maxDeposit.sats} sats)"))
  let lspFeeParams ← (Swap.mk self.support).getLspFeeParams.mapError fun e =>
    .generic s!"Couldn't retrieve lsp fee params: {sdk.errorText e}"
  let lspFee ← (self.support.calculateLspFeeForAmount sdk.nodeInfo sendAmountSats
    lspFeeParams).mapError fun e => .generic s!"Couldn't retrieve node info: {sdk.errorText e}"
  ensure (¬ lspFee.lspFee.sats ≥ sendAmountSats)
    (.insufficientFunds (s!"Available funds ({sendAmountSats} sats after onchain fees) are not "
      ++ s!"enough for lsp fees ({lspFee.lspFee.sats} sats)"))
  .ok ⟨swapAddressInfo.address, satPerVbyte⟩

/-- Swaps the on-chain funds back to lightning. -/
def swap (self : ChannelClose) (sdk : OnchainSdk) (satPerVbyte : UInt32) :
    Except RedeemOnchainError String := do
  let redemption ← self.swapRedemption sdk satPerVbyte
  let sweepResult ← sdk.redeemOnchainFunds redemption
  .ok (hexEncode sweepResult.txid)

end ChannelClose

end LipaLightning
