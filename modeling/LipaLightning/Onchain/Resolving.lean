import LipaLightning.Support

set_option autoImplicit false

/-! # Resolving on-chain funds

What a failed swap and the funds of closed channels have in common when they are resolved
(`onchain/mod.rs`): the address of a new swap, and the fees of the two ways to resolve them.
`OnchainSdk` collects the answers of the SDK to the calls made here.
-/

namespace LipaLightning

/-! ## The SDK -/

/-- `breez_sdk_core::SwapInfo`, the fields the library reads. -/
structure BreezSwapInfo where
  bitcoinAddress : String
  minAllowedDeposit : Int64
  maxAllowedDeposit : Int64
  deriving DecidableEq

structure ReceiveOnchainRequest where
  openingFeeParams : Option OpeningFeeParams
  deriving DecidableEq, Repr

/-- `breez_sdk_core::error::ReceiveOnchainError`. -/
inductive ReceiveOnchainError where
  | generic (err : String)
  | serviceConnectivity (err : String)
  | swapInProgress (err : String)
  deriving DecidableEq, Repr

/-- `breez_sdk_core::error::RedeemOnchainError`. -/
inductive RedeemOnchainError where
  | generic (err : String)
  | insufficientFunds (err : String)
  | serviceConnectivity (err : String)
  deriving DecidableEq, Repr

structure RecommendedFees where
  halfHourFee : UInt64
  deriving DecidableEq, Repr

structure PrepareRefundRequest where
  swapAddress : String
  toAddress : String
  satPerVbyte : UInt32
  deriving DecidableEq, Repr

structure PrepareRefundResponse where
  refundTxFeeSat : UInt64
  deriving DecidableEq, Repr

structure RefundRequest where
  swapAddress : String
  toAddress : String
  satPerVbyte : UInt32
  deriving DecidableEq, Repr

structure RefundResponse where
  refundTxId : String
  deriving DecidableEq, Repr

structure PrepareRedeemOnchainFundsRequest where
  toAddress : String
  satPerVbyte : UInt32
  deriving DecidableEq, Repr

structure PrepareRedeemOnchainFundsResponse where
  txFeeSat : UInt64
  deriving DecidableEq, Repr

structure RedeemOnchainFundsRequest where
  toAddress : String
  satPerVbyte : UInt32
  deriving DecidableEq, Repr

structure RedeemOnchainFundsResponse where
  txid : List UInt8
  deriving DecidableEq, Repr

/-- What the SDK answers in one state of the node. An error of a call is its text, unless the
library reads the kind of the error. The last three fields are the texts and the conversion
of errors that the SDK and `perro` implement. -/
structure OnchainSdk where
  nodeInfo : Except String NodeState
  receiveOnchain : ReceiveOnchainRequest → Except ReceiveOnchainError BreezSwapInfo
  recommendedFees : Except String RecommendedFees
  prepareRefund : PrepareRefundRequest → Except String PrepareRefundResponse
  refund : RefundRequest → Except String RefundResponse
  prepareRedeemOnchainFunds :
    PrepareRedeemOnchainFundsRequest →
      Except RedeemOnchainError PrepareRedeemOnchainFundsResponse
  redeemOnchainFunds :
    RedeemOnchainFundsRequest → Except RedeemOnchainError RedeemOnchainFundsResponse
  errorText : Error RuntimeErrorCode → String
  receiveOnchainErrorText : ReceiveOnchainError → String
  redeemErrorFromSdkError : String → RedeemOnchainError

/-! ## A new swap -/

structure Swap where
  support : Support

structure SwapAddressInfo where
  address : String
  minDeposit : Amount
  maxDeposit : Amount
  swapFee : Amount
  deriving DecidableEq, Repr

namespace Swap

def getLspFeeParams (self : Swap) : Result OpeningFeeParams :=
  self.support.taskManager.getLongerValidLspFee

/-- Generates an on-chain address that funds can be sent to, with the limits of a deposit. -/
def create (self : Swap) (sdk : OnchainSdk) : Except ReceiveOnchainError SwapAddressInfo := do
  let lspFeeParams ← self.getLspFeeParams.mapError fun _ =>
    .serviceConnectivity "Could not retrieve lsp fee params"
  let swapInfo ← sdk.receiveOnchain ⟨some lspFeeParams⟩
  let rate := self.support.getExchangeRate
  .ok
    { address := swapInfo.bitcoinAddress
      minDeposit := (asSats swapInfo.minAllowedDeposit.toUInt64).toAmountUp rate
      maxDeposit := (asSats swapInfo.maxAllowedDeposit.toUInt64).toAmountDown rate
      swapFee := (asSats 0).toAmountUp rate }

/-- The LSP fee for the given amount of a swap. -/
def calculateLspFeeForAmount (self : Swap) (sdk : OnchainSdk) (amountSat : UInt64) :
    Result CalculateLspFeeResponseV2 := do
  self.support.calculateLspFeeForAmount sdk.nodeInfo amountSat (← self.getLspFeeParams)

end Swap

/-- The fee rate recommended for on-chain transactions. -/
def queryOnchainFeeRate (sdk : OnchainSdk) : Result UInt32 := do
  let recommendedFees ← mapToRuntimeError sdk.recommendedFees .nodeUnavailable
    "Couldn't fetch recommended fees"
  .ok recommendedFees.halfHourFee.toUInt32

/-! ## The fees -/

structure SwapToLightningFees where
  swapFee : Amount
  onchainFee : Amount
  channelOpeningFee : Amount
  totalFees : Amount
  lspFeeParams : OpeningFeeParams
  deriving DecidableEq, Repr

/-- The fees of the options for resolving on-chain funds. There are no `swapFees` where a swap
is not available. -/
structure OnchainResolvingFees where
  swapFees : Option SwapToLightningFees
  sweepOnchainFeeEstimate : Amount
  satsPerVbyte : UInt32
  deriving DecidableEq, Repr

/-- The fees for resolving `amount`. The transaction is prepared for the address of a new swap,
or for a placeholder when there is none; `prepareOnchainTx` gives the amount it sends, its fee
and its fee rate. -/
def getOnchainResolvingFees (support : Support) (swap : Swap) (sdk : OnchainSdk) (amount : Msats)
    (prepareOnchainTx : String → Result (Sats × Sats × UInt32)) :
    Result (Option OnchainResolvingFees) := do
  let rate := support.getExchangeRate
  -- the function takes sats, and is given the msats here
  let lspFees ← swap.calculateLspFeeForAmount sdk amount.msats
  let swapInfo := (sdk.receiveOnchain ⟨some lspFees.lspFeeParams⟩).toOption
  match prepareOnchainTx
      ((swapInfo.map BreezSwapInfo.bitcoinAddress).getD "1BitcoinEaterAddressDontSendf59kuE") with
  | .error _ => .ok none
  | .ok (sentAmount, onchainFee, satsPerVbyte) =>
      if onchainFee.sats * 2 > amount.satsRoundDown.sats then .ok none
      else do
        let lspFeeResponse ← swap.calculateLspFeeForAmount sdk amount.msats
        let noSwap : OnchainResolvingFees :=
          { swapFees := none
            sweepOnchainFeeEstimate := onchainFee.toAmountUp rate
            satsPerVbyte }
        match swapInfo with
        | none => .ok (some noSwap)
        | some swapInfo =>
            -- the checks of the offer, which the swap makes again of the amount it sends
            if sentAmount.sats < swapInfo.minAllowedDeposit.toUInt64 ∨
                sentAmount.sats > swapInfo.maxAllowedDeposit.toUInt64 ∨
                sentAmount.sats ≤ lspFeeResponse.lspFee.sats then
              .ok (some noSwap)
            else
              let swapFee := asSats 0
              .ok (some
                { noSwap with
                  swapFees := some
                    { swapFee := (asSats swapFee.sats).toAmountUp rate
                      onchainFee := onchainFee.toAmountUp rate
                      channelOpeningFee := lspFeeResponse.lspFee
                      totalFees := (asSats
                        (swapFee.sats + onchainFee.sats + lspFeeResponse.lspFee.sats)).toAmountUp
                          rate
                      lspFeeParams := lspFeeResponse.lspFeeParams } })

/-! ## What an offered swap rests on -/

/-- What a wallet knows when a swap is available: the LSP fee params, the state of the node and
the swap that the SDK prepared for these params. -/
structure OpenSwap (support : Support) (sdk : OnchainSdk) where
  lspFeeParams : OpeningFeeParams
  nodeState : NodeState
  swapInfo : BreezSwapInfo
  params_eq : support.taskManager.getLongerValidLspFee = .ok lspFeeParams
  node_eq : sdk.nodeInfo = .ok nodeState
  swap_eq : sdk.receiveOnchain ⟨some lspFeeParams⟩ = .ok swapInfo

namespace OpenSwap

variable {support : Support} {sdk : OnchainSdk}

/-- The LSP fee, in sats, of a payment of `sats`. -/
def lspFee (self : OpenSwap support sdk) (sats : UInt64) : UInt64 :=
  Support.lspFeeSats self.nodeState self.lspFeeParams sats

/-- The limits of a deposit as `Swap.create` reports them. -/
def minDeposit (self : OpenSwap support sdk) : UInt64 :=
  round (asSats self.swapInfo.minAllowedDeposit.toUInt64).msats .up

def maxDeposit (self : OpenSwap support sdk) : UInt64 :=
  round (asSats self.swapInfo.maxAllowedDeposit.toUInt64).msats .down

/-- A wallet has one open swap at most. -/
instance : Subsingleton (OpenSwap support sdk) where
  allEq a b := by
    obtain ⟨params, node, info, hparams, hnode, hswap⟩ := a
    obtain ⟨params', node', info', hparams', hnode', hswap'⟩ := b
    obtain rfl : params = params' := by simpa [hparams] using hparams'
    obtain rfl : node = node' := by simpa [hnode] using hnode'
    obtain rfl : info = info' := by simpa [hswap] using hswap'
    rfl

theorem create_eq (self : OpenSwap support sdk) :
    ∃ info, (Swap.mk support).create sdk = .ok info ∧
      info.address = self.swapInfo.bitcoinAddress ∧ info.minDeposit.sats = self.minDeposit ∧
      info.maxDeposit.sats = self.maxDeposit := by
  refine
    ⟨{ address := self.swapInfo.bitcoinAddress
       minDeposit := (asSats self.swapInfo.minAllowedDeposit.toUInt64).toAmountUp
        support.getExchangeRate
       maxDeposit := (asSats self.swapInfo.maxAllowedDeposit.toUInt64).toAmountDown
        support.getExchangeRate
       swapFee := (asSats 0).toAmountUp support.getExchangeRate }, ?_, rfl, rfl, rfl⟩
  simp only [Swap.create, Swap.getLspFeeParams, self.params_eq, Except.mapError, bind,
    Except.bind, self.swap_eq]

end OpenSwap

/-! ## What fees are quoted from -/

/-- The LSP fee params, the state of the node, the new swap if there is one, and the transaction
that was prepared for it. -/
structure Quote (support : Support) (sdk : OnchainSdk)
    (prepareOnchainTx : String → Result (Sats × Sats × UInt32)) where
  lspFeeParams : OpeningFeeParams
  nodeState : NodeState
  swapInfo : Option BreezSwapInfo
  sentAmount : Sats
  onchainFee : Sats
  satsPerVbyte : UInt32
  params_eq : support.taskManager.getLongerValidLspFee = .ok lspFeeParams
  node_eq : sdk.nodeInfo = .ok nodeState
  swap_eq : (sdk.receiveOnchain ⟨some lspFeeParams⟩).toOption = swapInfo
  prepared_eq : prepareOnchainTx
    ((swapInfo.map BreezSwapInfo.bitcoinAddress).getD "1BitcoinEaterAddressDontSendf59kuE")
      = .ok (sentAmount, onchainFee, satsPerVbyte)

namespace Quote

variable {support : Support} {sdk : OnchainSdk}
  {prepareOnchainTx : String → Result (Sats × Sats × UInt32)}

/-- The LSP fee, in sats, of a payment of `sats`. -/
def lspFee (self : Quote support sdk prepareOnchainTx) (sats : UInt64) : UInt64 :=
  Support.lspFeeSats self.nodeState self.lspFeeParams sats

/-- There is a swap that takes the amount that is sent. -/
def Swappable (self : Quote support sdk prepareOnchainTx) : Prop :=
  ∃ swapInfo, self.swapInfo = some swapInfo ∧
    swapInfo.minAllowedDeposit.toUInt64 ≤ self.sentAmount.sats ∧
    self.sentAmount.sats ≤ swapInfo.maxAllowedDeposit.toUInt64

/-- The fees of a swap to lightning, with the LSP fee of `amount`. -/
structure IsSwapFees (quote : Quote support sdk prepareOnchainTx) (amount : UInt64)
    (swapFees : SwapToLightningFees) : Prop where
  swapFee : swapFees.swapFee = (asSats 0).toAmountUp support.getExchangeRate
  onchainFee : swapFees.onchainFee = quote.onchainFee.toAmountUp support.getExchangeRate
  channelOpeningFee : swapFees.channelOpeningFee.sats = quote.lspFee amount
  totalFees : swapFees.totalFees =
    (asSats (0 + quote.onchainFee.sats + swapFees.channelOpeningFee.sats)).toAmountUp
      support.getExchangeRate

/-- **What the fees for resolving an amount are.** They are known if the fee of the transaction
is at most half of the amount. A swap is offered if there is one that takes what is sent, and
this is more than the LSP fee. -/
theorem exists_of_ok {amount : Msats} {fees : OnchainResolvingFees}
    (h : getOnchainResolvingFees support ⟨support⟩ sdk amount prepareOnchainTx
      = .ok (some fees)) :
    ∃ self : Quote support sdk prepareOnchainTx, fees.satsPerVbyte = self.satsPerVbyte ∧
      self.onchainFee.sats * 2 ≤ amount.satsRoundDown.sats ∧
      (fees.swapFees = none ∧
          ¬ (self.Swappable ∧ self.lspFee amount.msats < self.sentAmount.sats) ∨
        (self.Swappable ∧ self.lspFee amount.msats < self.sentAmount.sats) ∧
          ∃ swapFees, fees.swapFees = some swapFees ∧
            self.IsSwapFees amount.msats swapFees) := by
  unfold getOnchainResolvingFees at h
  obtain ⟨lspFees, hlsp, h⟩ := bind_eq_ok.mp h
  obtain ⟨params, hparams, hfee⟩ := bind_eq_ok.mp hlsp
  obtain ⟨nodeState, hnode, hsats, rfl⟩ := Support.calculateLspFeeForAmount_ok hfee
  dsimp only at h
  split at h
  · cases h
  · rename_i sentAmount onchainFee satsPerVbyte hprepare
    split at h
    · cases h
    · rename_i hhalf
      rw [gt_iff_lt, UInt64.not_lt] at hhalf
      let quote : Quote support sdk prepareOnchainTx :=
        ⟨lspFees.lspFeeParams, nodeState, _, sentAmount, onchainFee, satsPerVbyte, hparams, hnode,
          rfl, hprepare⟩
      refine ⟨quote, ?_⟩
      simp only [hlsp, bind, Except.bind] at h
      split at h
      · -- there is no swap
        rename_i hnone
        cases h
        refine ⟨rfl, hhalf, .inl ⟨rfl, ?_⟩⟩
        rintro ⟨⟨swapInfo, hsome, -⟩, -⟩
        exact nomatch hnone.symm.trans hsome
      · rename_i swapInfo hsome
        have hlspFee : lspFees.lspFee.sats = quote.lspFee amount.msats := hsats
        split at h
        · -- one of the checks of the offer fails
          rename_i hlimits
          cases h
          refine ⟨rfl, hhalf, .inl ⟨rfl, ?_⟩⟩
          rintro ⟨⟨swapInfo', hsome', hmin, hmax⟩, hless⟩
          obtain rfl := Option.some.inj (hsome.symm.trans hsome')
          rcases hlimits with h | h | h
          · exact UInt64.not_lt.mpr hmin h
          · exact UInt64.not_lt.mpr hmax h
          · exact UInt64.not_lt.mpr (hlspFee ▸ h) hless
        · rename_i hlimits
          cases h
          simp only [not_or, UInt64.not_lt, UInt64.not_le, gt_iff_lt] at hlimits
          refine ⟨rfl, hhalf, .inr ⟨⟨⟨swapInfo, hsome, hlimits.1, hlimits.2.1⟩, ?_⟩, _, rfl,
            ⟨rfl, rfl, hlspFee, rfl⟩⟩⟩
          rw [← hlspFee]
          exact hlimits.2.2

end Quote

/-- **An offered swap has passed the checks of the offer**: the prepared amount is within the
limits that the SDK allows, and above the LSP fee of the amount that is resolved. -/
theorem getOnchainResolvingFees_offered {support : Support} {sdk : OnchainSdk} {amount : Msats}
    {prepareOnchainTx : String → Result (Sats × Sats × UInt32)} {fees : OnchainResolvingFees}
    (hfees : getOnchainResolvingFees support ⟨support⟩ sdk amount prepareOnchainTx
      = .ok (some fees)) (hoffered : fees.swapFees.isSome) :
    ∃ (swap : OpenSwap support sdk) (sentAmount onchainFee : Sats),
      prepareOnchainTx swap.swapInfo.bitcoinAddress
        = .ok (sentAmount, onchainFee, fees.satsPerVbyte) ∧
      onchainFee.sats * 2 ≤ amount.satsRoundDown.sats ∧
      swap.swapInfo.minAllowedDeposit.toUInt64 ≤ sentAmount.sats ∧
      sentAmount.sats ≤ swap.swapInfo.maxAllowedDeposit.toUInt64 ∧
      swap.lspFee amount.msats < sentAmount.sats := by
  obtain ⟨quote, hrate, hhalf, hnone | ⟨⟨⟨swapInfo, hsome, hmin, hmax⟩, hlsp⟩, -⟩⟩ :=
    Quote.exists_of_ok hfees
  · -- without swap fees no swap is offered
    rw [hnone.1] at hoffered
    cases hoffered
  · have hswap : sdk.receiveOnchain ⟨some quote.lspFeeParams⟩ = .ok swapInfo := by
      have htoOption := quote.swap_eq.trans hsome
      cases hanswer : sdk.receiveOnchain ⟨some quote.lspFeeParams⟩ with
      | error e => simp [hanswer, Except.toOption] at htoOption
      | ok answer => simpa [hanswer, Except.toOption] using htoOption
    refine ⟨⟨quote.lspFeeParams, quote.nodeState, swapInfo, quote.params_eq, quote.node_eq, hswap⟩,
      quote.sentAmount, quote.onchainFee, ?_, hhalf, hmin, hmax, hlsp⟩
    have hprepared := quote.prepared_eq
    rwa [hsome, ← hrate] at hprepared

end LipaLightning
