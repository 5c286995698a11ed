import LipaLightning.DataStore.Store
import LipaLightning.Invoice

set_option autoImplicit false

/-! # Support

What the parts of the library share (`support.rs`): the user preferences, the values the task
manager keeps up to date, and the data store. The answers of the SDK are arguments.
-/

namespace LipaLightning

/-- `breez_sdk_core::OpeningFeeParams`. -/
structure OpeningFeeParams where
  minMsat : UInt64
  proportional : UInt32
  validUntil : String
  maxIdleTime : UInt32
  maxClientToSelfDelay : UInt32
  promise : String
  deriving DecidableEq, Repr

/-- The values the task manager keeps up to date. -/
structure TaskManager where
  exchangeRates : List ExchangeRate
  lspFeeCheaper : Option OpeningFeeParams
  lspFeeLongerValid : Option OpeningFeeParams
  deriving DecidableEq, Repr

def TaskManager.getCheaperLspFee (self : TaskManager) : Result OpeningFeeParams :=
  match self.lspFeeCheaper with
  | some params => .ok params
  | none => .error (.runtimeError .lspServiceUnavailable
      "Cached cheaper LSP fee isn't available")

def TaskManager.getLongerValidLspFee (self : TaskManager) : Result OpeningFeeParams :=
  match self.lspFeeLongerValid with
  | some params => .ok params
  | none => .error (.runtimeError .lspServiceUnavailable
      "Cached longer valid LSP fee isn't available")

structure Support where
  userPreferences : UserPreferences
  taskManager : TaskManager
  dataStore : DataStore

/-- `breez_sdk_core::UnspentTransactionOutput`, the fields the library reads. -/
structure UnspentTransactionOutput where
  amountMillisatoshi : UInt64
  deriving DecidableEq, Repr

/-- `breez_sdk_core::NodeState`, the fields the library reads. -/
structure NodeState where
  id : String
  utxos : List UnspentTransactionOutput
  connectedPeers : List String
  onchainBalanceMsat : UInt64
  channelsBalanceMsat : UInt64
  maxReceivableSinglePaymentAmountMsat : UInt64
  totalInboundLiquidityMsats : UInt64
  maxPayableMsat : UInt64
  deriving DecidableEq, Repr

structure ChannelsInfo where
  localBalance : Amount
  maxReceivableSinglePayment : Amount
  totalInboundCapacity : Amount
  outboundCapacity : Amount
  deriving DecidableEq, Repr

structure NodeInfo where
  nodePubkey : String
  peers : List String
  onchainBalance : Amount
  channelsInfo : ChannelsInfo
  deriving DecidableEq, Repr

structure CalculateLspFeeResponseV2 where
  lspFee : Amount
  lspFeeParams : OpeningFeeParams
  deriving DecidableEq, Repr

namespace Support

def getExchangeRates (self : Support) : List ExchangeRate := self.taskManager.exchangeRates

/-- The exchange rate of the default currency, if it is known. -/
def getExchangeRate (self : Support) : Option ExchangeRate :=
  self.getExchangeRates.find? fun r => r.currencyCode = self.userPreferences.fiatCurrency

def getNodeInfo (self : Support) (nodeState : Except String NodeState) : Result NodeInfo :=
  match nodeState with
  | .error _ => .error (.runtimeError .nodeUnavailable "Failed to read node info")
  | .ok nodeState =>
      let rate := self.getExchangeRate
      .ok
        { nodePubkey := nodeState.id
          peers := nodeState.connectedPeers
          onchainBalance := (asMsats nodeState.onchainBalanceMsat).toAmountDown rate
          channelsInfo :=
            { localBalance := (asMsats nodeState.channelsBalanceMsat).toAmountDown rate
              maxReceivableSinglePayment :=
                (asMsats nodeState.maxReceivableSinglePaymentAmountMsat).toAmountDown rate
              totalInboundCapacity :=
                (asMsats nodeState.totalInboundLiquidityMsats).toAmountDown rate
              outboundCapacity := (asMsats nodeState.maxPayableMsat).toAmountDown rate } }

def getNodeUtxos (nodeState : Except String NodeState) :
    Result (List UnspentTransactionOutput) :=
  match nodeState with
  | .error _ => .error (.runtimeError .nodeUnavailable "Couldn't get node info")
  | .ok nodeState => .ok nodeState.utxos

/-- The LSP fee in msats for an amount that takes a new channel. -/
def channelOpeningFeeMsat (amountSat : UInt64) (lspFeeParam : OpeningFeeParams) : UInt64 :=
  let lspFeeSat := amountSat * lspFeeParam.proportional.toUInt64 / 1000000
  let lspFeeMsatRoundedToSat := lspFeeSat * 1000
  max lspFeeMsatRoundedToSat lspFeeParam.minMsat

/-- The LSP fee for the given amount of an incoming payment; `0` if no new channel is
required. -/
def calculateLspFeeForAmount (self : Support) (nodeState : Except String NodeState)
    (amountSat : UInt64) (lspFeeParam : OpeningFeeParams) : Result CalculateLspFeeResponseV2 := do
  let nodeInfo ← self.getNodeInfo nodeState
  let maxReceivable := nodeInfo.channelsInfo.maxReceivableSinglePayment.sats
  let lspFee := if amountSat > maxReceivable then channelOpeningFeeMsat amountSat lspFeeParam else 0
  .ok ⟨(asMsats lspFee).toAmountUp self.getExchangeRate, lspFeeParam⟩

/-- The sats of the LSP fee that a node charges for an amount. -/
def lspFeeSats (nodeState : NodeState) (lspFeeParam : OpeningFeeParams) (amountSat : UInt64) :
    UInt64 :=
  round (if amountSat > round nodeState.maxReceivableSinglePaymentAmountMsat .down then
    channelOpeningFeeMsat amountSat lspFeeParam else 0) .up

/-- The LSP fee is known whenever the node state is, and it is that of `lspFeeSats`. -/
theorem calculateLspFeeForAmount_node (self : Support) (nodeState : NodeState)
    (amountSat : UInt64) (lspFeeParam : OpeningFeeParams) :
    ∃ fee, self.calculateLspFeeForAmount (.ok nodeState) amountSat lspFeeParam = .ok fee ∧
      fee.lspFee.sats = lspFeeSats nodeState lspFeeParam amountSat ∧
      fee.lspFeeParams = lspFeeParam :=
  ⟨_, rfl, rfl, rfl⟩

/-- A known LSP fee was computed from the state of the node. -/
theorem calculateLspFeeForAmount_ok {self : Support} {nodeState : Except String NodeState}
    {amountSat : UInt64} {lspFeeParam : OpeningFeeParams} {fee : CalculateLspFeeResponseV2}
    (h : self.calculateLspFeeForAmount nodeState amountSat lspFeeParam = .ok fee) :
    ∃ state, nodeState = .ok state ∧ fee.lspFee.sats = lspFeeSats state lspFeeParam amountSat ∧
      fee.lspFeeParams = lspFeeParam := by
  cases nodeState with
  | error e => cases h
  | ok state =>
      obtain ⟨fee', hfee, hsats, hparams⟩ :=
        self.calculateLspFeeForAmount_node state amountSat lspFeeParam
      obtain rfl : fee' = fee := by simpa [hfee] using h
      exact ⟨state, rfl, hsats, hparams⟩

/-- Store what is known about a payment. An error of the data store is logged and ignored. -/
def storePaymentInfo (self : Support) (env : Env) (hash : String) (offer : Option Offer) :
    Support :=
  { self with dataStore := (self.dataStore.storePaymentInfo env hash self.userPreferences
      self.getExchangeRates offer none none).2 }

/-! ## The LSP fee within `u64` -/

theorem toNat_max (a b : UInt64) : (max a b).toNat = max a.toNat b.toNat := by
  change (if a ≤ b then b else a).toNat = _
  have hle : a ≤ b ↔ a.toNat ≤ b.toNat := UInt64.le_iff_toNat_le
  by_cases h : a ≤ b
  · rw [if_pos h, Nat.max_eq_right (hle.mp h)]
  · rw [if_neg h, Nat.max_eq_left (Nat.le_of_not_le (mt hle.mpr h))]

theorem toNat_channelOpeningFeeMsat (x : UInt64) (p : OpeningFeeParams) :
    (channelOpeningFeeMsat x p).toNat =
      max (x.toNat * p.proportional.toNat % 2 ^ 64 / 1000000 * 1000) p.minMsat.toNat := by
  unfold channelOpeningFeeMsat
  have hx : x.toNat * p.proportional.toNat % 2 ^ 64 / 1000000 * 1000 < 2 ^ 64 := by omega
  rw [toNat_max]
  simp only [UInt64.toNat_mul, UInt64.toNat_div, UInt32.toNat_toUInt64]
  have h1 : (1000000 : UInt64).toNat = 1000000 := rfl
  have h2 : (1000 : UInt64).toNat = 1000 := rfl
  rw [h1, h2, Nat.mod_eq_of_lt hx]

/-- Rounding a fee up to sats: the larger of two parts is below a bound if both are, where the
first part does not wrap. -/
theorem roundUp_max_lt {q m n : Nat} (hq : q * 1000 + 999 < 2 ^ 64) :
    (max (q * 1000) m + 999) % 2 ^ 64 / 1000 < n →
      (m + 999) % 2 ^ 64 / 1000 < n := by
  rcases Nat.le_total (q * 1000) m with h | h
  · rw [Nat.max_eq_right h]
    exact id
  · rw [Nat.max_eq_left h, Nat.mod_eq_of_lt hq, Nat.mod_eq_of_lt (by omega)]
    omega

theorem max_roundUp_lt {q m n : Nat} (hq : q * 1000 + 999 < 2 ^ 64) (hqn : q < n)
    (hm : (m + 999) % 2 ^ 64 / 1000 < n) : (max (q * 1000) m + 999) % 2 ^ 64 / 1000 < n := by
  rcases Nat.le_total (q * 1000) m with h | h
  · rwa [Nat.max_eq_right h]
  · rw [Nat.max_eq_left h, Nat.mod_eq_of_lt hq]
    omega

/-- With a proportional fee below the amount itself, a fee that is paid from `x` when it is
that of the larger `y` is paid from `x` when it is that of `x`. -/
theorem lspFeeSats_lt (nodeState : NodeState) {p : OpeningFeeParams} {x y : UInt64}
    (hp : p.proportional.toNat < 1000000) (hxy : x ≤ y)
    (hy : lspFeeSats nodeState p y < x) : lspFeeSats nodeState p x < x := by
  unfold lspFeeSats at hy ⊢
  rw [UInt64.lt_iff_toNat_lt, toNat_round_up] at hy ⊢
  rw [UInt64.le_iff_toNat_le] at hxy
  have hpos : 0 < x.toNat := by omega
  by_cases hx : x > round nodeState.maxReceivableSinglePaymentAmountMsat .down
  · have hy' : y > round nodeState.maxReceivableSinglePaymentAmountMsat .down := by
      rw [gt_iff_lt, UInt64.lt_iff_toNat_lt] at hx ⊢
      omega
    simp only [hx, hy', if_true, toNat_channelOpeningFeeMsat] at hy ⊢
    have hprop : x.toNat * p.proportional.toNat % 2 ^ 64 / 1000000 < x.toNat := by
      by_cases hwrap : x.toNat * p.proportional.toNat < 2 ^ 64
      · rw [Nat.mod_eq_of_lt hwrap]
        exact Nat.div_lt_of_lt_mul (by nlinarith)
      · have : 2 ^ 64 ≤ x.toNat * 1000000 := by nlinarith
        omega
    exact max_roundUp_lt (by omega) hprop (roundUp_max_lt (by omega) hy)
  · simp [hx, hpos]

end Support

end LipaLightning
