import LipaLightning.Onchain.Swap
import LipaLightning.Onchain.ChannelCloses

set_option autoImplicit false

/-! # Prepared sweeps

A prepared sweep tells the user which amount is sent and which fee is paid for it. For a failed
swap the two add up to the amount of the swap. For channel closes the reserve that the node
keeps is added to the fee, but it is not taken from the amount; so the two add up to the
balance only if the node has set the reserve aside already.
-/

namespace LipaLightning

/-! ## Rounding through msats -/

/-- The largest amount of sats that `u64` can hold in msats. -/
theorem msats_limit : 2 ^ 64 / 1000 = 18446744073709551 := rfl

/-- Rounding up an amount in msats: one that does not fit wraps around once. -/
theorem toNat_round_up_asSats {n : UInt64} (h : n.toNat ≤ 2 * (2 ^ 64 / 1000)) :
    (round (asSats n).msats .up).toNat =
      if n.toNat < 2 ^ 64 / 1000 then n.toNat else n.toNat - 2 ^ 64 / 1000 := by
  rw [toNat_round_up, toNat_msats]
  rw [msats_limit] at h ⊢
  split
  · omega
  · -- the limit itself is 616 short of the range, so rounding it up wraps
    have hwrap : n.toNat * 1000 % 2 ^ 64 = n.toNat * 1000 ∨
        n.toNat * 1000 % 2 ^ 64 = n.toNat * 1000 - 2 ^ 64 := by omega
    omega

/-! ## Channel closes -/

namespace ChannelClose

variable {self : ChannelClose} {sdk : OnchainSdk} {address : String} {info : SweepChannelCloseInfo}

/-- The node has an output of exactly the reserve among its outputs. -/
def HasReserve (nodeState : NodeState) : Prop :=
  ∃ u ∈ nodeState.utxos, u.amountMillisatoshi = clnDustLimitSat * 1000

/-- The on-chain balance in whole sats. -/
def balanceSat (nodeState : NodeState) : UInt64 := round nodeState.onchainBalanceMsat .down

/-- The fee that is shown for a transaction, in sats. -/
def shownFeeSat (nodeState : NodeState) (txFeeSat : UInt64) : UInt64 :=
  if nodeState.utxos.any fun u => u.amountMillisatoshi = clnDustLimitSat * 1000 then txFeeSat
  else txFeeSat + clnDustLimitSat

/-- What a prepared sweep is computed from: the state of the node and the transaction that the
SDK prepared. -/
theorem prepareSweep_ok (h : self.prepareSweep sdk address = .ok info) :
    ∃ nodeState response, sdk.nodeInfo = .ok nodeState ∧
      sdk.prepareRedeemOnchainFunds ⟨address, info.onchainFeeRate⟩ = .ok response ∧
      info.amount.sats
        = round (asSats (balanceSat nodeState - response.txFeeSat)).msats .up ∧
      info.onchainFeeAmount.sats
        = round (asSats (shownFeeSat nodeState response.txFeeSat)).msats .up := by
  unfold prepareSweep at h
  simp only [bind_eq_ok, mapError_eq_ok] at h
  obtain ⟨feeRate, -, response, hresponse, nodeState, hnode, utxos, hutxos, hinfo⟩ := h
  obtain rfl := Except.ok.inj hinfo
  rw [hnode] at hutxos
  obtain rfl := Except.ok.inj hutxos
  exact ⟨nodeState, response, hnode, hresponse, rfl, rfl⟩

theorem hasReserve_iff (nodeState : NodeState) :
    HasReserve nodeState ↔
      (nodeState.utxos.any fun u => u.amountMillisatoshi = clnDustLimitSat * 1000) = true := by
  simp [HasReserve]

/-- The amount and the fee add up to the balance exactly if the reserve is not added to the
fee, and both fit in msats. -/
theorem sum_eq_balance_iff {nodeState : NodeState} {txFeeSat : UInt64}
    (hle : txFeeSat ≤ balanceSat nodeState) :
    (round (asSats (balanceSat nodeState - txFeeSat)).msats .up).toNat
        + (round (asSats (shownFeeSat nodeState txFeeSat)).msats .up).toNat
        = (balanceSat nodeState).toNat ↔
      HasReserve nodeState ∧ FitsMsats (balanceSat nodeState - txFeeSat) ∧
        FitsMsats txFeeSat := by
  have hsub := UInt64.toNat_sub_of_le _ _ hle
  have hbalance : (balanceSat nodeState).toNat ≤ 2 ^ 64 / 1000 := by
    rw [balanceSat, toNat_round_down]
    have := nodeState.onchainBalanceMsat.toNat_lt
    omega
  rw [UInt64.le_iff_toNat_le] at hle
  have hdust : clnDustLimitSat.toNat = 546 := rfl
  rw [toNat_round_up_asSats (by omega), hasReserve_iff, shownFeeSat]
  unfold FitsMsats
  by_cases hreserve :
      (nodeState.utxos.any fun u => u.amountMillisatoshi = clnDustLimitSat * 1000) = true
  · -- the fee is that of the transaction
    rw [if_pos hreserve, toNat_round_up_asSats (by omega)]
    simp only [hreserve, true_and]
    split <;> split <;> omega
  · -- the reserve is in the fee, and in the amount too
    rw [if_neg hreserve]
    refine iff_of_false ?_ (fun h => hreserve h.1)
    have hadd : (txFeeSat + clnDustLimitSat).toNat = txFeeSat.toNat + 546 := by
      rw [UInt64.toNat_add, hdust]
      omega
    rw [toNat_round_up_asSats (by omega), hadd]
    split <;> split <;> omega

end ChannelClose

/-! ## Failed swaps -/

namespace Swap

variable {self : Swap} {sdk : OnchainSdk} {failedSwapInfo : FailedSwapInfo} {toAddress : String}
  {info : SweepFailedSwapInfo}

/-- What the sweep of a failed swap is computed from. -/
theorem prepareSweep_ok (h : self.prepareSweep sdk failedSwapInfo toAddress = .ok info) :
    ∃ response,
      sdk.prepareRefund ⟨failedSwapInfo.address, toAddress, info.onchainFeeRate⟩ = .ok response ∧
      info.onchainFee.sats = round (asSats response.refundTxFeeSat).msats .up ∧
      info.onchainFee.sats < failedSwapInfo.amount.sats ∧
      info.recoveredAmount.sats
        = round (asSats (failedSwapInfo.amount.sats - info.onchainFee.sats)).msats .down := by
  unfold prepareSweep at h
  simp only [bind_eq_ok, mapToRuntimeError_eq_ok, ensure_eq_ok] at h
  obtain ⟨feeRate, -, response, hresponse, -, hfee, hinfo⟩ := h
  obtain rfl := Except.ok.inj hinfo
  exact ⟨response, hresponse, rfl, hfee, rfl⟩

/-- What is left of a failed swap and the fee add up to its amount exactly if what is left fits
in msats. -/
theorem sum_eq_amount_iff {amount fee recovered : UInt64} (hlt : fee < amount)
    (hrecovered : recovered = round (asSats (amount - fee)).msats .down) :
    recovered.toNat + fee.toNat = amount.toNat ↔ (amount.toNat - fee.toNat) * 1000 < 2 ^ 64 := by
  have hsub := UInt64.toNat_sub_of_le _ _ (UInt64.le_of_lt hlt)
  rw [UInt64.lt_iff_toNat_lt] at hlt
  rw [← hsub, ← toNat_round_down_asSats_eq_iff, hrecovered]
  omega

end Swap

/-! ## Conservation -/

/-- The amount and the fee of a prepared sweep of channel closes add up to the balance. -/
def SweepChannelCloseInfo.Conserves (info : SweepChannelCloseInfo) (nodeState : NodeState) : Prop :=
  info.amount.sats.toNat + info.onchainFeeAmount.sats.toNat
    = (ChannelClose.balanceSat nodeState).toNat

/-- The amount and the fee of a prepared sweep of a failed swap add up to the amount of the
swap. -/
def SweepFailedSwapInfo.Conserves (info : SweepFailedSwapInfo)
    (failedSwapInfo : FailedSwapInfo) : Prop :=
  info.recoveredAmount.sats.toNat + info.onchainFee.sats.toNat = failedSwapInfo.amount.sats.toNat

/-- **When a prepared sweep conserves the funds.** The sweep of channel closes does exactly if
the node has set its reserve aside in an output of its own (and no amount leaves the range of
`u64`). The sweep of a failed swap does exactly if what is left of it fits in msats. -/
theorem preparedSweeps_conserve_iff (sdk : OnchainSdk) :
    (∀ (self : ChannelClose) (address : String) (info : SweepChannelCloseInfo)
      (nodeState : NodeState) (response : PrepareRedeemOnchainFundsResponse),
      self.prepareSweep sdk address = .ok info → sdk.nodeInfo = .ok nodeState →
      sdk.prepareRedeemOnchainFunds ⟨address, info.onchainFeeRate⟩ = .ok response →
      response.txFeeSat ≤ ChannelClose.balanceSat nodeState →
      (info.Conserves nodeState ↔
        ChannelClose.HasReserve nodeState ∧
          FitsMsats (ChannelClose.balanceSat nodeState - response.txFeeSat) ∧
          FitsMsats response.txFeeSat)) ∧
    (∀ (self : Swap) (failedSwapInfo : FailedSwapInfo) (toAddress : String)
      (info : SweepFailedSwapInfo) (response : PrepareRefundResponse),
      self.prepareSweep sdk failedSwapInfo toAddress = .ok info →
      sdk.prepareRefund ⟨failedSwapInfo.address, toAddress, info.onchainFeeRate⟩ = .ok response →
      (info.Conserves failedSwapInfo ↔
        (failedSwapInfo.amount.sats.toNat
          - (round (asSats response.refundTxFeeSat).msats .up).toNat) * 1000 < 2 ^ 64)) := by
  constructor
  · intro self address info nodeState response h hnode hresponse hle
    obtain ⟨nodeState', response', hnode', hresponse', hamount, hfee⟩ :=
      ChannelClose.prepareSweep_ok h
    obtain rfl : nodeState = nodeState' := by simpa [hnode] using hnode'
    obtain rfl : response = response' := by simpa [hresponse] using hresponse'
    rw [SweepChannelCloseInfo.Conserves, hamount, hfee]
    exact ChannelClose.sum_eq_balance_iff hle
  · intro self failedSwapInfo toAddress info response h hresponse
    obtain ⟨response', hresponse', hfee, hlt, hrecovered⟩ := Swap.prepareSweep_ok h
    obtain rfl : response = response' := by simpa [hresponse] using hresponse'
    rw [SweepFailedSwapInfo.Conserves, ← hfee]
    exact Swap.sum_eq_amount_iff hlt hrecovered

/-- A wallet without exchange rates. -/
def sweepSupport : Support where
  userPreferences := ⟨"CHF", ⟨"Europe/Zurich", 60⟩⟩
  taskManager := ⟨[], none, none⟩
  dataStore := .new .migrated none

/-- A node with 51 000 sats of channel-close funds in some outputs, and a failed swap; a
transaction costs 500 sats. -/
def sweepSdk (utxos : List UnspentTransactionOutput) : OnchainSdk where
  nodeInfo := .ok ⟨"02aa", utxos, [], 51000000, 0, 0, 0, 0⟩
  receiveOnchain := fun _ => .error (.generic "")
  recommendedFees := .ok ⟨3⟩
  prepareRefund := fun _ => .ok ⟨500⟩
  refund := fun _ => .error ""
  prepareRedeemOnchainFunds := fun _ => .ok ⟨500⟩
  redeemOnchainFunds := fun _ => .error (.generic "")
  errorText := fun _ => ""
  receiveOnchainErrorText := fun _ => ""
  redeemErrorFromSdkError := .generic

/-- A sweep of a node with a reserve output, and one of a failed swap of 60 000 sats. -/
theorem preparedSweeps_conserve_iff_reserve :
    ((⟨"bc1q", 3, ⟨500, none⟩, ⟨50500, none⟩⟩ : SweepChannelCloseInfo).Conserves
        ⟨"02aa", [⟨546000⟩, ⟨50454000⟩], [], 51000000, 0, 0, 0, 0⟩ ↔
      ChannelClose.HasReserve ⟨"02aa", [⟨546000⟩, ⟨50454000⟩], [], 51000000, 0, 0, 0, 0⟩ ∧
        FitsMsats (51000 - 500) ∧ FitsMsats 500) ∧
    ((⟨"bc1qfailed", ⟨59500, none⟩, ⟨500, none⟩, "bc1q", 3⟩ : SweepFailedSwapInfo).Conserves
        ⟨"bc1qfailed", ⟨60000, none⟩, 0⟩ ↔
      (60000 - (round (asSats 500).msats .up).toNat) * 1000 < 2 ^ 64) :=
  ⟨(preparedSweeps_conserve_iff (sweepSdk [⟨546000⟩, ⟨50454000⟩])).1 ⟨sweepSupport⟩ "bc1q" _ _
      ⟨500⟩ (by decide +kernel) rfl rfl (by decide),
    (preparedSweeps_conserve_iff (sweepSdk [])).2 ⟨sweepSupport⟩ ⟨"bc1qfailed", ⟨60000, none⟩, 0⟩
      "bc1q" _ ⟨500⟩ (by decide +kernel) rfl⟩

/-- Without a reserve output, 50 500 sats and a fee of 1046 sats are shown for a balance of
51 000 sats. -/
theorem shown_reserve_not_conserved :
    ¬ ((∀ (self : ChannelClose) (sdk : OnchainSdk) (address : String)
        (info : SweepChannelCloseInfo) (nodeState : NodeState)
        (response : PrepareRedeemOnchainFundsResponse),
        self.prepareSweep sdk address = .ok info → sdk.nodeInfo = .ok nodeState →
        sdk.prepareRedeemOnchainFunds ⟨address, info.onchainFeeRate⟩ = .ok response →
        response.txFeeSat ≤ ChannelClose.balanceSat nodeState → info.Conserves nodeState) ∧
      (∀ (self : Swap) (sdk : OnchainSdk) (failedSwapInfo : FailedSwapInfo) (toAddress : String)
        (info : SweepFailedSwapInfo),
        self.prepareSweep sdk failedSwapInfo toAddress = .ok info →
        info.Conserves failedSwapInfo)) := by
  rintro ⟨hclose, -⟩
  have hconserves := hclose ⟨sweepSupport⟩ (sweepSdk [⟨51000000⟩]) "bc1q"
    ⟨"bc1q", 3, ⟨1046, none⟩, ⟨50500, none⟩⟩ _ ⟨500⟩ (by decide +kernel) rfl rfl (by decide)
  exact absurd hconserves (by unfold SweepChannelCloseInfo.Conserves; decide)

end LipaLightning
