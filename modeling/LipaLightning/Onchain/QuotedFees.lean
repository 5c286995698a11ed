import LipaLightning.Onchain.Resolving

set_option autoImplicit false

/-! # The fees that are quoted for a swap

`get_onchain_resolving_fees` (`onchain/mod.rs`) quotes the LSP fee of a swap and decides with it
whether a swap is offered. The fee is the one of the funds before the transaction fee, and the
number of their msats is passed for sats. It is that of the amount the swap sends only if the
LSP charges both the same.
-/

namespace LipaLightning

/-! ## Equal LSP fees -/

namespace Support

/-- A payment of these sats takes a new channel. -/
def NeedsChannel (nodeState : NodeState) (sats : UInt64) : Prop :=
  sats > round nodeState.maxReceivableSinglePaymentAmountMsat .down

instance (nodeState : NodeState) (sats : UInt64) : Decidable (NeedsChannel nodeState sats) :=
  inferInstanceAs (Decidable (_ > _))

/-- The proportional part of the fee for a new channel, in sats. -/
def proportionalFeeSat (p : OpeningFeeParams) (sats : UInt64) : ℕ :=
  sats.toNat * p.proportional.toNat % 2 ^ 64 / 1000000

/-- The proportional part is not above the minimum fee in whole sats. -/
def WithinMinimum (p : OpeningFeeParams) (sats : UInt64) : Prop :=
  proportionalFeeSat p sats * 1000 < p.minMsat.toNat + 1000

/-- A new channel costs nothing. -/
def Free (p : OpeningFeeParams) (sats : UInt64) : Prop :=
  proportionalFeeSat p sats = 0 ∧ p.minMsat = 0

/-- The LSP charges the same for two payments: neither of them takes a new channel; both do, and
the proportional parts are the same or not above the minimum; or one does, for nothing. (A
minimum fee at the end of the range of `u64` wraps to no fee at all.) -/
def SameLspFee (nodeState : NodeState) (p : OpeningFeeParams) (x y : UInt64) : Prop :=
  2 ^ 64 ≤ p.minMsat.toNat + 999 ∨
  (¬ NeedsChannel nodeState x ∧ ¬ NeedsChannel nodeState y) ∨
  (NeedsChannel nodeState x ∧ NeedsChannel nodeState y ∧
    (proportionalFeeSat p x = proportionalFeeSat p y ∨
      (WithinMinimum p x ∧ WithinMinimum p y))) ∨
  (NeedsChannel nodeState x ∧ ¬ NeedsChannel nodeState y ∧ Free p x) ∨
  (¬ NeedsChannel nodeState x ∧ NeedsChannel nodeState y ∧ Free p y)

/-- The LSP fee in sats: none without a new channel, otherwise the larger of the proportional
part and the minimum. -/
theorem toNat_lspFeeSats (nodeState : NodeState) (p : OpeningFeeParams) (x : UInt64) :
    (lspFeeSats nodeState p x).toNat =
      if NeedsChannel nodeState x ∧ p.minMsat.toNat + 999 < 2 ^ 64 then
        max (proportionalFeeSat p x) ((p.minMsat.toNat + 999) / 1000)
      else 0 := by
  rw [lspFeeSats, toNat_round_up]
  by_cases hneeds : NeedsChannel nodeState x
  · have hneeds' : x > round nodeState.maxReceivableSinglePaymentAmountMsat .down := hneeds
    rw [if_pos hneeds', toNat_channelOpeningFeeMsat]
    have hmin := p.minMsat.toNat_lt
    have hprop : x.toNat * p.proportional.toNat % 2 ^ 64 / 1000000 < 2 ^ 64 / 1000000 + 1 := by
      omega
    rw [proportionalFeeSat]
    by_cases hwrap : p.minMsat.toNat + 999 < 2 ^ 64
    · rw [if_pos ⟨hneeds, hwrap⟩]
      omega
    · rw [if_neg (fun h => hwrap h.2)]
      omega
  · have hneeds' : ¬ x > round nodeState.maxReceivableSinglePaymentAmountMsat .down := hneeds
    rw [if_neg hneeds', if_neg (fun h => hneeds h.1)]
    rfl

theorem sameLspFee_iff (nodeState : NodeState) (p : OpeningFeeParams) (x y : UInt64) :
    SameLspFee nodeState p x y ↔ lspFeeSats nodeState p x = lspFeeSats nodeState p y := by
  have hzero : p.minMsat = 0 ↔ p.minMsat.toNat = 0 := by
    rw [← UInt64.toNat_inj]
    rfl
  rw [← UInt64.toNat_inj, toNat_lspFeeSats, toNat_lspFeeSats, SameLspFee]
  unfold Free WithinMinimum
  rw [hzero]
  by_cases hwrap : p.minMsat.toNat + 999 < 2 ^ 64
  · have hnot : ¬ 2 ^ 64 ≤ p.minMsat.toNat + 999 := by omega
    by_cases hx : NeedsChannel nodeState x <;> by_cases hy : NeedsChannel nodeState y <;>
      simp only [hx, hy, hwrap, hnot, not_true_eq_false, not_false_eq_true, true_and, false_and,
        and_true, and_false, and_self, or_false, false_or, if_true, if_false] <;> omega
  · have hle : 2 ^ 64 ≤ p.minMsat.toNat + 999 := by omega
    rw [if_neg (fun h => hwrap h.2), if_neg (fun h => hwrap h.2)]
    exact iff_of_true (.inl hle) rfl

end Support

/-! ## The total of the fees -/

/-- The fee of a transaction, rounded up in msats, and an LSP fee in sats fit together in
`u64`. -/
def TotalFits (onchainFee lspFee : UInt64) : Prop :=
  ((asSats onchainFee).msats.toNat + 999) % 2 ^ 64 + 1000 * lspFee.toNat < 2 ^ 64

/-- The total is rounded through msats once more: it is the sum of the fees exactly if the fees
that are added up fit. -/
theorem totalFees_eq_iff (onchainFee : UInt64) {lspFee : UInt64}
    (hfits : lspFee.toNat * 1000 < 2 ^ 64) :
    (round (asSats (0 + onchainFee + lspFee)).msats .up).toNat
        = (round (asSats 0).msats .up).toNat + (round (asSats onchainFee).msats .up).toNat
          + lspFee.toNat ↔
      TotalFits onchainFee lspFee := by
  have hzero : (round (asSats 0).msats .up).toNat = 0 := rfl
  have hsum : (0 + onchainFee + lspFee).toNat = (onchainFee.toNat + lspFee.toNat) % 2 ^ 64 := by
    simp
  rw [hzero, TotalFits]
  -- the msats of the total are those of the transaction fee, rounded up, and of the LSP fee
  have hmsats : ((onchainFee.toNat + lspFee.toNat) % 2 ^ 64 * 1000 % 2 ^ 64 + 999) % 2 ^ 64
      = ((onchainFee.toNat * 1000 % 2 ^ 64 + 999) % 2 ^ 64 + 1000 * lspFee.toNat) % 2 ^ 64 := by
    omega
  simp only [toNat_round_up, toNat_msats, hsum]
  rw [hmsats]
  have hlt : (onchainFee.toNat * 1000 % 2 ^ 64 + 999) % 2 ^ 64 < 2 ^ 64 :=
    Nat.mod_lt _ (by decide)
  generalize (onchainFee.toNat * 1000 % 2 ^ 64 + 999) % 2 ^ 64 = m at hlt ⊢
  omega

/-! ## Quoted fees -/

/-- A transaction as the callers prepare it: they know the amount it sends and its fee in
sats. -/
def prepared (prepareTx : String → Result (UInt64 × UInt64 × UInt32)) (address : String) :
    Result (Sats × Sats × UInt32) := do
  let (sentSat, feeSat, satsPerVbyte) ← prepareTx address
  .ok (asSats sentSat, asSats feeSat, satsPerVbyte)

namespace Quote

variable {support : Support} {sdk : OnchainSdk}

/-- Fees are quoted from one state of the wallet. -/
instance {prepareOnchainTx : String → Result (Sats × Sats × UInt32)} :
    Subsingleton (Quote support sdk prepareOnchainTx) where
  allEq a b := by
    obtain ⟨params, node, info, sent, fee, rate, hparams, hnode, hswap, hprepared⟩ := a
    obtain ⟨params', node', info', sent', fee', rate', hparams', hnode', hswap', hprepared'⟩ := b
    obtain rfl : params = params' := by simpa [hparams] using hparams'
    obtain rfl : node = node' := by simpa [hnode] using hnode'
    obtain rfl : info = info' := hswap.symm.trans hswap'
    obtain ⟨rfl, rfl, rfl⟩ : sent = sent' ∧ fee = fee' ∧ rate = rate' := by
      simpa [hprepared] using hprepared'
    rfl

variable {prepareTx : String → Result (UInt64 × UInt64 × UInt32)}

/-- The fee of a prepared transaction is one in whole sats. -/
theorem onchainFee_eq (self : Quote support sdk (prepared prepareTx)) :
    self.onchainFee = asSats self.onchainFee.sats := by
  obtain ⟨⟨sentSat, feeSat, satsPerVbyte⟩, -, hok⟩ := bind_eq_ok.mp self.prepared_eq
  have hfee : asSats feeSat = self.onchainFee :=
    congrArg (fun tx => tx.2.1) (Except.ok.inj hok)
  rw [← hfee]
  rfl

/-- The LSP fee of any payment is in the range of `u64` in msats. -/
theorem lspFee_fits (self : Quote support sdk (prepared prepareTx)) (sats : UInt64) :
    (self.lspFee sats).toNat * 1000 < 2 ^ 64 := by
  rw [lspFee, Support.lspFeeSats, toNat_round_up]
  omega

/-- The LSP fee of the amount that is sent, as the swap itself calculates it. -/
def sentLspFee (self : Quote support sdk (prepared prepareTx)) :
    Result CalculateLspFeeResponseV2 :=
  (Swap.mk support).calculateLspFeeForAmount sdk self.sentAmount.sats

theorem sentLspFee_sats {self : Quote support sdk (prepared prepareTx)}
    {response : CalculateLspFeeResponseV2} (h : self.sentLspFee = .ok response) :
    response.lspFee.sats = self.lspFee self.sentAmount.sats := by
  obtain ⟨params, hparams, hfee⟩ := bind_eq_ok.mp h
  obtain ⟨nodeState, hnode, hsats, -⟩ := Support.calculateLspFeeForAmount_ok hfee
  obtain rfl : params = self.lspFeeParams := by
    simpa [Swap.getLspFeeParams, self.params_eq] using hparams.symm
  obtain rfl : nodeState = self.nodeState := by simpa [self.node_eq] using hnode.symm
  exact hsats

/-- The fees are those of the amount that is sent, for which `response` is the LSP fee. -/
structure FeesOfSent (quote : Quote support sdk (prepared prepareTx))
    (response : CalculateLspFeeResponseV2) (fees : OnchainResolvingFees) : Prop where
  channelOpeningFee : ∀ swapFees, fees.swapFees = some swapFees →
    swapFees.channelOpeningFee.sats = response.lspFee.sats
  totalFees : ∀ swapFees, fees.swapFees = some swapFees →
    swapFees.totalFees.sats.toNat = swapFees.swapFee.sats.toNat
      + swapFees.onchainFee.sats.toNat + swapFees.channelOpeningFee.sats.toNat
  unavailable : fees.swapFees = none →
    ¬ quote.Swappable ∨ quote.sentAmount.sats ≤ response.lspFee.sats

/-- The fee of `amount` stands for that of what is sent: the LSP charges the same for both, and
the total fits where a swap is offered; or neither fee leaves anything of what is sent. -/
def FeeStandsForSent (self : Quote support sdk (prepared prepareTx)) (amount : Msats) : Prop :=
  (Support.SameLspFee self.nodeState self.lspFeeParams amount.msats self.sentAmount.sats ∧
    (self.lspFee self.sentAmount.sats < self.sentAmount.sats →
      TotalFits self.onchainFee.sats (self.lspFee self.sentAmount.sats))) ∨
  (self.sentAmount.sats ≤ self.lspFee amount.msats ∧
    self.sentAmount.sats ≤ self.lspFee self.sentAmount.sats)

/-- Of an offered swap: its fees are those of the amount that is sent exactly if the LSP fees
are the same and the total fits. -/
theorem feesOfSent_iff_of_some {self : Quote support sdk (prepared prepareTx)}
    {response : CalculateLspFeeResponseV2} {fees : OnchainResolvingFees} {amount : UInt64}
    {swapFees : SwapToLightningFees} (hresponse : self.sentLspFee = .ok response)
    (hsome : fees.swapFees = some swapFees) (hfees : self.IsSwapFees amount swapFees) :
    self.FeesOfSent response fees ↔
      self.lspFee amount = self.lspFee self.sentAmount.sats ∧
        TotalFits self.onchainFee.sats (self.lspFee amount) := by
  have htotal : swapFees.totalFees.sats.toNat = swapFees.swapFee.sats.toNat
      + swapFees.onchainFee.sats.toNat + swapFees.channelOpeningFee.sats.toNat ↔
      TotalFits self.onchainFee.sats (self.lspFee amount) := by
    rw [hfees.totalFees, hfees.swapFee, hfees.onchainFee, self.onchainFee_eq,
      hfees.channelOpeningFee]
    exact totalFees_eq_iff self.onchainFee.sats (self.lspFee_fits amount)
  rw [← htotal, ← hfees.channelOpeningFee, ← sentLspFee_sats hresponse]
  constructor
  · intro h
    exact ⟨h.channelOpeningFee swapFees hsome, h.totalFees swapFees hsome⟩
  · rintro ⟨hopening, hsum⟩
    refine ⟨?_, ?_, fun hnone => absurd (hsome.symm.trans hnone) nofun⟩
    · intro swapFees' h
      obtain rfl := Option.some.inj (hsome.symm.trans h)
      exact hopening
    · intro swapFees' h
      obtain rfl := Option.some.inj (hsome.symm.trans h)
      exact hsum

end Quote

/-- **When the quoted fees are those of the amount that is swapped.** For a swap that takes what
is sent, they are exactly if the fee of the resolved msats, taken for sats, stands for the fee
of what is sent. -/
theorem quotedFees_iff {support : Support} {sdk : OnchainSdk} {amount : Msats}
    {prepareTx : String → Result (UInt64 × UInt64 × UInt32)} {fees : OnchainResolvingFees}
    {response : CalculateLspFeeResponseV2}
    (hfees : getOnchainResolvingFees support ⟨support⟩ sdk amount (prepared prepareTx)
      = .ok (some fees)) (quote : Quote support sdk (prepared prepareTx))
    (hresponse : quote.sentLspFee = .ok response) :
    quote.FeesOfSent response fees ↔ (quote.Swappable → quote.FeeStandsForSent amount) := by
  obtain ⟨quote', -, -, hcases⟩ := Quote.exists_of_ok hfees
  obtain rfl : quote' = quote := Subsingleton.elim _ _
  have hsame : Support.SameLspFee quote'.nodeState quote'.lspFeeParams amount.msats
      quote'.sentAmount.sats ↔
      quote'.lspFee amount.msats = quote'.lspFee quote'.sentAmount.sats :=
    Support.sameLspFee_iff _ _ _ _
  have hsats := Quote.sentLspFee_sats hresponse
  unfold Quote.FeeStandsForSent
  rw [hsame]
  rcases hcases with ⟨hnone, hrefused⟩ | ⟨⟨hswappable, hless⟩, swapFees, hsome, hswapFees⟩
  · -- no swap is offered: it must not be worth its fee
    constructor
    · intro h hswappable
      have hle := UInt64.not_lt.mp fun hless => hrefused ⟨hswappable, hless⟩
      rcases h.unavailable hnone with hnot | hle'
      · exact absurd hswappable hnot
      · exact .inr ⟨hle, hsats ▸ hle'⟩
    · intro h
      refine ⟨fun _ hsome => absurd (hnone.symm.trans hsome) nofun,
        fun _ hsome => absurd (hnone.symm.trans hsome) nofun, fun _ => ?_⟩
      by_cases hswappable : quote'.Swappable
      · right
        rw [hsats]
        rcases h hswappable with ⟨heq, -⟩ | ⟨-, hle⟩
        · rw [← heq]
          exact UInt64.not_lt.mp fun hless => hrefused ⟨hswappable, hless⟩
        · exact hle
      · exact .inl hswappable
  · -- a swap is offered: the fees are the same
    rw [Quote.feesOfSent_iff_of_some hresponse hsome hswapFees]
    constructor
    · rintro ⟨heq, htotal⟩ -
      exact .inl ⟨heq, fun _ => heq ▸ htotal⟩
    · intro h
      rcases h hswappable with ⟨heq, htotal⟩ | ⟨hle, -⟩
      · rw [heq] at hless ⊢
        exact ⟨rfl, htotal hless⟩
      · exact absurd hless (UInt64.not_lt.mpr hle)

/-- A wallet that knows the LSP fee params: 0.4 % and at least 2000 sats. -/
def quoteSupport : Support where
  userPreferences := ⟨"CHF", ⟨"Europe/Zurich", 60⟩⟩
  taskManager := ⟨[], none, some ⟨2000000, 4000, "2024-01-01", 4320, 432, "promise"⟩⟩
  dataStore := .new .migrated none

/-- A node that can receive the given msats without a new channel, and a swap for deposits of
10 000 to 4 000 000 sats. -/
def quoteSdk (maxReceivableMsat : UInt64) : OnchainSdk where
  nodeInfo := .ok ⟨"02aa", [], [], 0, 0, maxReceivableMsat, 0, 0⟩
  receiveOnchain := fun _ => .ok ⟨"bc1qswap", 10000, 4000000⟩
  recommendedFees := .ok ⟨3⟩
  prepareRefund := fun _ => .ok ⟨500⟩
  refund := fun _ => .error "unknown swap"
  prepareRedeemOnchainFunds := fun _ => .ok ⟨500⟩
  redeemOnchainFunds := fun _ => .ok ⟨[0xab]⟩
  errorText := fun _ => "error"
  receiveOnchainErrorText := fun _ => "error"
  redeemErrorFromSdkError := .generic

/-- A transaction that sends 49 500 sats for a fee of 500 sats. -/
def quoteTx (_ : String) : Result (UInt64 × UInt64 × UInt32) := .ok (49500, 500, 3)

/-- What the fees of these funds of 50 000 sats are quoted from. -/
def quoteOf (maxReceivableMsat : UInt64) :
    Quote quoteSupport (quoteSdk maxReceivableMsat) (prepared quoteTx) where
  lspFeeParams := ⟨2000000, 4000, "2024-01-01", 4320, 432, "promise"⟩
  nodeState := ⟨"02aa", [], [], 0, 0, maxReceivableMsat, 0, 0⟩
  swapInfo := some ⟨"bc1qswap", 10000, 4000000⟩
  sentAmount := asSats 49500
  onchainFee := asSats 500
  satsPerVbyte := 3
  params_eq := rfl
  node_eq := rfl
  swap_eq := rfl
  prepared_eq := rfl

/-- With 10 BTC of inbound capacity the msats of the funds are below it too. -/
theorem quotedFees_iff_inbound :
    (quoteOf 1000000000000).FeesOfSent
        ⟨⟨0, none⟩, ⟨2000000, 4000, "2024-01-01", 4320, 432, "promise"⟩⟩
        ⟨some ⟨⟨0, none⟩, ⟨500, none⟩, ⟨0, none⟩, ⟨500, none⟩,
          ⟨2000000, 4000, "2024-01-01", 4320, 432, "promise"⟩⟩, ⟨500, none⟩, 3⟩ ↔
      ((quoteOf 1000000000000).Swappable →
        (quoteOf 1000000000000).FeeStandsForSent ⟨50000000⟩) :=
  quotedFees_iff (by decide +kernel) (quoteOf 1000000000000) (by decide +kernel)

/-- With 100 000 sats of inbound capacity the swap of 49 500 sats takes no new channel and costs
nothing. Its 50 000 000 msats are taken for sats, and no swap is offered. -/
theorem free_swap_not_offered :
    ¬ ∀ (support : Support) (sdk : OnchainSdk) (amount : Msats)
      (prepareTx : String → Result (UInt64 × UInt64 × UInt32)) (fees : OnchainResolvingFees)
      (response : CalculateLspFeeResponseV2),
      getOnchainResolvingFees support ⟨support⟩ sdk amount (prepared prepareTx)
        = .ok (some fees) →
      ∀ quote : Quote support sdk (prepared prepareTx),
        quote.sentLspFee = .ok response → quote.FeesOfSent response fees := by
  intro h
  have hfees := h quoteSupport (quoteSdk 100000000) ⟨50000000⟩ quoteTx ⟨none, ⟨500, none⟩, 3⟩
    ⟨⟨0, none⟩, ⟨2000000, 4000, "2024-01-01", 4320, 432, "promise"⟩⟩ (by decide +kernel)
    (quoteOf 100000000) (by decide +kernel)
  rcases hfees.unavailable rfl with hnot | hle
  · exact hnot ⟨_, rfl, by decide, by decide⟩
  · exact absurd hle (by decide)

end LipaLightning
