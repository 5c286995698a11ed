import LipaLightning.Lightning

set_option autoImplicit false

/-! # The affordability of a payment

`Lightning::determine_payment_affordability` (`lightning/mod.rs`) compares the funds of the node
with an amount and with the largest routing fee that is accepted for it. That fee is kept as a
`MaxRoutingFeeMode`: relative to the amount, or absolute where the relative one is below the fee
that is always accepted. The verdict is that of exact numbers unless a sum of msats wraps.
-/

namespace LipaLightning

/-! ## The fee limit -/

structure Permyriad where
  permyriad : UInt16
  deriving DecidableEq

def Permyriad.of (self : Permyriad) (sats : Sats) : Msats :=
  ⟨sats.sats * self.permyriad.toUInt64 / 10⟩

structure MaxRoutingFeeConfig where
  /-- Routing fees will be limited to relative per myriad provided here. -/
  maxRoutingFeePermyriad : UInt16
  /-- When the fee is lower or equal to this value, the relative limit is ignored. -/
  maxRoutingFeeExemptFeeSats : UInt64
  deriving DecidableEq

inductive MaxRoutingFeeMode where
  | relative (maxFeePermyriad : UInt16)
  | absolute (maxFeeAmount : Amount)
  deriving DecidableEq

/-- The mode of an amount. There is none where the conversion of the exempt fee divides by a rate
of zero, which panics. -/
def getPaymentMaxRoutingFeeMode (config : MaxRoutingFeeConfig) (amountSat : UInt64)
    (exchangeRate : Option ExchangeRate) : Option MaxRoutingFeeMode :=
  let maxFeePermyriad : Permyriad := ⟨config.maxRoutingFeePermyriad⟩
  let relativeFee := maxFeePermyriad.of (asSats amountSat)
  if relativeFee.msats < (asSats config.maxRoutingFeeExemptFeeSats).msats then
    if exchangeRate.any fun rate => rate.rate = 0 then none
    else some (.absolute ((asSats config.maxRoutingFeeExemptFeeSats).toAmountUp exchangeRate))
  else some (.relative maxFeePermyriad.permyriad)

/-- The largest fee that the mode allows for an amount. -/
def MaxRoutingFeeMode.maxFeeMsats (amount : Sats) : MaxRoutingFeeMode → UInt64
  | .relative maxFeePermyriad => (Permyriad.of ⟨maxFeePermyriad⟩ amount).msats
  | .absolute maxFeeAmount => maxFeeAmount.toMsats

/-! ## The verdict -/

inductive PaymentAffordability where
  | notEnoughFunds
  | unaffordableFees
  | affordable
  deriving DecidableEq, Repr

/-- `Lightning`, with the part of the node's configuration that limits routing fees. -/
structure Lightning where
  support : Support
  maxRoutingFeeConfig : MaxRoutingFeeConfig

namespace Lightning

def determineMaxRoutingFeeMode (self : Lightning) (amountSat : UInt64) :
    Option MaxRoutingFeeMode :=
  getPaymentMaxRoutingFeeMode self.maxRoutingFeeConfig amountSat self.support.getExchangeRate

/-- Checks if the given amount could be spent on a payment. -/
def determinePaymentAffordability (self : Lightning) (sdk : Sdk) (amountSat : UInt64) :
    Option (Result PaymentAffordability) := do
  let amount := asSats amountSat
  let routingFeeMode ← self.determineMaxRoutingFeeMode amountSat
  let maxFeeMsats := routingFeeMode.maxFeeMsats amount
  match sdk.nodeInfo with
  | .error _ => some (.error (.runtimeError .nodeUnavailable "Failed to read node info"))
  | .ok nodeState =>
      if amount.msats > nodeState.maxPayableMsat then some (.ok .notEnoughFunds)
      else if amount.msats + maxFeeMsats > nodeState.maxPayableMsat then
        some (.ok .unaffordableFees)
      else some (.ok .affordable)

end Lightning

/-! ## Exact affordability -/

namespace PaymentAffordability

/-- The verdict on exact numbers. -/
def verdict (amount maxFee funds : ℕ) : PaymentAffordability :=
  if funds < amount then .notEnoughFunds
  else if amount + maxFee ≤ funds then .affordable
  else .unaffordableFees

/-- The better verdicts have the higher ranks. -/
def rank : PaymentAffordability → ℕ
  | .notEnoughFunds => 0
  | .unaffordableFees => 1
  | .affordable => 2

theorem verdict_eq_notEnoughFunds_iff (amount maxFee funds : ℕ) :
    verdict amount maxFee funds = .notEnoughFunds ↔ funds < amount := by
  unfold verdict
  split
  · simpa
  · next h => split <;> simpa using h

theorem verdict_eq_affordable_iff (amount maxFee funds : ℕ) :
    verdict amount maxFee funds = .affordable ↔ amount + maxFee ≤ funds := by
  unfold verdict
  split
  · next h =>
    have : ¬ amount + maxFee ≤ funds := by omega
    simpa
  · next h =>
    split
    · simpa
    · next hfee => simpa using hfee

/-- The verdict gets no better if more is asked for, or if there are less funds. -/
theorem rank_verdict_le {amount amount' maxFee maxFee' funds funds' : ℕ}
    (hamount : amount ≤ amount') (hfee : maxFee ≤ maxFee') (hfunds : funds' ≤ funds) :
    (verdict amount' maxFee' funds').rank ≤ (verdict amount maxFee funds).rank := by
  by_cases hworst : funds' < amount'
  · rw [(verdict_eq_notEnoughFunds_iff ..).mpr hworst]
    exact Nat.zero_le _
  · by_cases hbest : amount + maxFee ≤ funds
    · rw [(verdict_eq_affordable_iff ..).mpr hbest]
      cases verdict amount' maxFee' funds' <;> decide
    · -- neither is better than that the fees are unaffordable
      have heq : verdict amount' maxFee' funds' = .unaffordableFees := by
        rw [verdict, if_neg hworst, if_neg (by omega)]
      have heq' : verdict amount maxFee funds = .unaffordableFees := by
        rw [verdict, if_neg (by omega), if_neg hbest]
      rw [heq, heq']

end PaymentAffordability

namespace MaxRoutingFeeConfig

/-- The fee limit of an amount, in msats: the relative fee, or the exempt fee if that is more. -/
def feeLimit (config : MaxRoutingFeeConfig) (amountSat : UInt64) : ℕ :=
  max (amountSat.toNat * config.maxRoutingFeePermyriad.toNat / 10)
    (config.maxRoutingFeeExemptFeeSats.toNat * 1000)

theorem feeLimit_mono (config : MaxRoutingFeeConfig) {a b : UInt64} (h : a ≤ b) :
    config.feeLimit a ≤ config.feeLimit b := by
  have hle : a.toNat ≤ b.toNat := UInt64.le_iff_toNat_le.mp h
  exact max_le_max (Nat.div_le_div_right (Nat.mul_le_mul_right _ hle)) le_rfl

/-- No product leaves the range of `u64`. -/
structure ProductsFit (config : MaxRoutingFeeConfig) (amountSat : UInt64) : Prop where
  amount : amountSat.toNat * 1000 < 2 ^ 64
  relative : amountSat.toNat * config.maxRoutingFeePermyriad.toNat < 2 ^ 64
  exempt : config.maxRoutingFeeExemptFeeSats.toNat * 1000 < 2 ^ 64

/-- The exempt fee is the limit of the amount. -/
def IsExempt (config : MaxRoutingFeeConfig) (amountSat : UInt64) : Prop :=
  amountSat.toNat * config.maxRoutingFeePermyriad.toNat / 10
    < config.maxRoutingFeeExemptFeeSats.toNat * 1000

/-- The exempt fee can be converted to an amount where it is the limit: it can be rounded up, and
the rate is not zero. -/
def LimitConverts (config : MaxRoutingFeeConfig) (amountSat : UInt64)
    (exchangeRate : Option ExchangeRate) : Prop :=
  config.IsExempt amountSat →
    (∀ rate ∈ exchangeRate, rate.rate ≠ 0) ∧
      config.maxRoutingFeeExemptFeeSats.toNat * 1000 + 999 < 2 ^ 64

/-- The sum of the amount and its fee limit does not wrap where it is looked at. -/
def SumFits (config : MaxRoutingFeeConfig) (amountSat maxPayableMsat : UInt64) : Prop :=
  amountSat.toNat * 1000 ≤ maxPayableMsat.toNat →
    amountSat.toNat * 1000 + config.feeLimit amountSat < 2 ^ 64

end MaxRoutingFeeConfig

/-! ## The limit of a mode -/

section

variable {config : MaxRoutingFeeConfig} {amountSat : UInt64} {exchangeRate : Option ExchangeRate}

theorem toNat_relativeFee (hproducts : config.ProductsFit amountSat) :
    (Permyriad.of ⟨config.maxRoutingFeePermyriad⟩ (asSats amountSat)).msats.toNat
      = amountSat.toNat * config.maxRoutingFeePermyriad.toNat / 10 := by
  have hten : (10 : UInt64).toNat = 10 := rfl
  unfold Permyriad.of asSats Sats.new
  rw [UInt64.toNat_div, UInt64.toNat_mul, UInt16.toNat_toUInt64, hten,
    Nat.mod_eq_of_lt hproducts.relative]

/-- The comparison of the two fees is exact. -/
theorem relativeFee_lt_iff (hproducts : config.ProductsFit amountSat) :
    (Permyriad.of ⟨config.maxRoutingFeePermyriad⟩ (asSats amountSat)).msats
        < (asSats config.maxRoutingFeeExemptFeeSats).msats ↔ config.IsExempt amountSat := by
  rw [UInt64.lt_iff_toNat_lt, toNat_relativeFee hproducts, toNat_msats,
    Nat.mod_eq_of_lt hproducts.exempt]
  rfl

theorem getPaymentMaxRoutingFeeMode_relative (hproducts : config.ProductsFit amountSat)
    (hexempt : ¬ config.IsExempt amountSat) :
    getPaymentMaxRoutingFeeMode config amountSat exchangeRate
      = some (.relative config.maxRoutingFeePermyriad) := by
  unfold getPaymentMaxRoutingFeeMode
  exact if_neg (mt (relativeFee_lt_iff hproducts).mp hexempt)

theorem getPaymentMaxRoutingFeeMode_exempt (hproducts : config.ProductsFit amountSat)
    (hexempt : config.IsExempt amountSat) :
    getPaymentMaxRoutingFeeMode config amountSat exchangeRate
      = if ∀ rate ∈ exchangeRate, rate.rate ≠ 0 then
          some (.absolute ((asSats config.maxRoutingFeeExemptFeeSats).toAmountUp exchangeRate))
        else none := by
  unfold getPaymentMaxRoutingFeeMode
  dsimp only
  rw [if_pos ((relativeFee_lt_iff hproducts).mpr hexempt)]
  cases exchangeRate with
  | none => rfl
  | some rate => by_cases hrate : rate.rate = 0 <;> simp [hrate]

/-- Whole sats are kept exactly if they can be rounded up: what they wrap to is nothing. -/
theorem roundedUp_eq_iff {sats : ℕ} (hpos : 0 < sats) (hfit : sats * 1000 < 2 ^ 64) :
    (sats * 1000 + 999) % 2 ^ 64 / 1000 * 1000 % 2 ^ 64 = sats * 1000 ↔
      sats * 1000 + 999 < 2 ^ 64 := by
  by_cases hup : sats * 1000 + 999 < 2 ^ 64
  · have hdiv : (sats * 1000 + 999) / 1000 = sats := by omega
    rw [Nat.mod_eq_of_lt hup, hdiv, Nat.mod_eq_of_lt hfit]
    exact iff_of_true rfl hup
  · have hlt : sats * 1000 + 999 - 2 ^ 64 < 1000 := by omega
    rw [add_mod_of_wraps hfit (by decide) hup, Nat.div_eq_of_lt hlt, Nat.zero_mul, Nat.zero_mod]
    exact iff_of_false (Nat.mul_pos hpos (by decide)).ne hup

theorem toNat_maxFeeMsats_absolute_iff (hproducts : config.ProductsFit amountSat)
    (hexempt : config.IsExempt amountSat) :
    ((MaxRoutingFeeMode.absolute ((asSats config.maxRoutingFeeExemptFeeSats).toAmountUp
        exchangeRate)).maxFeeMsats (asSats amountSat)).toNat = config.feeLimit amountSat ↔
      config.maxRoutingFeeExemptFeeSats.toNat * 1000 + 999 < 2 ^ 64 := by
  have hlimit : config.feeLimit amountSat = config.maxRoutingFeeExemptFeeSats.toNat * 1000 :=
    max_eq_right (le_of_lt hexempt)
  have hpos : 0 < config.maxRoutingFeeExemptFeeSats.toNat * 1000 :=
    (Nat.zero_le _).trans_lt hexempt
  rw [← roundedUp_eq_iff (Nat.pos_of_mul_pos_right hpos) hproducts.exempt, hlimit]
  unfold MaxRoutingFeeMode.maxFeeMsats Amount.toMsats
  dsimp only
  rw [Sats.toAmountUp_sats, toNat_msats, toNat_round_up, toNat_msats,
    Nat.mod_eq_of_lt hproducts.exempt]

/-- The mode implies the fee limit exactly if the exempt fee converts. -/
theorem limit_exact_iff (hproducts : config.ProductsFit amountSat) :
    (∃ mode, getPaymentMaxRoutingFeeMode config amountSat exchangeRate = some mode ∧
        (mode.maxFeeMsats (asSats amountSat)).toNat = config.feeLimit amountSat) ↔
      config.LimitConverts amountSat exchangeRate := by
  unfold MaxRoutingFeeConfig.LimitConverts
  by_cases hexempt : config.IsExempt amountSat
  · rw [getPaymentMaxRoutingFeeMode_exempt hproducts hexempt, forall_prop_of_true hexempt]
    by_cases hrate : ∀ rate ∈ exchangeRate, rate.rate ≠ 0
    · rw [if_pos hrate, ← toNat_maxFeeMsats_absolute_iff hproducts hexempt, and_iff_right hrate]
      constructor
      · rintro ⟨mode, hmode, hfee⟩
        obtain rfl := Option.some.inj hmode
        exact hfee
      · intro hfee
        exact ⟨_, rfl, hfee⟩
    · rw [if_neg hrate]
      exact iff_of_false (fun ⟨_, hmode, _⟩ => nomatch hmode) (fun h => hrate h.1)
  · rw [getPaymentMaxRoutingFeeMode_relative hproducts hexempt]
    refine iff_of_true ⟨_, rfl, ?_⟩ (fun h => absurd h hexempt)
    have hlimit : config.feeLimit amountSat
        = amountSat.toNat * config.maxRoutingFeePermyriad.toNat / 10 :=
      max_eq_left (not_lt.mp hexempt)
    rw [hlimit]
    exact toNat_relativeFee hproducts

end

/-! ## The verdict of the code -/

/-- A sum that wraps is at most the funds, so that it is taken for affordable. -/
theorem compared_eq_verdict_iff {amountMsat maxFeeMsat maxPayableMsat : UInt64} :
    (if amountMsat > maxPayableMsat then PaymentAffordability.notEnoughFunds
        else if amountMsat + maxFeeMsat > maxPayableMsat then .unaffordableFees
        else .affordable)
      = .verdict amountMsat.toNat maxFeeMsat.toNat maxPayableMsat.toNat ↔
      (amountMsat.toNat ≤ maxPayableMsat.toNat →
        amountMsat.toNat + maxFeeMsat.toNat < 2 ^ 64) := by
  have hfunds := maxPayableMsat.toNat_lt
  have hfee := maxFeeMsat.toNat_lt
  unfold PaymentAffordability.verdict
  simp only [gt_iff_lt, UInt64.lt_iff_toNat_lt, UInt64.toNat_add]
  by_cases hworst : maxPayableMsat.toNat < amountMsat.toNat
  · rw [if_pos hworst, if_pos hworst]
    exact iff_of_true rfl fun hle => absurd hworst (not_lt.mpr hle)
  · rw [if_neg hworst, if_neg hworst, forall_prop_of_true (not_lt.mp hworst)]
    by_cases hsum : amountMsat.toNat + maxFeeMsat.toNat < 2 ^ 64
    · rw [Nat.mod_eq_of_lt hsum]
      refine iff_of_true ?_ hsum
      by_cases hbest : amountMsat.toNat + maxFeeMsat.toNat ≤ maxPayableMsat.toNat
      · rw [if_neg (not_lt.mpr hbest), if_pos hbest]
      · rw [if_pos (not_le.mp hbest), if_neg hbest]
    · have hmod := add_mod_of_wraps amountMsat.toNat_lt hfee hsum
      have hwrapped : ¬ maxPayableMsat.toNat
          < amountMsat.toNat + maxFeeMsat.toNat - 2 ^ 64 := by omega
      have hexact : ¬ amountMsat.toNat + maxFeeMsat.toNat ≤ maxPayableMsat.toNat := by omega
      rw [hmod, if_neg hwrapped, if_neg hexact]
      exact iff_of_false (fun h => nomatch h) hsum

namespace Lightning

variable {self : Lightning} {sdk : Sdk} {nodeState : NodeState} {amountSat : UInt64}

theorem determinePaymentAffordability_eq {mode : MaxRoutingFeeMode}
    (hnode : sdk.nodeInfo = .ok nodeState)
    (hmode : self.determineMaxRoutingFeeMode amountSat = some mode) :
    self.determinePaymentAffordability sdk amountSat = some (.ok
      (if (asSats amountSat).msats > nodeState.maxPayableMsat then .notEnoughFunds
        else if (asSats amountSat).msats + mode.maxFeeMsats (asSats amountSat)
          > nodeState.maxPayableMsat then .unaffordableFees
        else .affordable)) := by
  unfold determinePaymentAffordability
  rw [hmode]
  show (match sdk.nodeInfo with | .error _ => _ | .ok nodeState => _) = _
  rw [hnode]
  dsimp only
  split
  · rfl
  · split <;> rfl

/-- The mode implies the fee limit, and the verdict is the one on exact numbers. -/
structure IsExact (lightning : Lightning) (sdk : Sdk) (amountSat maxPayableMsat : UInt64) :
    Prop where
  limit : ∃ mode, lightning.determineMaxRoutingFeeMode amountSat = some mode ∧
    (mode.maxFeeMsats (asSats amountSat)).toNat = lightning.maxRoutingFeeConfig.feeLimit amountSat
  verdict : lightning.determinePaymentAffordability sdk amountSat
    = some (.ok (.verdict (amountSat.toNat * 1000)
        (lightning.maxRoutingFeeConfig.feeLimit amountSat) maxPayableMsat.toNat))

/-- The exempt fee converts, and the sum does not wrap. -/
structure SumsFit (lightning : Lightning) (amountSat maxPayableMsat : UInt64) : Prop where
  limit : lightning.maxRoutingFeeConfig.LimitConverts amountSat lightning.support.getExchangeRate
  sum : lightning.maxRoutingFeeConfig.SumFits amountSat maxPayableMsat

theorem isExact_iff (hnode : sdk.nodeInfo = .ok nodeState)
    (hproducts : self.maxRoutingFeeConfig.ProductsFit amountSat) :
    self.IsExact sdk amountSat nodeState.maxPayableMsat ↔
      self.SumsFit amountSat nodeState.maxPayableMsat := by
  have hamount : (asSats amountSat).msats.toNat = amountSat.toNat * 1000 := by
    rw [toNat_msats, Nat.mod_eq_of_lt hproducts.amount]
  -- with an exact limit, the verdict is exact if the sum fits
  have hverdict : ∀ mode, self.determineMaxRoutingFeeMode amountSat = some mode →
      (mode.maxFeeMsats (asSats amountSat)).toNat
        = self.maxRoutingFeeConfig.feeLimit amountSat →
      (self.determinePaymentAffordability sdk amountSat
        = some (.ok (.verdict (amountSat.toNat * 1000)
            (self.maxRoutingFeeConfig.feeLimit amountSat) nodeState.maxPayableMsat.toNat)) ↔
        self.maxRoutingFeeConfig.SumFits amountSat nodeState.maxPayableMsat) := by
    intro mode hmode hfee
    rw [determinePaymentAffordability_eq hnode hmode, Option.some.injEq, Except.ok.injEq,
      ← hfee, ← hamount, compared_eq_verdict_iff, MaxRoutingFeeConfig.SumFits, hamount, hfee]
  constructor
  · intro h
    obtain ⟨mode, hmode, hfee⟩ := h.limit
    exact ⟨(limit_exact_iff hproducts).mp h.limit, (hverdict mode hmode hfee).mp h.verdict⟩
  · intro h
    have hlimit := (limit_exact_iff hproducts).mpr h.limit
    obtain ⟨mode, hmode, hfee⟩ := hlimit
    exact ⟨⟨mode, hmode, hfee⟩, (hverdict mode hmode hfee).mpr h.sum⟩

/-- **The affordability of a payment is exact** exactly if no sum wraps and the exempt fee can be
converted where it is the limit. Then it gets no better for more sats and no worse for more
funds, under the same limits of the fees. -/
theorem determinePaymentAffordability_exact (self self' : Lightning) (sdk sdk' : Sdk)
    (nodeState nodeState' : NodeState) (amountSat amountSat' : UInt64)
    (hnode : sdk.nodeInfo = .ok nodeState) (hnode' : sdk'.nodeInfo = .ok nodeState')
    (hconfig : self'.maxRoutingFeeConfig = self.maxRoutingFeeConfig)
    (hproducts : self.maxRoutingFeeConfig.ProductsFit amountSat)
    (hproducts' : self'.maxRoutingFeeConfig.ProductsFit amountSat') :
    (self.IsExact sdk amountSat nodeState.maxPayableMsat ↔
      self.SumsFit amountSat nodeState.maxPayableMsat) ∧
    (self.SumsFit amountSat nodeState.maxPayableMsat →
      self'.SumsFit amountSat' nodeState'.maxPayableMsat →
      amountSat ≤ amountSat' → nodeState'.maxPayableMsat ≤ nodeState.maxPayableMsat →
      ∃ affordability affordability',
        self.determinePaymentAffordability sdk amountSat = some (.ok affordability) ∧
        self'.determinePaymentAffordability sdk' amountSat' = some (.ok affordability') ∧
        affordability'.rank ≤ affordability.rank) := by
  refine ⟨isExact_iff hnode hproducts, ?_⟩
  intro hfits hfits' hamount hfunds
  refine ⟨_, _, ((isExact_iff hnode hproducts).mpr hfits).verdict,
    ((isExact_iff hnode' hproducts').mpr hfits').verdict, ?_⟩
  rw [hconfig]
  apply PaymentAffordability.rank_verdict_le
  · exact Nat.mul_le_mul_right 1000 (UInt64.le_iff_toNat_le.mp hamount)
  · exact self.maxRoutingFeeConfig.feeLimit_mono hamount
  · exact UInt64.le_iff_toNat_le.mp hfunds

/-- A new wallet with limits of the routing fees, and no exchange rate. -/
def limitedLightning (config : MaxRoutingFeeConfig) : Lightning where
  support := ⟨⟨"CHF", ⟨"Europe/Zurich", 60⟩⟩, ⟨[], none, none⟩, .new .migrated none⟩
  maxRoutingFeeConfig := config

/-- The state of a node that can pay so much. -/
def payingNode (maxPayableMsat : UInt64) : NodeState := ⟨"02aa", [], [], 0, 0, 0, 0, maxPayableMsat⟩

def payingSdk (maxPayableMsat : UInt64) : Sdk where
  nodeInfo := .ok (payingNode maxPayableMsat)
  receivePayment _ := .error "offline"
  sendPayment _ := .error (.paymentFailed "peer is offline")
  lnurlPay _ := .error (.serviceConnectivity "offline")
  lnurlWithdraw _ := .error (.serviceConnectivity "offline")

theorem determinePaymentAffordability_exact_hundred :
    ∃ affordability affordability',
      (limitedLightning ⟨150, 21⟩).determinePaymentAffordability (payingSdk 121000) 100
        = some (.ok affordability) ∧
      (limitedLightning ⟨150, 21⟩).determinePaymentAffordability (payingSdk 120500) 101
        = some (.ok affordability') ∧
      affordability'.rank ≤ affordability.rank := by
  have hrate : ∀ rate ∈ (limitedLightning ⟨150, 21⟩).support.getExchangeRate, rate.rate ≠ 0 := nofun
  have hfits : (limitedLightning ⟨150, 21⟩).SumsFit 100 121000 :=
    ⟨fun _ => ⟨hrate, by decide⟩, fun _ => by decide⟩
  have hfits' : (limitedLightning ⟨150, 21⟩).SumsFit 101 120500 :=
    ⟨fun _ => ⟨hrate, by decide⟩, fun _ => by decide⟩
  exact (determinePaymentAffordability_exact (limitedLightning ⟨150, 21⟩)
    (limitedLightning ⟨150, 21⟩) (payingSdk 121000) (payingSdk 120500) (payingNode 121000)
    (payingNode 120500) 100 101 rfl rfl rfl ⟨by decide, by decide, by decide⟩
    ⟨by decide, by decide, by decide⟩).2 hfits hfits' (by decide) (by decide)

/-- With a limit of ten per cent, an amount close to the largest one is taken for affordable. -/
theorem wrapped_sum_affordable :
    ¬ ∀ (lightning : Lightning) (sdk : Sdk) (nodeState : NodeState) (amountSat : UInt64),
      sdk.nodeInfo = .ok nodeState → lightning.maxRoutingFeeConfig.ProductsFit amountSat →
      lightning.IsExact sdk amountSat nodeState.maxPayableMsat := by
  intro h
  have hproducts : MaxRoutingFeeConfig.ProductsFit ⟨1000, 0⟩ 18000000000000000 :=
    ⟨by decide, by decide, by decide⟩
  have hexact := h (limitedLightning ⟨1000, 0⟩) (payingSdk 18446744073709551615)
    (payingNode 18446744073709551615) 18000000000000000 rfl hproducts
  have hfits := (isExact_iff rfl hproducts).mp hexact
  exact absurd (hfits.sum (by decide)) (by decide)

end Lightning

end LipaLightning
