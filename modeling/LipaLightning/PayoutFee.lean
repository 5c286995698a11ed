import LipaLightning.Activity.Activities
import LipaLightning.AmountRounding
import LipaLightning.FiatTopup

set_option autoImplicit false

/-! # The payout fee of an offer

The payout fee is what a withdrawal is short of the value of the topup. It is calculated for an
offer that is not collected yet (`FiatTopup::calculate_payout_fee`), and filled in again when
the collected offer is shown as an activity (`fill_payout_fee`). There the sats of the requested
amount are passed for msats.
-/

namespace LipaLightning

/-! ## The fee of an uncollected offer -/

/-- `crow::TopupInfo`, the fields the library reads; its rate is one in sats per unit. -/
structure TopupInfo where
  id : String
  status : OfferStatus
  amountSat : UInt64
  topupValueMinorUnits : UInt64
  exchangeFeeRatePermyriad : UInt16
  exchangeFeeMinorUnits : UInt64
  exchangeRate : ExchangeRate
  expiresAt : Option SystemTime
  lnurlw : Option String
  error : Option PocketOfferError
  deriving DecidableEq, Repr

def OfferInfo.from (topupInfo : TopupInfo) (currentRate : Option ExchangeRate) : OfferInfo where
  offer :=
    { id := topupInfo.id
      exchangeRate := topupInfo.exchangeRate
      topupValueMinorUnits := topupInfo.topupValueMinorUnits
      topupValueSats := some topupInfo.amountSat
      exchangeFeeMinorUnits := topupInfo.exchangeFeeMinorUnits
      exchangeFeeRatePermyriad := topupInfo.exchangeFeeRatePermyriad
      lightningPayoutFee := none
      error := topupInfo.error }
  amount := (asSats topupInfo.amountSat).toAmountDown currentRate
  lnurlw := topupInfo.lnurlw
  createdAt := topupInfo.exchangeRate.updatedAt
  expiresAt := topupInfo.expiresAt
  status := topupInfo.status

namespace FiatTopup

/-- The most that the LNURL-withdraw of an uncompleted offer gives, in msats. -/
def maxWithdrawableMsats (services : OfferServices) (offer : OfferInfo) : Result UInt64 :=
  match offer.lnurlw with
  | none => .error (.permanentFailure "Uncompleted offer didn't include an lnurlw")
  | some lnurlw =>
      match services.parse lnurlw with
      | .ok (.lnUrlWithdraw data) => .ok data.maxWithdrawable
      | .ok .other => .error (.permanentFailure "Invalid input type LNURLw in uncompleted offer")
      | .error err => .error (.permanentFailure
          ("Invalid LNURLw in uncompleted offer: " ++ err))

/-- The payout fee of an uncompleted offer. `offerText` is the text of an offer in an error. -/
def calculatePayoutFee (support : Support) (services : OfferServices)
    (offerText : OfferInfo → String) (offer : OfferInfo) : Result Amount := do
  ensure (offer.status ≠ .refunded ∧ offer.status ≠ .settled)
    (.invalidInput ("Provided offer is already completed: " ++ offerText offer))
  let maxWithdrawableMsats ← maxWithdrawableMsats services offer
  ensure (maxWithdrawableMsats ≤ offer.amount.toMsats)
    (.permanentFailure "LNURLw provides more")
  .ok ((asMsats (offer.amount.toMsats - maxWithdrawableMsats)).toAmountUp
    support.getExchangeRate)

end FiatTopup

/-- The LNURL-withdraw of a topup gives at most these msats. -/
def TopupInfo.Provides (topupInfo : TopupInfo) (services : OfferServices) (msats : UInt64) :
    Prop :=
  ∃ lnurlw data, topupInfo.lnurlw = some lnurlw ∧
    services.parse lnurlw = .ok (.lnUrlWithdraw data) ∧ data.maxWithdrawable = msats

namespace FiatTopup

variable {support : Support} {services : OfferServices} {offerText : OfferInfo → String}
  {topupInfo : TopupInfo} {rate : Option ExchangeRate} {fee : Amount} {w : UInt64}

/-- A fee that is calculated is what the LNURL-withdraw is short of the amount of the offer. -/
theorem calculatePayoutFee_ok (hprovides : topupInfo.Provides services w)
    (h : calculatePayoutFee support services offerText (OfferInfo.from topupInfo rate)
      = .ok fee) :
    w ≤ (OfferInfo.from topupInfo rate).amount.toMsats ∧
      fee.sats = round ((OfferInfo.from topupInfo rate).amount.toMsats - w) .up := by
  obtain ⟨lnurlw, data, hlnurlw, hparse, rfl⟩ := hprovides
  unfold calculatePayoutFee at h
  obtain ⟨_, -, h⟩ := bind_eq_ok.mp h
  obtain ⟨max, hmax, h⟩ := bind_eq_ok.mp h
  obtain ⟨_, hle, h⟩ := bind_eq_ok.mp h
  have hlnurlw' : (OfferInfo.from topupInfo rate).lnurlw = some lnurlw := hlnurlw
  simp only [maxWithdrawableMsats, hlnurlw', hparse] at hmax
  obtain rfl := Except.ok.inj hmax
  rw [ensure_eq_ok] at hle
  obtain rfl := Except.ok.inj h
  exact ⟨hle, rfl⟩

end FiatTopup

/-! ## The fee of a claimed offer -/

namespace Activities

variable {self : Activities} {payment : Payment} {details : LnPaymentDetails}
  {stored : LocalPaymentData} {offer claimed : Offer} {info : IncomingPaymentInfo}

/-- The offer of a claim is the stored one, with the payout fee that the requested amount leaves.
The requested amount is what was paid, rounded down to sats. -/
theorem activityFromBreezLnPayment_offerClaim (hdetails : payment.details = .ln details)
    (hstored : self.support.dataStore.retrievePaymentInfo details.paymentHash = some stored)
    (hoffer : stored.offer = some offer)
    (h : self.activityFromBreezLnPayment payment = .ok (.offerClaim info claimed)) :
    ∃ rate, claimed = fillPayoutFee offer
      (asMsats (round (payment.amountMsat + payment.feeMsat) .down)) rate := by
  unfold activityFromBreezLnPayment at h
  simp only [hdetails, hstored, Option.bind_some, hoffer] at h
  obtain ⟨info', hinfo, h⟩ := bind_eq_ok.mp h
  obtain ⟨rfl, rfl⟩ := Activity.offerClaim.inj (Except.ok.inj h)
  obtain ⟨paymentInfo, -, hok⟩ := bind_eq_ok.mp hinfo
  obtain rfl := Except.ok.inj hok
  exact ⟨_, rfl⟩

end Activities

/-! ## The two fees -/

/-- The fee of the claimed offer and the fee that was quoted for it are both what `w` msats are
short of `v` sats, rounded up to sats. -/
def PayoutFeesAgree (claimed : Offer) (quoted : Amount) (v w : UInt64) : Prop :=
  ∃ fee, claimed.lightningPayoutFee = some fee ∧ fee.sats = quoted.sats ∧
    quoted.sats.toNat = (1000 * v.toNat - w.toNat) ⌈/⌉ 1000

/-- What is left of an amount that has wrapped around is less than what is left of the value. -/
theorem wrapped_fee_lt {amount v w : ℕ} (hamount : amount + 2 ^ 64 ≤ 1000 * v)
    (hle : w ≤ amount) :
    (amount - w + 999) % 2 ^ 64 / 1000 < (1000 * v - w + 1000 - 1) / 1000 := by
  have hmod : (amount - w + 999) % 2 ^ 64 / 1000 ≤ (amount - w + 999) / 1000 :=
    Nat.div_le_div_right (Nat.mod_le _ _)
  omega

/-- A fee quoted for more sats than `u64` holds in msats is not what the withdrawal is short of
them: the amount of the offer has wrapped around. -/
theorem toNat_quotedFee_ne {v w : UInt64} (hbig : 2 ^ 64 / 1000 < v.toNat)
    (hle : w ≤ (asSats (round (asSats v).msats .down)).msats) :
    (round ((asSats (round (asSats v).msats .down)).msats - w) .up).toNat
      ≠ (1000 * v.toNat - w.toNat) ⌈/⌉ 1000 := by
  have hsub := UInt64.toNat_sub_of_le _ _ hle
  rw [UInt64.le_iff_toNat_le] at hle
  rw [toNat_msats, toNat_round_down, toNat_msats] at hsub hle
  rw [toNat_round_up, hsub, Nat.ceilDiv_eq_add_pred_div]
  have hdiv := Nat.div_mul_le_self (v.toNat * 1000 % 2 ^ 64) 1000
  have hmod : v.toNat * 1000 % 2 ^ 64 + 2 ^ 64 ≤ v.toNat * 1000 := by omega
  have hlt := Nat.lt_of_le_of_lt hdiv (Nat.mod_lt _ (by decide))
  rw [Nat.mod_eq_of_lt hlt] at hle ⊢
  have hamount : v.toNat * 1000 % 2 ^ 64 / 1000 * 1000 + 2 ^ 64 ≤ 1000 * v.toNat := by
    calc v.toNat * 1000 % 2 ^ 64 / 1000 * 1000 + 2 ^ 64
        ≤ v.toNat * 1000 % 2 ^ 64 + 2 ^ 64 := Nat.add_le_add_right hdiv _
      _ ≤ v.toNat * 1000 := hmod
      _ = 1000 * v.toNat := Nat.mul_comm _ _
  exact Nat.ne_of_lt (wrapped_fee_lt hamount hle)

/-- Within the range, the fee that is quoted is the right one and the same as that of the claim
exactly if no whole sat is withdrawn (and rounding up does not wrap). -/
theorem fees_eq_iff {v w : UInt64} (hfit : v.toNat ≤ 2 ^ 64 / 1000)
    (hle : w ≤ (asSats (round (asSats v).msats .down)).msats) :
    (round ((asSats v).msats - round w .down) .up).toNat
        = (round ((asSats (round (asSats v).msats .down)).msats - w) .up).toNat ∧
      (round ((asSats (round (asSats v).msats .down)).msats - w) .up).toNat
        = (1000 * v.toNat - w.toNat) ⌈/⌉ 1000 ↔
      FitsMsats v ∧ w.toNat < 1000 := by
  have hmsats : (asSats v).msats.toNat = v.toNat * 1000 := by
    rw [toNat_msats, Nat.mod_eq_of_lt (by omega)]
  have hdown : round (asSats v).msats .down = v := by
    apply UInt64.toNat_inj.mp
    rw [toNat_round_down, hmsats, Nat.mul_div_cancel _ (by omega)]
  rw [hdown] at hle ⊢
  have hsub := UInt64.toNat_sub_of_le _ _ hle
  rw [UInt64.le_iff_toNat_le] at hle
  have hclaim : round w .down ≤ (asSats v).msats := by
    rw [UInt64.le_iff_toNat_le, toNat_round_down]
    omega
  have hsub' := UInt64.toNat_sub_of_le _ _ hclaim
  rw [toNat_round_down] at hsub'
  rw [toNat_round_up, toNat_round_up, hsub, hsub', hmsats, Nat.ceilDiv_eq_add_pred_div, FitsMsats]
  rw [hmsats] at hle
  by_cases hlimit : v.toNat < 2 ^ 64 / 1000
  · -- no sum wraps
    rw [Nat.mod_eq_of_lt (by omega), Nat.mod_eq_of_lt (by omega)]
    omega
  · -- at the limit, rounding up wraps
    refine iff_of_false ?_ (fun h => hlimit h.1)
    rintro ⟨heq, hceil⟩
    have hv : v.toNat = 18446744073709551 := by omega
    rw [hceil, hv] at heq
    rw [hv] at hle
    by_cases hwrap : w.toNat / 1000 < 384
    · have hmod : (18446744073709551 * 1000 - w.toNat / 1000 + 999) % 2 ^ 64
          = 383 - w.toNat / 1000 := by omega
      rw [hmod] at heq
      omega
    · rw [Nat.mod_eq_of_lt (by omega)] at heq
      omega

/-- **When the payout fees agree.** The fee of a claimed offer is the one that was quoted for it
exactly if less than a sat was withdrawn: one that does not round to a whole sat is `0` in sats
and in msats. -/
theorem payoutFees_agree_iff {support : Support} {services : OfferServices}
    {offerText : OfferInfo → String} {topupInfo : TopupInfo} {rate : Option ExchangeRate}
    {quoted : Amount} {w : UInt64} {self : Activities} {payment : Payment}
    {details : LnPaymentDetails} {stored : LocalPaymentData} {offer claimed : Offer}
    {info : IncomingPaymentInfo} (hprovides : topupInfo.Provides services w)
    (hquoted : FiatTopup.calculatePayoutFee support services offerText
      (OfferInfo.from topupInfo rate) = .ok quoted)
    (hdetails : payment.details = .ln details)
    (hpaid : payment.amountMsat.toNat + payment.feeMsat.toNat = w.toNat)
    (hstored : self.support.dataStore.retrievePaymentInfo details.paymentHash = some stored)
    (hoffer : stored.offer = some offer) (hvalue : offer.topupValueSats = some topupInfo.amountSat)
    (hclaimed : self.activityFromBreezLnPayment payment = .ok (.offerClaim info claimed)) :
    PayoutFeesAgree claimed quoted topupInfo.amountSat w ↔
      FitsMsats topupInfo.amountSat ∧ w.toNat < 1000 := by
  obtain ⟨hle, hsats⟩ := FiatTopup.calculatePayoutFee_ok hprovides hquoted
  obtain ⟨rate', rfl⟩ :=
    Activities.activityFromBreezLnPayment_offerClaim hdetails hstored hoffer hclaimed
  have hsum : payment.amountMsat + payment.feeMsat = w := by
    apply UInt64.toNat_inj.mp
    rw [UInt64.toNat_add, hpaid, Nat.mod_eq_of_lt w.toNat_lt]
  have hfee : (fillPayoutFee offer (asMsats (round w .down)) rate').lightningPayoutFee
      = some ((asMsats ((asSats topupInfo.amountSat).msats - round w .down)).toAmountUp rate') := by
    rw [fillPayoutFee, hvalue]
    rfl
  have hagree : PayoutFeesAgree (fillPayoutFee offer (asMsats (round w .down)) rate') quoted
      topupInfo.amountSat w ↔
      (round ((asSats topupInfo.amountSat).msats - round w .down) .up).toNat = quoted.sats.toNat ∧
        quoted.sats.toNat = (1000 * topupInfo.amountSat.toNat - w.toNat) ⌈/⌉ 1000 := by
    rw [PayoutFeesAgree, hfee, UInt64.toNat_inj]
    constructor
    · rintro ⟨fee, hsome, heq, hceil⟩
      obtain rfl := Option.some.inj hsome
      exact ⟨heq, hceil⟩
    · rintro ⟨heq, hceil⟩
      exact ⟨_, rfl, heq, hceil⟩
  rw [hsum, hagree, hsats]
  by_cases hfit : topupInfo.amountSat.toNat ≤ 2 ^ 64 / 1000
  · exact fees_eq_iff hfit hle
  · refine iff_of_false (fun h => toNat_quotedFee_ne (by omega) hle h.2) ?_
    rintro ⟨hfits, -⟩
    unfold FitsMsats at hfits
    omega

/-- A topup of 20 000 sats. -/
def payoutTopup : TopupInfo where
  id := "topup"
  status := .ready
  amountSat := 20000
  topupValueMinorUnits := 1000
  exchangeFeeRatePermyriad := 150
  exchangeFeeMinorUnits := 15
  exchangeRate := ⟨"CHF", 2000, 0⟩
  expiresAt := none
  lnurlw := some "lnurlw"
  error := none

/-- Its LNURL-withdraw gives `w` msats. -/
def payoutServices (w : UInt64) : OfferServices where
  parse := fun _ => .ok (.lnUrlWithdraw ⟨"https://pocket", "k1", "", 1000, w⟩)
  hideTopup := fun _ => .ok ()

def payoutInvoice (w : UInt64) : LNInvoice :=
  ⟨"lnbc1", "02aa", "f0", none, some w, 1700000000, 86400⟩

/-- What is stored when the offer of the topup is collected. -/
def payoutDataStore : DataStore :=
  ((DataStore.new .migrated none).storePaymentInfo ⟨1700000000000000000, fun _ => false⟩ "f0"
    ⟨"CHF", ⟨"Europe/Zurich", 60⟩⟩ [] (some (OfferInfo.from payoutTopup none).offer) none none).2

/-- A wallet that has collected the offer. -/
def payoutActivities (w : UInt64) : Activities where
  support :=
    { userPreferences := ⟨"CHF", ⟨"Europe/Zurich", 60⟩⟩
      taskManager := ⟨[], none, none⟩
      dataStore := payoutDataStore }
  parsers := ⟨fun _ => .ok (payoutInvoice w), fun _ => .ok []⟩
  lipaLightningDomain := "lipa.swiss"

theorem payoutActivities_f0 (w : UInt64) :
    (payoutActivities w).support.dataStore.retrievePaymentInfo "f0" =
      some ⟨some ⟨"CHF", ⟨"Europe/Zurich", 60⟩⟩, none, some (OfferInfo.from payoutTopup none).offer,
        none, none, none⟩ := by
  simp only [payoutActivities]
  decide +kernel

/-- The payment it was collected with. -/
def payoutPayment (w : UInt64) : Payment where
  paymentType := .received
  paymentTime := 1700000060
  amountMsat := w
  feeMsat := 0
  status := .complete
  details := .ln ⟨"f0", "ab", "lnbc1", none, none, none, none, none, none⟩

def payoutInfo (w : UInt64) : IncomingPaymentInfo where
  paymentInfo :=
    { paymentState := .succeeded
      hash := "f0"
      amount := (asMsats w).toAmountDown none
      invoiceDetails := InvoiceDetails.fromLnInvoice (payoutInvoice w) none
      createdAt := withTimezone 1700000000000000000 ⟨"Europe/Zurich", 60⟩
      description := ""
      preimage := some "ab"
      personalNote := none }
  requestedAmount := (asMsats w).toAmountDown none
  lspFees := (asMsats 0).toAmountUp none
  receivedOn := none
  receivedLnurlComment := none

/-- The offer as it is shown, with a fee of the given sats. -/
def claimedOffer (feeSat : UInt64) : Offer :=
  { (OfferInfo.from payoutTopup none).offer with lightningPayoutFee := some ⟨feeSat, none⟩ }

/-- All but 999 msats of the topup are kept as a fee. -/
theorem payoutFees_agree_iff_msats :
    PayoutFeesAgree (claimedOffer 20000) ⟨20000, none⟩ 20000 999 ↔
      FitsMsats 20000 ∧ (999 : UInt64).toNat < 1000 :=
  @payoutFees_agree_iff (payoutActivities 999).support (payoutServices 999) (fun _ => "")
    payoutTopup none ⟨20000, none⟩ 999 (payoutActivities 999) (payoutPayment 999)
    ⟨"f0", "ab", "lnbc1", none, none, none, none, none, none⟩ _
    (OfferInfo.from payoutTopup none).offer (claimedOffer 20000) (payoutInfo 999)
    ⟨"lnurlw", _, rfl, rfl, rfl⟩ (by decide +kernel) rfl (by decide)
    (payoutActivities_f0 999) rfl rfl (by decide +kernel)

/-- A topup of 20 000 sats is collected for a fee of 100 sats, and is shown with one of 19 981
sats. -/
theorem claimed_fee_not_quoted :
    ¬ ∀ (support : Support) (services : OfferServices) (offerText : OfferInfo → String)
      (topupInfo : TopupInfo) (rate : Option ExchangeRate) (quoted : Amount) (w : UInt64)
      (self : Activities) (payment : Payment) (details : LnPaymentDetails)
      (stored : LocalPaymentData) (offer claimed : Offer) (info : IncomingPaymentInfo),
      topupInfo.Provides services w →
      FiatTopup.calculatePayoutFee support services offerText (OfferInfo.from topupInfo rate)
        = .ok quoted →
      payment.details = .ln details →
      payment.amountMsat.toNat + payment.feeMsat.toNat = w.toNat →
      self.support.dataStore.retrievePaymentInfo details.paymentHash = some stored →
      stored.offer = some offer → offer.topupValueSats = some topupInfo.amountSat →
      self.activityFromBreezLnPayment payment = .ok (.offerClaim info claimed) →
      PayoutFeesAgree claimed quoted topupInfo.amountSat w := by
  intro h
  obtain ⟨fee, hfee, hsats, -⟩ := h (payoutActivities 19900000).support (payoutServices 19900000)
    (fun _ => "") payoutTopup none ⟨100, none⟩ 19900000 (payoutActivities 19900000)
    (payoutPayment 19900000) ⟨"f0", "ab", "lnbc1", none, none, none, none, none, none⟩ _
    (OfferInfo.from payoutTopup none).offer (claimedOffer 19981) (payoutInfo 19900000)
    ⟨"lnurlw", _, rfl, rfl, rfl⟩ (by decide +kernel) rfl (by decide)
    (payoutActivities_f0 19900000) rfl rfl (by decide +kernel)
  obtain rfl := Option.some.inj hfee
  exact absurd hsats (by decide)

end LipaLightning
