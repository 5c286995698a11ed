import LipaLightning.Basic.CheckedArith
import LipaLightning.DisplayedLimits

set_option autoImplicit false

/-! # The faults of converting amounts

The conversion of an amount adds, multiplies and divides without a check (`amount.rs`). Here the
same code is run with checked operations, for an invoice (`invoice_details.rs`) and for the two
LNURL requests (`lightning/lnurl.rs`). It computes what the wrapping code computes unless it
faults, and the amounts and rates at which it faults are those that are not `Convertible`:
nothing that is decoded excludes them.
-/

namespace LipaLightning

open CheckedArith

namespace Checked

def round (msat : UInt64) : Rounding → Checked UInt64
  | .up => do
      let sum ← checkedAdd msat 999
      checkedDiv sum 1000
  | .down => checkedDiv msat 1000

def fiatValue (rounding : Rounding) (msats : UInt64) (rate : ExchangeRate) :
    Checked FiatValue := do
  let product ← checkedMul msats 100
  let quotient ← checkedDiv product rate.rate.toUInt64
  let minorUnits ← round quotient rounding
  .ok
    { minorUnits
      currencyCode := rate.currencyCode
      rate := rate.rate
      convertedAt := rate.updatedAt }

def msatsToAmount (rounding : Rounding) (msats : UInt64) (rate : Option ExchangeRate) :
    Checked Amount := do
  let sats ← round msats rounding
  let fiat ← rate.mapM (fiatValue rounding msats)
  .ok { sats, fiat }

def fromLnInvoice (lnInvoice : LNInvoice) (exchangeRate : Option ExchangeRate) :
    Checked InvoiceDetails := do
  let amount ← lnInvoice.amountMsat.mapM fun a => msatsToAmount .down a exchangeRate
  let expiryTimestamp ← checkedAdd lnInvoice.timestamp lnInvoice.expiry
  .ok
    { invoice := lnInvoice.bolt11
      amount
      description := lnInvoice.description.getD ""
      paymentHash := lnInvoice.paymentHash
      payeePubKey := lnInvoice.payeePubkey
      creationTimestamp := unixTimestampToSystemTime lnInvoice.timestamp
      expiryInterval := lnInvoice.expiry.toNat * 1000000000
      expiryTimestamp := unixTimestampToSystemTime expiryTimestamp }

def fromLnurlPayRequestData (parsers : Parsers) (requestData : LnUrlPayRequestData)
    (exchangeRate : Option ExchangeRate) : Checked (Except DecodeDataError LnUrlPayDetails) :=
  andThen ((parseMetadata parsers requestData.metadataStr).mapError .lnUrlError)
    fun (shortDescription, longDescription) => do
      let minSendable ← msatsToAmount .up requestData.minSendable exchangeRate
      let maxSendable ← msatsToAmount .up requestData.maxSendable exchangeRate
      .ok (.ok
        { domain := requestData.domain
          shortDescription
          longDescription
          minSendable
          maxSendable
          maxCommentLength := requestData.commentAllowed
          requestData })

def fromLnurlWithdrawRequestData (requestData : LnUrlWithdrawRequestData)
    (exchangeRate : Option ExchangeRate) : Checked LnUrlWithdrawDetails := do
  let minWithdrawable ← msatsToAmount .up requestData.minWithdrawable exchangeRate
  let maxWithdrawable ← msatsToAmount .up requestData.maxWithdrawable exchangeRate
  .ok { minWithdrawable, maxWithdrawable, requestData }

end Checked

/-! ## The amounts that are converted -/

/-- Rounding the number does not leave the range of `u64`. -/
def RoundFits : Rounding → ℕ → Prop
  | .up, n => n + 999 < 2 ^ 64
  | .down, _ => True

/-- The amount can be rounded, and if there is a rate, it is not zero and a hundred times the
amount is a `u64` whose quotient by the rate can be rounded. -/
def Convertible (rounding : Rounding) (msats : UInt64) (rate : Option ExchangeRate) : Prop :=
  RoundFits rounding msats.toNat ∧
    ∀ r ∈ rate, msats.toNat * 100 < 2 ^ 64 ∧ 0 < r.rate.toNat ∧
      RoundFits rounding (msats.toNat * 100 / r.rate.toNat)

namespace Checked

theorem computes_round (msat : UInt64) (rounding : Rounding) :
    Computes (round msat rounding) (LipaLightning.round msat rounding)
      (RoundFits rounding msat.toNat) := by
  have hdiv (n : UInt64) : Computes (checkedDiv n 1000) (n / 1000) True :=
    (Computes.div n 1000).congr (iff_of_true (by decide) trivial)
  cases rounding with
  | up =>
      have h999 : (999 : UInt64).toNat = 999 := rfl
      have hadd := Computes.add msat 999
      rw [h999] at hadd
      have hround := hadd.bind (f := fun sum => checkedDiv sum 1000) fun _ => hdiv (msat + 999)
      rw [and_true] at hround
      exact hround
  | down => exact hdiv msat

theorem computes_fiatValue (rounding : Rounding) (msats : UInt64) (rate : ExchangeRate) :
    Computes (fiatValue rounding msats rate)
      { minorUnits := LipaLightning.round (msats * 100 / rate.rate.toUInt64) rounding
        currencyCode := rate.currencyCode
        rate := rate.rate
        convertedAt := rate.updatedAt }
      (msats.toNat * 100 < 2 ^ 64 ∧ 0 < rate.rate.toNat ∧
        RoundFits rounding (msats.toNat * 100 / rate.rate.toNat)) := by
  have hrate : rate.rate.toUInt64 ≠ 0 ↔ 0 < rate.rate.toNat := by
    rw [Ne, ← UInt64.toNat_inj, UInt32.toNat_toUInt64, Nat.pos_iff_ne_zero]
    rfl
  refine (Computes.mul msats 100).bind fun hfit => ?_
  have hquotient := toNat_quotient (m := ⟨msats⟩) rate hfit
  refine ((Computes.div (msats * 100) rate.rate.toUInt64).congr hrate).bind fun _ => ?_
  rw [← hquotient]
  exact (computes_round _ rounding).map _

theorem computes_msatsToAmount (rounding : Rounding) (msats : UInt64)
    (rate : Option ExchangeRate) :
    Computes (msatsToAmount rounding msats rate) (LipaLightning.msatsToAmount rounding msats rate)
      (Convertible rounding msats rate) := by
  refine (computes_round msats rounding).bind fun _ => ?_
  exact (Computes.option rate (computes_fiatValue rounding msats)).map _

/-- The details of an invoice. -/
theorem computes_fromLnInvoice (lnInvoice : LNInvoice) (exchangeRate : Option ExchangeRate) :
    Computes (fromLnInvoice lnInvoice exchangeRate)
      (InvoiceDetails.fromLnInvoice lnInvoice exchangeRate)
      ((∀ msats ∈ lnInvoice.amountMsat, Convertible .down msats exchangeRate) ∧
        lnInvoice.timestamp.toNat + lnInvoice.expiry.toNat < 2 ^ 64) := by
  have hamount := Computes.option lnInvoice.amountMsat
    fun msats => computes_msatsToAmount .down msats exchangeRate
  refine hamount.bind fun _ => ?_
  exact (Computes.add lnInvoice.timestamp lnInvoice.expiry).map _

/-- The details of an LNURL-pay. -/
theorem computes_fromLnurlPayRequestData (parsers : Parsers) (requestData : LnUrlPayRequestData)
    (exchangeRate : Option ExchangeRate) :
    Computes (fromLnurlPayRequestData parsers requestData exchangeRate)
      (LnUrlPayDetails.fromLnurlPayRequestData parsers requestData exchangeRate)
      (succeeded (parseMetadata parsers requestData.metadataStr) = true →
        Convertible .up requestData.minSendable exchangeRate ∧
          Convertible .up requestData.maxSendable exchangeRate) := by
  have hcomputes : Computes (fromLnurlPayRequestData parsers requestData exchangeRate)
      (LnUrlPayDetails.fromLnurlPayRequestData parsers requestData exchangeRate) _ :=
    Computes.andThen fun descriptions _ =>
      (computes_msatsToAmount .up requestData.minSendable exchangeRate).bind fun _ =>
        (computes_msatsToAmount .up requestData.maxSendable exchangeRate).map _
  refine hcomputes.congr ?_
  simp only [mapError_eq_ok, succeeded_iff, forall_exists_index]

/-- The details of an LNURL-withdraw. -/
theorem computes_fromLnurlWithdrawRequestData (requestData : LnUrlWithdrawRequestData)
    (exchangeRate : Option ExchangeRate) :
    Computes (fromLnurlWithdrawRequestData requestData exchangeRate)
      (LnUrlWithdrawDetails.fromLnurlWithdrawRequestData requestData exchangeRate)
      (Convertible .up requestData.minWithdrawable exchangeRate ∧
        Convertible .up requestData.maxWithdrawable exchangeRate) := by
  refine (computes_msatsToAmount .up requestData.minWithdrawable exchangeRate).bind fun _ => ?_
  exact (computes_msatsToAmount .up requestData.maxWithdrawable exchangeRate).map _

end Checked

/-- **When an amount is converted without a fault.** Building the details of an invoice, of an
LNURL-pay and of an LNURL-withdraw stays within `u64` and divides by no zero exactly if each of
their amounts is convertible at the rate, and the expiry time of the invoice fits. -/
theorem amountConversion_faultless_iff (parsers : Parsers) (lnInvoice : LNInvoice)
    (payData : LnUrlPayRequestData) (withdrawData : LnUrlWithdrawRequestData)
    (exchangeRate : Option ExchangeRate) :
    (Faultless (Checked.fromLnInvoice lnInvoice exchangeRate) ↔
      (∀ msats ∈ lnInvoice.amountMsat, Convertible .down msats exchangeRate) ∧
        lnInvoice.timestamp.toNat + lnInvoice.expiry.toNat < 2 ^ 64) ∧
    (Faultless (Checked.fromLnurlPayRequestData parsers payData exchangeRate) ↔
      (succeeded (parseMetadata parsers payData.metadataStr) = true →
        Convertible .up payData.minSendable exchangeRate ∧
          Convertible .up payData.maxSendable exchangeRate)) ∧
    (Faultless (Checked.fromLnurlWithdrawRequestData withdrawData exchangeRate) ↔
      Convertible .up withdrawData.minWithdrawable exchangeRate ∧
        Convertible .up withdrawData.maxWithdrawable exchangeRate) :=
  ⟨(Checked.computes_fromLnInvoice lnInvoice exchangeRate).faultless_iff,
    (Checked.computes_fromLnurlPayRequestData parsers payData exchangeRate).faultless_iff,
    (Checked.computes_fromLnurlWithdrawRequestData withdrawData exchangeRate).faultless_iff⟩

/-- An invoice of two million bitcoins faults at every rate. -/
theorem large_invoice_overflows :
    ¬ ∀ (parsers : Parsers) (lnInvoice : LNInvoice) (payData : LnUrlPayRequestData)
      (withdrawData : LnUrlWithdrawRequestData) (exchangeRate : Option ExchangeRate),
      Faultless (Checked.fromLnInvoice lnInvoice exchangeRate) ∧
        Faultless (Checked.fromLnurlPayRequestData parsers payData exchangeRate) ∧
        Faultless (Checked.fromLnurlWithdrawRequestData withdrawData exchangeRate) := by
  intro h
  let lnInvoice : LNInvoice :=
    { bolt11 := "lnbc2000000", payeePubkey := "02ab", paymentHash := "ab", description := none
      amountMsat := some 200000000000000000, timestamp := 1700000000, expiry := 3600 }
  have hfaultless := (h ⟨fun _ => .error "", fun _ => .error ""⟩ lnInvoice
    ⟨"https://a.b", 1000, 5000, "[]", 0, "a.b"⟩ ⟨"https://a.b", "k1", "", 1000, 5000⟩
    (some ⟨"EUR", 3000, 0⟩)).1
  have hfault : Checked.fromLnInvoice lnInvoice (some ⟨"EUR", 3000, 0⟩) = .error .overflow := by
    decide
  obtain ⟨details, hdetails⟩ := hfaultless
  rw [hfault] at hdetails
  exact nomatch hdetails

end LipaLightning
