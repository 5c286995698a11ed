import LipaLightning.PaymentMetadata

set_option autoImplicit false

/-! # Stored offer errors

The error of an offer is stored as a code (`from_offer_error` in `data_store.rs`) and read back
from it (`to_offer_error`). A message of the backend that has no code of its own is stored as it
is. So a stored code never changes when it is read and stored again, and an error is read back as
it was stored unless it is a message that equals one of the codes.
-/

namespace LipaLightning

/-- The codes that stand for an error of their own. -/
def reservedCodes : List String :=
  ["no_route", "invoice_expired", "error", "threshold_exceeded", "order_inactive",
    "companies_unsupported", "country_unsupported", "other_risk_detected", "customer_requested",
    "account_not_matching", "payout_expired"]

/-- A message of the backend that equals the code of another error. -/
def PocketOfferError.IsReserved (e : PocketOfferError) : Prop :=
  ∃ msg ∈ reservedCodes, e = .temporaryFailure (.unknown msg)

/-! ## Codes -/

/-- A code that stands for no error of its own is a message. -/
theorem toOfferError_of_not_mem {c : String} (h : c ∉ reservedCodes) :
    toOfferError (some c) = some (.temporaryFailure (.unknown c)) := by
  simp only [reservedCodes, List.mem_cons, List.not_mem_nil, or_false, not_or] at h
  obtain ⟨h1, h2, h3, h4, h5, h6, h7, h8, h9, h10, h11⟩ := h
  unfold toOfferError
  rw [Option.map_some, if_neg h1, if_neg h2, if_neg h3, if_neg h4, if_neg h5, if_neg h6, if_neg h7,
    if_neg h8, if_neg h9, if_neg h10, if_neg h11]

/-- A code of its own is read as an error that is stored under it. -/
theorem fromOfferError_toOfferError_of_mem {c : String} (h : c ∈ reservedCodes) :
    fromOfferError (toOfferError (some c)) = some c := by
  simp only [reservedCodes, List.mem_cons, List.not_mem_nil, or_false] at h
  rcases h with rfl | rfl | rfl | rfl | rfl | rfl | rfl | rfl | rfl | rfl | rfl <;> rfl

/-- A stored code does not change when it is read and stored again. -/
theorem fromOfferError_toOfferError (c : String) :
    fromOfferError (toOfferError (some c)) = some c := by
  by_cases h : c ∈ reservedCodes
  · exact fromOfferError_toOfferError_of_mem h
  · rw [toOfferError_of_not_mem h]
    rfl

/-! ## Errors -/

/-- An error is read back as it was stored. -/
theorem toOfferError_fromOfferError {e : PocketOfferError} (h : ¬ e.IsReserved) :
    toOfferError (fromOfferError (some e)) = some e := by
  cases e with
  | temporaryFailure code =>
      cases code with
      | unknown msg =>
          have hmsg : msg ∉ reservedCodes := fun hmem => h ⟨msg, hmem, rfl⟩
          exact toOfferError_of_not_mem hmsg
      | noRoute => rfl
      | invoiceExpired => rfl
      | unexpected => rfl
  | permanentFailure code => cases code <;> rfl

theorem toOfferError_fromOfferError_option {error : Option PocketOfferError}
    (h : ∀ e ∈ error, ¬ e.IsReserved) : toOfferError (fromOfferError error) = error := by
  cases error with
  | none => rfl
  | some e => exact toOfferError_fromOfferError (h e rfl)

/-- Two errors that are read back are not stored under the same code. -/
theorem fromOfferError_injOn {e e' : PocketOfferError} (h : ¬ e.IsReserved) (h' : ¬ e'.IsReserved)
    (hcode : fromOfferError (some e) = fromOfferError (some e')) : e = e' := by
  have hread : some e = some e' := by
    rw [← toOfferError_fromOfferError h, hcode, toOfferError_fromOfferError h']
  exact Option.some.inj hread

/-! ## The error of a payment's offer -/

/-- Storing a payment with an offer stores the offer. -/
theorem storePaymentInfo_stores {self : DataStore} {env : Env} {hash : String}
    {userPreferences : UserPreferences} {rates : List ExchangeRate} {offer : Offer}
    {receivedOn comment : Option String}
    (hstored : succeeded (self.storePaymentInfo env hash userPreferences rates (some offer)
      receivedOn comment).1 = true) :
    let db := (self.storePaymentInfo env hash userPreferences rates (some offer) receivedOn
      comment).2.conn
    (db.payments.lookup hash).isSome ∧
      storedOffer hash db = some (DataStore.offerRow hash offer) := by
  rw [DataStore.storePaymentInfo_succeeded] at hstored
  dsimp only
  rw [DataStore.storePaymentInfo_conn, if_pos hstored]
  constructor
  · rw [DataStore.lookup_recordPayment, if_pos rfl]
    rfl
  · unfold storedOffer DataStore.recordPayment
    rw [DataStore.lookup_recordOffer, if_pos rfl]
    rfl

/-- What is retrieved of the offer after calls that supply no other offer for the payment. -/
theorem retrievePaymentInfo_offer {hash : String} {offer : Offer} {db : Db} {calls : List Call}
    {later : DataStore} (hpayment : (db.payments.lookup hash).isSome)
    (hoffer : storedOffer hash db = some (DataStore.offerRow hash offer))
    (hsupplied : ∀ call ∈ calls, suppliesOffer hash call.op = false)
    (hlater : later.conn = Runs.run Call.step db calls) :
    ∃ data, later.retrievePaymentInfo hash = some data ∧
      data.offer = some { offer with
        lightningPayoutFee := none, error := toOfferError (fromOfferError offer.error) } := by
  have hstored := isStored_run hash calls db hpayment
  have hkept := storedOffer_run hash calls db hsupplied
  rw [← hlater] at hstored hkept
  obtain ⟨row, hrow⟩ := Option.isSome_iff_exists.mp hstored
  refine ⟨DataStore.localPaymentDataFromRow later.conn row, ?_, ?_⟩
  · rw [DataStore.retrievePaymentInfo, hrow, Option.map_some]
  · have hkey : row.hash = hash := KeyedTable.lookup_key hrow
    unfold DataStore.localPaymentDataFromRow
    dsimp only
    rw [hkey]
    show (storedOffer hash later.conn).map DataStore.offerFromRow = _
    rw [hkept, hoffer]
    rfl

/-- **Stored offer errors do not drift.** Reading and storing a code does not change it, an error
that is no reserved message is read back as it was stored, no two such errors share a code, and a
payment is retrieved with the error its offer was stored with, whatever is stored in between
without another offer for it. -/
theorem offerErrors_do_not_drift :
    (∀ c, fromOfferError (toOfferError (some c)) = some c) ∧
    (∀ e : PocketOfferError, ¬ e.IsReserved → toOfferError (fromOfferError (some e)) = some e) ∧
    (∀ e e' : PocketOfferError, ¬ e.IsReserved → ¬ e'.IsReserved →
      fromOfferError (some e) = fromOfferError (some e') → e = e') ∧
    ∀ (self : DataStore) (env : Env) (hash : String) (userPreferences : UserPreferences)
      (rates : List ExchangeRate) (offer : Offer) (receivedOn comment : Option String)
      (calls : List Call) (later : DataStore),
      succeeded (self.storePaymentInfo env hash userPreferences rates (some offer) receivedOn
        comment).1 = true →
      (∀ e ∈ offer.error, ¬ e.IsReserved) →
      (∀ call ∈ calls, suppliesOffer hash call.op = false) →
      later.conn = Runs.run Call.step (self.storePaymentInfo env hash userPreferences rates
        (some offer) receivedOn comment).2.conn calls →
      ∃ data stored, later.retrievePaymentInfo hash = some data ∧ data.offer = some stored ∧
        stored.error = offer.error := by
  refine ⟨fromOfferError_toOfferError, fun e h => toOfferError_fromOfferError h,
    fun e e' h h' => fromOfferError_injOn h h', ?_⟩
  intro self env hash userPreferences rates offer receivedOn comment calls later hstored herror
    hsupplied hlater
  obtain ⟨hpayment, hoffer⟩ := storePaymentInfo_stores hstored
  obtain ⟨data, hdata, hread⟩ := retrievePaymentInfo_offer hpayment hoffer hsupplied hlater
  exact ⟨data, _, hdata, hread, toOfferError_fromOfferError_option herror⟩

/-- An offer with a message of the backend that has no code. -/
def limitedOffer : Offer where
  id := "offer"
  exchangeRate := ⟨"CHF", 4256, 0⟩
  topupValueMinorUnits := 1000
  topupValueSats := some 42560
  exchangeFeeMinorUnits := 15
  exchangeFeeRatePermyriad := 150
  lightningPayoutFee := none
  error := some (.temporaryFailure (.unknown "rate_limited"))

theorem offerErrors_do_not_drift_limited :
    ∃ data stored, (DataStore.storePaymentInfo (.new .migrated none) ⟨0, fun _ => false⟩ "f0"
        ⟨"CHF", ⟨"Europe/Zurich", 60⟩⟩ [] (some limitedOffer) none none).2.retrievePaymentInfo "f0"
        = some data ∧
      data.offer = some stored ∧
      stored.error = some (.temporaryFailure (.unknown "rate_limited")) := by
  have hunreserved : ∀ e ∈ limitedOffer.error, ¬ e.IsReserved := by
    rintro e he ⟨msg, hmsg, rfl⟩
    obtain rfl : "rate_limited" = msg := by simpa [limitedOffer] using he
    simp [reservedCodes] at hmsg
  exact offerErrors_do_not_drift.2.2.2 (.new .migrated none) ⟨0, fun _ => false⟩ "f0"
    ⟨"CHF", ⟨"Europe/Zurich", 60⟩⟩ [] limitedOffer none none [] _ (by decide +kernel) hunreserved
    (fun _ hcall => nomatch hcall) rfl

end LipaLightning
