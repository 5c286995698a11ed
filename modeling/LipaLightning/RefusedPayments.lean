import LipaLightning.DataStore.HistoricRates
import LipaLightning.LibraryAction

set_option autoImplicit false

/-! # Refused payments

Paying an invoice stores the payment info first and makes its checks afterwards
(`Bolt11::pay_open_amount` in `lightning/bolt11.rs`). The write replaces the row of a payment
with the same hash. So a payment that is refused, with nothing sent, still changes what is known
of an earlier payment, unless the write fails or that payment is known as a new one would be.
-/

namespace LipaLightning

/-- The SDK has refused the request and has not attempted a payment. -/
def SendPaymentError.isRefusal : SendPaymentError → Bool
  | .alreadyPaid | .invalidAmount _ | .invalidInvoice _ | .invoiceExpired _
  | .invalidNetwork _ => true
  | .generic _ | .paymentFailed _ | .paymentTimeout _ | .routeNotFound _ | .routeTooExpensive _
  | .serviceConnectivity _ => false

namespace Bolt11

/-- The request that is sent to pay an invoice. -/
def sendPaymentRequest (invoiceDetails : InvoiceDetails) (amountSat : UInt64) :
    SendPaymentRequest :=
  ⟨invoiceDetails.invoice, true, if amountSat = 0 then none else some (asSats amountSat).msats⟩

/-- A payment is attempted: the invoice is that of another node, and the SDK does not refuse the
request. -/
def Attempted (sdk : Sdk) (invoiceDetails : InvoiceDetails) (amountSat : UInt64) : Prop :=
  ∃ nodeState, sdk.nodeInfo = .ok nodeState ∧ nodeState.id ≠ invoiceDetails.payeePubKey ∧
    ∀ e, sdk.sendPayment (sendPaymentRequest invoiceDetails amountSat) = .error e →
      e.isRefusal = false

/-- The call returns an error, and no payment was attempted. -/
def Refused (support : Support) (sdk : Sdk) (env : Env) (invoiceDetails : InvoiceDetails)
    (amountSat : UInt64) : Prop :=
  succeeded (payOpenAmount support sdk env invoiceDetails amountSat).1 = false ∧
    ¬ Attempted sdk invoiceDetails amountSat

/-- The only effect of the call on the data store, whatever it returns. -/
theorem payOpenAmount_dataStore (support : Support) (sdk : Sdk) (env : Env)
    (invoiceDetails : InvoiceDetails) (amountSat : UInt64) :
    (payOpenAmount support sdk env invoiceDetails amountSat).2.dataStore
      = (support.storePaymentInfo env invoiceDetails.paymentHash none).dataStore := by
  unfold payOpenAmount
  cases sdk.nodeInfo with
  | error e => rfl
  | ok nodeState =>
      dsimp only
      split
      · rfl
      · cases sdk.sendPayment ⟨invoiceDetails.invoice, true,
          if amountSat = 0 then none else some (asSats amountSat).msats⟩ <;> rfl

end Bolt11

namespace DataStore

/-- The rate that a payment stored now reads back: the one its snapshot has already, or else the
one that is stored with it. -/
def storedRate (now : SystemTime) (db : Db) (rates : List ExchangeRate) (currency : String) :
    Option ExchangeRate :=
  (snapshotOf now rates).bind fun snapshotId =>
    (rateAt db.exchangeRatesHistory snapshotId currency).or (listedRate rates currency)

theorem paymentExchangeRateFromRow_eq (db : Db) (row : PaymentRow) :
    paymentExchangeRateFromRow db row
      = row.exchangeRatesHistorySnapshotId.bind fun snapshotId =>
          row.fiatCurrency.bind fun currency =>
            rateAt db.exchangeRatesHistory snapshotId currency := by
  unfold paymentExchangeRateFromRow historyRow
  cases row.exchangeRatesHistorySnapshotId with
  | none => rfl
  | some snapshotId => cases row.fiatCurrency <;> rfl

/-- What is read of a payment after it was stored again without an offer. -/
theorem retrievePaymentInfo_storePaymentInfo {self : DataStore} {env : Env} {hash : String}
    {userPreferences : UserPreferences} {rates : List ExchangeRate}
    (hcommits : commits env rates none = true) :
    (self.storePaymentInfo env hash userPreferences rates none none none).2.retrievePaymentInfo
        hash
      = some
        { userPreferences := some userPreferences
          exchangeRate := storedRate env.now self.conn rates userPreferences.fiatCurrency
          offer := (self.conn.offers.lookup hash).map offerFromRow
          personalNote := none
          receivedOn := none
          receivedLnurlComment := none } := by
  unfold retrievePaymentInfo
  rw [storePaymentInfo_conn, if_pos hcommits, lookup_recordPayment, if_pos rfl, Option.map_some,
    Option.some.injEq]
  unfold localPaymentDataFromRow
  rw [paymentExchangeRateFromRow_eq, LocalPaymentData.mk.injEq]
  refine ⟨rfl, ?_, rfl, rfl, rfl, rfl⟩
  unfold storedRate
  refine Option.bind_congr fun snapshotId hsnapshot => ?_
  show rateAt (recordSnapshot env.now self.conn.exchangeRatesHistory rates) snapshotId
    userPreferences.fiatCurrency = _
  rw [rateAt_recordSnapshot]
  exact if_pos hsnapshot

end DataStore

/-- The payment is known as a new one would be: with the current preferences and the rate that
would be stored for them, and without a note, a `received_on` or a comment. -/
structure KnownAsNew (support : Support) (now : SystemTime) (data : LocalPaymentData) : Prop where
  userPreferences : data.userPreferences = some support.userPreferences
  exchangeRate : data.exchangeRate = DataStore.storedRate now support.dataStore.conn
    support.getExchangeRates support.userPreferences.fiatCurrency
  personalNote : data.personalNote = none
  receivedOn : data.receivedOn = none
  receivedLnurlComment : data.receivedLnurlComment = none

/-- A payment that is stored again without an offer keeps its offer, and so reads as before
exactly if it is known as a new one. -/
theorem storePaymentInfo_reads_iff {support : Support} {env : Env} {hash : String}
    {data : LocalPaymentData}
    (hknown : support.dataStore.retrievePaymentInfo hash = some data)
    (hcommits : DataStore.commits env support.getExchangeRates none = true) :
    (support.storePaymentInfo env hash none).dataStore.retrievePaymentInfo hash = some data ↔
      KnownAsNew support env.now data := by
  have hoffer : data.offer
      = (support.dataStore.conn.offers.lookup hash).map DataStore.offerFromRow := by
    unfold DataStore.retrievePaymentInfo at hknown
    obtain ⟨row, hrow, rfl⟩ := Option.map_eq_some_iff.mp hknown
    have hkey : row.hash = hash := KeyedTable.lookup_key hrow
    rw [← hkey]
    rfl
  unfold Support.storePaymentInfo
  rw [DataStore.retrievePaymentInfo_storePaymentInfo hcommits, Option.some.injEq]
  constructor
  · rintro rfl
    exact ⟨rfl, rfl, rfl, rfl, rfl⟩
  · rintro ⟨hpreferences, hrate, hnote, hreceivedOn, hcomment⟩
    obtain ⟨userPreferences, exchangeRate, offer, personalNote, receivedOn, comment⟩ := data
    simp only at hpreferences hrate hoffer hnote hreceivedOn hcomment
    rw [hpreferences, hrate, hoffer, hnote, hreceivedOn, hcomment]

/-- What is known of a payment stays exactly if it is not stored again, or known as a new one. -/
theorem Bolt11.payOpenAmount_reads_iff {support : Support} {sdk : Sdk} {env : Env}
    {invoiceDetails : InvoiceDetails} {amountSat : UInt64} {data : LocalPaymentData}
    (hknown : support.dataStore.retrievePaymentInfo invoiceDetails.paymentHash = some data) :
    (payOpenAmount support sdk env invoiceDetails amountSat).2.dataStore.retrievePaymentInfo
        invoiceDetails.paymentHash
      = support.dataStore.retrievePaymentInfo invoiceDetails.paymentHash ↔
      DataStore.commits env support.getExchangeRates none = false ∨
        KnownAsNew support env.now data := by
  rw [payOpenAmount_dataStore, hknown]
  by_cases hcommits : DataStore.commits env support.getExchangeRates none = true
  · rw [storePaymentInfo_reads_iff hknown hcommits, hcommits]
    simp
  · -- the transaction is rolled back
    have hconn : (support.storePaymentInfo env invoiceDetails.paymentHash none).dataStore.conn
        = support.dataStore.conn := by
      unfold Support.storePaymentInfo
      rw [DataStore.storePaymentInfo_conn, if_neg hcommits]
    refine iff_of_true ?_ (.inl (by simpa using hcommits))
    rw [← hknown]
    unfold DataStore.retrievePaymentInfo
    rw [hconn]

/-- **When a refused payment leaves the history intact.** What is known of an earlier payment
with the hash of the invoice is the same after the call exactly if the transaction of the local
write is not committed, or the payment is known as a new one would be. -/
theorem refusedPayment_intact_iff (support : Support) (sdk : Sdk) (env : Env)
    (invoiceDetails : InvoiceDetails) (data : LocalPaymentData)
    (hknown : support.dataStore.retrievePaymentInfo invoiceDetails.paymentHash = some data) :
    (∀ amountSat : UInt64, Bolt11.Refused support sdk env invoiceDetails amountSat →
      ((Bolt11.payOpenAmount support sdk env invoiceDetails
          amountSat).2.dataStore.retrievePaymentInfo invoiceDetails.paymentHash
        = support.dataStore.retrievePaymentInfo invoiceDetails.paymentHash ↔
        DataStore.commits env support.getExchangeRates none = false ∨
          KnownAsNew support env.now data)) ∧
    (Bolt11.Refused support sdk env invoiceDetails 0 →
      ((Bolt11.pay support sdk env invoiceDetails).2.dataStore.retrievePaymentInfo
          invoiceDetails.paymentHash
        = support.dataStore.retrievePaymentInfo invoiceDetails.paymentHash ↔
        DataStore.commits env support.getExchangeRates none = false ∨
          KnownAsNew support env.now data)) :=
  ⟨fun _ _ => Bolt11.payOpenAmount_reads_iff hknown, fun _ => Bolt11.payOpenAmount_reads_iff hknown⟩

/-- A wallet that received a payment on its lightning address. -/
def receivedSupport : Support where
  userPreferences := ⟨"CHF", ⟨"Europe/Zurich", 60⟩⟩
  taskManager := ⟨[], none, none⟩
  dataStore := ((DataStore.new .migrated none).storePaymentInfo ⟨0, fun _ => false⟩ "f0"
    ⟨"CHF", ⟨"Europe/Zurich", 60⟩⟩ [] none (some "satoshi@lipa.swiss") none).2

/-- Its own node. -/
def payeeSdk : Sdk where
  nodeInfo := .ok ⟨"03bb", [], [], 0, 0, 0, 0, 0⟩
  receivePayment := fun _ => .error ""
  sendPayment := fun _ => .ok ()
  lnurlPay := fun _ => .error (.generic "")
  lnurlWithdraw := fun _ => .error (.generic "")

/-- The invoice that was paid. -/
def paidInvoice : InvoiceDetails := ⟨"lnbc", none, "", "f0", "03bb", 0, 0, 0⟩

theorem refused_payingToSelf (env : Env) :
    Bolt11.Refused receivedSupport payeeSdk env paidInvoice 0 := by
  refine ⟨rfl, ?_⟩
  rintro ⟨nodeState, hnode, hne, -⟩
  obtain rfl := Except.ok.inj hnode
  exact hne rfl

/-- The address that a payment was received on, before and after it is paid to oneself. -/
theorem refusedPayment_intact_iff_received :
    let env : Env := ⟨0, fun _ => false⟩
    let data : LocalPaymentData :=
      ⟨some ⟨"CHF", ⟨"Europe/Zurich", 60⟩⟩, none, none, none, some "satoshi@lipa.swiss", none⟩
    (Bolt11.pay receivedSupport payeeSdk env paidInvoice).2.dataStore.retrievePaymentInfo "f0"
      = receivedSupport.dataStore.retrievePaymentInfo "f0" ↔
      DataStore.commits env receivedSupport.getExchangeRates none = false ∨
        KnownAsNew receivedSupport env.now data := by
  intro env data
  exact (refusedPayment_intact_iff receivedSupport payeeSdk env paidInvoice data (by decide)).2
    (refused_payingToSelf env)

/-- A payment to oneself is refused, and the address the payment was received on is lost. -/
theorem paying_to_self_loses_receivedOn :
    ¬ ∀ (support : Support) (sdk : Sdk) (env : Env) (invoiceDetails : InvoiceDetails)
      (amountSat : UInt64),
      (support.dataStore.conn.payments.lookup invoiceDetails.paymentHash).isSome = true →
      Bolt11.Refused support sdk env invoiceDetails amountSat →
      (Bolt11.payOpenAmount support sdk env invoiceDetails
          amountSat).2.dataStore.retrievePaymentInfo invoiceDetails.paymentHash
        = support.dataStore.retrievePaymentInfo invoiceDetails.paymentHash := by
  intro h
  let env : Env := ⟨0, fun _ => false⟩
  have hsame := h receivedSupport payeeSdk env paidInvoice 0 (by decide)
    (refused_payingToSelf env)
  have hlost : ((Bolt11.payOpenAmount receivedSupport payeeSdk env paidInvoice
      0).2.dataStore.retrievePaymentInfo paidInvoice.paymentHash).bind (·.receivedOn) = none := by
    decide
  rw [hsame] at hlost
  exact absurd hlost (by decide)

end LipaLightning
