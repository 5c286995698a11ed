import LipaLightning.Activity.Activities
import LipaLightning.PaymentMetadata

set_option autoImplicit false

/-! # What a collection records

Once the SDK has accepted the withdrawal of an offer the payment is on its way, and the steps
that follow make it known as the claim of that offer (`FiatTopup::request_collection` in
`fiat_topup.rs`). Each of them can end the call. `collection_recorded_iff` says for which
outcomes of the steps the payment is linked to the offer and its invoice is stored in the end.
-/

namespace LipaLightning

/-! ## The records -/

/-- The offers table links the hash of a stored payment to the offer. -/
def LinkedTo (db : Db) (hash : String) (offer : Offer) : Prop :=
  (db.payments.lookup hash).isSome = true ∧
    (db.offers.lookup hash).map OfferRow.pocketId = some offer.id

/-- The table of created invoices contains the hash. -/
def ContainsInvoice (db : Db) (hash : String) : Prop :=
  ∃ row ∈ db.createdInvoices, row.hash = integerAffinity hash

/-- The collection of the offer is recorded. -/
structure CollectionRecorded (db : Db) (hash : String) (offer : Offer) : Prop where
  linked : LinkedTo db hash offer
  invoice : ContainsInvoice db hash

/-- A payment that is linked to an offer is shown as a claim of it. -/
theorem LinkedTo.shown {activities : Activities} {payment : Payment}
    {details : LnPaymentDetails} {offer : Offer} {a : Activity}
    (hlinked : LinkedTo activities.support.dataStore.conn details.paymentHash offer)
    (hdetails : payment.details = .ln details)
    (ha : activities.activityFromBreezLnPayment payment = .ok a) :
    ∃ info claimed, a = .offerClaim info claimed ∧ claimed.id = offer.id := by
  obtain ⟨hpayment, hoffer⟩ := hlinked
  obtain ⟨row, hrow⟩ := Option.isSome_iff_exists.mp hpayment
  obtain ⟨offerRow, hofferRow, hid⟩ := Option.map_eq_some_iff.mp hoffer
  have hkey : row.hash = details.paymentHash := KeyedTable.lookup_key hrow
  have hstored : (activities.support.dataStore.retrievePaymentInfo details.paymentHash).bind
      LocalPaymentData.offer = some (DataStore.offerFromRow offerRow) := by
    unfold DataStore.retrievePaymentInfo
    rw [hrow, Option.map_some, Option.bind_some]
    unfold DataStore.localPaymentDataFromRow
    rw [hkey, hofferRow]
    rfl
  unfold Activities.activityFromBreezLnPayment at ha
  simp only [hdetails, hstored] at ha
  obtain ⟨info, -, ha⟩ := bind_eq_ok.mp ha
  exact ⟨info, _, (Except.ok.inj ha).symm, hid⟩

/-! ## What each call records -/

theorem storeCall_step (support : Support) (env : Env) (db : Db) (hash : String)
    (offer : Option Offer) :
    (support.storeCall env hash offer).step db
      = if DataStore.commits env support.getExchangeRates offer then
          DataStore.recordPayment env.now db hash support.userPreferences
            support.getExchangeRates offer none none
        else db :=
  DataStore.storePaymentInfo_conn ..

/-- Storing the payment info links the payment if it is committed, and unlinks none. -/
theorem linkedTo_storeCall (support : Support) (env : Env) (db : Db) (hash : String)
    (offer : Offer) :
    LinkedTo ((support.storeCall env hash (some offer)).step db) hash offer ↔
      DataStore.commits env support.getExchangeRates (some offer) = true ∨
        LinkedTo db hash offer := by
  rw [storeCall_step]
  by_cases hcommits : DataStore.commits env support.getExchangeRates (some offer) = true
  · rw [if_pos hcommits]
    refine iff_of_true ⟨?_, ?_⟩ (.inl hcommits)
    · rw [DataStore.lookup_recordPayment, if_pos rfl]
      rfl
    · show ((DataStore.recordOffer db.offers hash (some offer)).lookup hash).map _ = _
      rw [DataStore.lookup_recordOffer, if_pos rfl]
      rfl
  · rw [if_neg hcommits]
    exact (or_iff_right hcommits).symm

theorem containsInvoice_storeCall (support : Support) (env : Env) (db : Db) (hash : String)
    (offer : Option Offer) (hash' : String) :
    ContainsInvoice ((support.storeCall env hash offer).step db) hash' ↔
      ContainsInvoice db hash' := by
  rw [storeCall_step]
  split <;> exact Iff.rfl

theorem linkedTo_invoiceCall (env : Env) (db : Db) (invoice : LNInvoice) (fees : Option UInt64)
    (hash : String) (offer : Offer) :
    LinkedTo ((invoiceCall env invoice fees).step db) hash offer ↔ LinkedTo db hash offer := by
  unfold invoiceCall
  rw [storeCreatedInvoice_step]
  split <;> exact Iff.rfl

/-- Persisting an invoice adds it if the statement succeeds, and removes none. -/
theorem containsInvoice_invoiceCall (env : Env) (db : Db) (invoice : LNInvoice)
    (fees : Option UInt64) :
    ContainsInvoice ((invoiceCall env invoice fees).step db) invoice.paymentHash ↔
      DataStore.invoiceCommits env fees (invoice.timestamp + invoice.expiry) = true ∨
        ContainsInvoice db invoice.paymentHash := by
  unfold invoiceCall
  rw [storeCreatedInvoice_step]
  by_cases hcommits :
      DataStore.invoiceCommits env fees (invoice.timestamp + invoice.expiry) = true
  · rw [if_pos hcommits]
    refine iff_of_true ⟨_, List.mem_append_right _ List.mem_cons_self, rfl⟩ (.inl hcommits)
  · rw [if_neg hcommits]
    exact (or_iff_right hcommits).symm

theorem invoiceCall_succeeds (env : Env) (db : Db) (invoice : LNInvoice)
    (fees : Option UInt64) :
    (invoiceCall env invoice fees).succeeds db
      = DataStore.invoiceCommits env fees (invoice.timestamp + invoice.expiry) :=
  DataStore.storeCreatedInvoice_succeeded ..

/-! ## The steps of a collection -/

/-- The invoice of the withdrawal can be persisted: the fee for opening a channel, which an
invoice with an amount needs, is known, and the statement succeeds. -/
def InvoicePersists (support : Support) (sdk : Sdk) (env : Env) (invoice : LNInvoice) : Prop :=
  env.faults .insertCreatedInvoice = false ∧ invoice.timestamp + invoice.expiry < 2 ^ 63 ∧
    ∀ amountMsat ∈ invoice.amountMsat, ∃ (params : OpeningFeeParams) (nodeState : NodeState),
      support.taskManager.lspFeeCheaper = some params ∧ sdk.nodeInfo = .ok nodeState ∧
      (asSats (Support.lspFeeSats nodeState params (round amountMsat .up))).msats < 2 ^ 63

theorem invoiceCommits_none (env : Env) (expiry : UInt64) :
    DataStore.invoiceCommits env none expiry = true ↔
      env.faults .insertCreatedInvoice = false ∧ expiry < 2 ^ 63 := by
  simp [DataStore.invoiceCommits, and_comm]

theorem invoiceCommits_some (env : Env) (fees expiry : UInt64) :
    DataStore.invoiceCommits env (some fees) expiry = true ↔
      env.faults .insertCreatedInvoice = false ∧ expiry < 2 ^ 63 ∧ fees < 2 ^ 63 := by
  simp only [DataStore.invoiceCommits, Option.toList_some, List.all_cons, List.all_nil,
    Bool.and_true, Bool.and_eq_true, decide_eq_true_eq, Bool.not_eq_eq_eq_not, Bool.not_true]
  constructor
  · rintro ⟨⟨hexpiry, hfees⟩, hfault⟩
    exact ⟨hfault, hexpiry, hfees⟩
  · rintro ⟨hfault, hexpiry, hfees⟩
    exact ⟨⟨hexpiry, hfees⟩, hfault⟩

/-- The fee is computed and the statement succeeds exactly if the invoice can be persisted. -/
theorem invoicePersists_iff (support : Support) (sdk : Sdk) (env : Env) (invoice : LNInvoice) :
    InvoicePersists support sdk env invoice ↔
      ∃ fees, FiatTopup.channelOpeningFeeMsat support sdk invoice = .ok fees ∧
        DataStore.invoiceCommits env fees (invoice.timestamp + invoice.expiry) = true := by
  unfold InvoicePersists FiatTopup.channelOpeningFeeMsat
  cases invoice.amountMsat with
  | none =>
      simp only [Except.ok.injEq, exists_eq_left', invoiceCommits_none]
      simp
  | some amountMsat =>
      simp only [Option.mem_def, Option.some.injEq, forall_eq']
      cases hparams : support.taskManager.lspFeeCheaper with
      | none =>
          refine iff_of_false ?_ ?_
          · rintro ⟨-, -, params, nodeState, hparams', -⟩
            cases hparams'
          · rintro ⟨fees, hfees, -⟩
            simp only [TaskManager.getCheaperLspFee, hparams] at hfees
            cases hfees
      | some params =>
          cases hnode : sdk.nodeInfo with
          | error e =>
              refine iff_of_false ?_ ?_
              · rintro ⟨-, -, params', nodeState, -, hnode', -⟩
                cases hnode'
              · rintro ⟨fees, hfees, -⟩
                simp only [TaskManager.getCheaperLspFee, hparams] at hfees
                cases hfees
          | ok nodeState =>
              -- the fee is that of the node and the cached params
              have hfees : ∀ fees, (do
                    let lspFeeParams ← support.taskManager.getCheaperLspFee
                    let result ← support.calculateLspFeeForAmount (.ok nodeState)
                      ((asMsats amountMsat).toAmountUp none).sats lspFeeParams
                    .ok (some result.lspFee.toMsats) : Result (Option UInt64)) = .ok fees ↔
                  fees = some (asSats (Support.lspFeeSats nodeState params
                    (round amountMsat .up))).msats := by
                intro fees
                rw [TaskManager.getCheaperLspFee, hparams]
                show (Except.ok _ : Result (Option UInt64)) = .ok fees ↔ _
                rw [Except.ok.injEq, eq_comm]
                exact Iff.rfl
              simp only [hfees, exists_eq_left, invoiceCommits_some, Option.some.injEq,
                Except.ok.injEq, exists_and_left, exists_eq_left']

/-- The link that a collection leaves: the payment info is stored before the invoice, and again
after it. -/
theorem collectionCalls_linked (support : Support) (sdk : Sdk) (envs : CollectionEnvs)
    (offer : Offer) (invoice : LNInvoice) (db : Db) :
    LinkedTo (Runs.run Call.step db
        (LibraryAction.collectionCalls support sdk envs offer invoice)) invoice.paymentHash offer ↔
      DataStore.commits envs.info support.getExchangeRates (some offer) = true ∨
      (InvoicePersists support sdk envs.invoice invoice ∧
        DataStore.commits envs.finalInfo support.getExchangeRates (some offer) = true) ∨
      LinkedTo db invoice.paymentHash offer := by
  rw [invoicePersists_iff]
  unfold LibraryAction.collectionCalls
  cases FiatTopup.channelOpeningFeeMsat support sdk invoice with
  | error e =>
      rw [Runs.run_cons, Runs.run_nil, linkedTo_storeCall]
      simp
  | ok fees =>
      simp only [invoiceCall_succeeds, Except.ok.injEq, exists_eq_left']
      cases DataStore.invoiceCommits envs.invoice fees (invoice.timestamp + invoice.expiry) with
      | true =>
          simp only [if_true, Runs.run_cons, Runs.run_nil, linkedTo_storeCall,
            linkedTo_invoiceCall, true_and]
          exact or_left_comm
      | false =>
          simp [Runs.run_cons, Runs.run_nil, linkedTo_storeCall, linkedTo_invoiceCall]

/-- The invoice that a collection leaves. -/
theorem collectionCalls_invoice (support : Support) (sdk : Sdk) (envs : CollectionEnvs)
    (offer : Offer) (invoice : LNInvoice) (db : Db) :
    ContainsInvoice (Runs.run Call.step db
        (LibraryAction.collectionCalls support sdk envs offer invoice)) invoice.paymentHash ↔
      InvoicePersists support sdk envs.invoice invoice ∨
        ContainsInvoice db invoice.paymentHash := by
  rw [invoicePersists_iff]
  unfold LibraryAction.collectionCalls
  cases FiatTopup.channelOpeningFeeMsat support sdk invoice with
  | error e =>
      rw [Runs.run_cons, Runs.run_nil, containsInvoice_storeCall]
      simp
  | ok fees =>
      simp only [invoiceCall_succeeds, Except.ok.injEq, exists_eq_left']
      cases hcommits :
          DataStore.invoiceCommits envs.invoice fees (invoice.timestamp + invoice.expiry) with
      | true =>
          simp only [if_true, Runs.run_cons, Runs.run_nil, containsInvoice_storeCall,
            containsInvoice_invoiceCall, hcommits]
      | false =>
          simp [Runs.run_cons, Runs.run_nil, containsInvoice_storeCall,
            containsInvoice_invoiceCall, hcommits]

/-! ## A whole collection -/

/-- The SDK has withdrawn the offer: it answered the request with the invoice. -/
def Withdrawn (sdk : Sdk) (services : OfferServices) (offer : OfferInfo) (invoice : LNInvoice) :
    Prop :=
  ∃ lnurlw data, offer.lnurlw = some lnurlw ∧ services.parse lnurlw = .ok (.lnUrlWithdraw data) ∧
    sdk.lnurlWithdraw ⟨data, data.maxWithdrawable, none⟩ = .ok (.ok invoice)

/-- The db after a collection that was withdrawn: nothing is stored unless the topup is hidden. -/
theorem requestCollection_withdrawn {support : Support} {sdk : Sdk} {services : OfferServices}
    {envs : CollectionEnvs} {offer : OfferInfo} {invoice : LNInvoice}
    (h : Withdrawn sdk services offer invoice) :
    (FiatTopup.requestCollection support sdk services envs offer).2.dataStore.conn
      = if succeeded (services.hideTopup offer.offer.id) then
          Runs.run Call.step support.dataStore.conn
            (LibraryAction.collectionCalls support sdk envs offer.offer invoice)
        else support.dataStore.conn := by
  obtain ⟨lnurlw, data, hlnurlw, hparse, hwithdraw⟩ := h
  have hcollected : LibraryAction.collectedInvoice sdk services offer
      = if succeeded (services.hideTopup offer.offer.id) then some invoice else none := by
    simp only [LibraryAction.collectedInvoice, hlnurlw, hparse, hwithdraw,
      LibraryAction.acceptedInvoice]
  rw [requestCollection_conn]
  simp only [LibraryAction.calls, hcollected]
  cases succeeded (services.hideTopup offer.offer.id) <;> rfl

/-- A wallet that knows no payment yet. -/
def newSupport : Support :=
  ⟨⟨"CHF", ⟨"Europe/Zurich", 60⟩⟩, ⟨[], none, none⟩, .new .migrated none⟩

/-- The invoice of a withdrawal. -/
def withdrawnInvoice : LNInvoice := ⟨"lnbc", "02aa", "f0", none, some 5000000, 1700000000, 3600⟩

/-- A node that withdraws every offer. -/
def withdrawingSdk : Sdk where
  nodeInfo := .ok ⟨"02aa", [], [], 0, 0, 0, 0, 0⟩
  receivePayment := fun _ => .error ""
  sendPayment := fun _ => .ok ()
  lnurlPay := fun _ => .error (.generic "")
  lnurlWithdraw := fun _ => .ok (.ok withdrawnInvoice)

/-- An offer manager that cannot be reached. -/
def unreachableServices : OfferServices where
  parse := fun _ => .ok (.lnUrlWithdraw ⟨"https://a.b", "k1", "", 1000, 5000000⟩)
  hideTopup := fun _ => .error (.runtimeError "" "backend unavailable")

def collectedOffer : OfferInfo where
  offer := ⟨"pocket-1", ⟨"EUR", 3000, 0⟩, 1000, some 5000, 10, 50, none, none⟩
  amount := ⟨5000, none⟩
  lnurlw := some "lnurl1"
  createdAt := 0
  expiresAt := none
  status := .ready

theorem withdrawn_unreachable :
    Withdrawn withdrawingSdk unreachableServices collectedOffer withdrawnInvoice :=
  ⟨"lnurl1", _, rfl, rfl, rfl⟩

end LipaLightning
