import LipaLightning.Basic.Runs
import LipaLightning.DataStore.BackupStatus
import LipaLightning.DataStore.Payments
import LipaLightning.NotificationHandling
import LipaLightning.Text

set_option autoImplicit false

/-! # Runs of library operations on the payment tables

`LibraryAction` lists the operations of the library that write to the tables `payments`,
`offers` and `created_invoices`, each with its arguments and with all the answers it gets,
and the changes of what the library holds in memory. What such an action does to the db is a
sequence of calls to the data store (`LibraryAction.calls`), and every run of library actions
is the run of its calls (`conn_step`).
-/

namespace LipaLightning

/-! ## Setting a personal note -/

/-- The note that is stored: trimmed, and none if nothing is left. -/
def storedNote (note : String) : Option String :=
  let trimmed := trim note
  if trimmed.isEmpty then none else some trimmed

/-- Set a personal note on a specific activity. -/
def Activities.setPersonalNote (support : Support) (env : Env) (paymentHash note : String) :
    Result Unit × Support :=
  let (result, dataStore) :=
    support.dataStore.updatePersonalNote env paymentHash (storedNote note)
  (result, { support with dataStore := dataStore })

/-! ## Actions -/

inductive LibraryAction where
  | create (sdk : Sdk) (infoEnv invoiceEnv : Env) (amountSat : UInt64)
      (lspFeeParams : Option OpeningFeeParams) (description : String)
  | pay (sdk : Sdk) (env : Env) (invoiceDetails : InvoiceDetails)
  | payOpenAmount (sdk : Sdk) (env : Env) (invoiceDetails : InvoiceDetails) (amountSat : UInt64)
  | lnurlPay (sdk : Sdk) (env : Env) (data : LnUrlPayRequestData) (amountSat : UInt64)
      (comment : Option String)
  | lnurlWithdraw (sdk : Sdk) (env : Env) (data : LnUrlWithdrawRequestData) (amountSat : UInt64)
  | requestCollection (sdk : Sdk) (services : OfferServices) (envs : CollectionEnvs)
      (offer : OfferInfo)
  | handleLnurlPayRequest (services : NotificationServices) (envs : NotificationEnvs)
      (data : LnurlPayRequestData)
  | setPersonalNote (env : Env) (paymentHash note : String)
  | setMemory (userPreferences : UserPreferences) (taskManager : TaskManager)

namespace LibraryAction

/-- The support state after the action. -/
def step (support : Support) : LibraryAction → Support
  | .create sdk infoEnv invoiceEnv amountSat lspFeeParams description =>
      (Bolt11.create support sdk infoEnv invoiceEnv amountSat lspFeeParams description).2
  | .pay sdk env invoiceDetails => (Bolt11.pay support sdk env invoiceDetails).2
  | .payOpenAmount sdk env invoiceDetails amountSat =>
      (Bolt11.payOpenAmount support sdk env invoiceDetails amountSat).2
  | .lnurlPay sdk env data amountSat comment =>
      (Lnurl.pay support sdk env data amountSat comment).2
  | .lnurlWithdraw sdk env data amountSat => (Lnurl.withdraw support sdk env data amountSat).2
  | .requestCollection sdk services envs offer =>
      (FiatTopup.requestCollection support sdk services envs offer).2
  | .handleLnurlPayRequest services envs data =>
      let db := (NotificationHandling.handleLnurlPayRequestNotification support.dataStore.conn
        services envs data).2
      { support with dataStore := { support.dataStore with conn := db } }
  | .setPersonalNote env paymentHash note =>
      (Activities.setPersonalNote support env paymentHash note).2
  | .setMemory userPreferences taskManager =>
      { support with userPreferences := userPreferences, taskManager := taskManager }

end LibraryAction

/-! ## Calls to the data store -/

/-- A call of an operation of the data store, as the db sees it. -/
structure Call where
  op : Operation
  env : Env

/-- The db after the call. No operation reads anything but the db and its environment. -/
def Call.step (db : Db) (call : Call) : Db := (call.op.after call.env (.new db none)).conn

/-- The call `Support::store_payment_info` makes. -/
def Support.storeCall (support : Support) (env : Env) (hash : String) (offer : Option Offer) :
    Call :=
  ⟨.storePaymentInfo hash support.userPreferences support.getExchangeRates offer none none, env⟩

/-- The call that persists a created invoice. -/
def invoiceCall (env : Env) (invoice : LNInvoice) (channelOpeningFees : Option UInt64) : Call :=
  ⟨.storeCreatedInvoice invoice.paymentHash invoice.bolt11 channelOpeningFees
    (invoice.timestamp + invoice.expiry), env⟩

/-- The call succeeds on the db. -/
def Call.succeeds (db : Db) (call : Call) : Bool :=
  succeeded (call.op.call call.env (.new db none)).1

namespace LibraryAction

/-- The invoice of a withdrawal that the service accepted and the offer manager hid. -/
def acceptedInvoice (services : OfferServices) (offer : Offer) :
    SdkLnUrlWithdrawResult → Option LNInvoice
  | .ok invoice => if succeeded (services.hideTopup offer.id) then some invoice else none
  | _ => none

/-- The invoice of an offer that is collected up to the point where it is persisted. -/
def collectedInvoice (sdk : Sdk) (services : OfferServices) (offer : OfferInfo) :
    Option LNInvoice :=
  match offer.lnurlw with
  | none => none
  | some lnurlw => match services.parse lnurlw with
    | .ok (.lnUrlWithdraw data) =>
        match sdk.lnurlWithdraw ⟨data, data.maxWithdrawable, none⟩ with
        | .ok answer => acceptedInvoice services offer.offer answer
        | .error _ => none
    | _ => none

/-- The calls of a collection of the offer with that invoice. -/
def collectionCalls (support : Support) (sdk : Sdk) (envs : CollectionEnvs) (offer : Offer)
    (invoice : LNInvoice) : List Call :=
  let infoCall := support.storeCall envs.info invoice.paymentHash (some offer)
  match FiatTopup.channelOpeningFeeMsat support sdk invoice with
  | .error _ => [infoCall]
  | .ok fees =>
      let created := invoiceCall envs.invoice invoice fees
      if created.succeeds (infoCall.step support.dataStore.conn) then
        [infoCall, created, support.storeCall envs.finalInfo invoice.paymentHash (some offer)]
      else [infoCall, created]

/-- The calls to the data store an action makes. -/
def calls (support : Support) : LibraryAction → List Call
  | .create sdk infoEnv invoiceEnv amountSat lspFeeParams description =>
      match sdk.receivePayment ⟨(asSats amountSat).msats, description, lspFeeParams⟩ with
      | .error _ => []
      | .ok response =>
          [support.storeCall infoEnv response.lnInvoice.paymentHash none,
            invoiceCall invoiceEnv response.lnInvoice response.openingFeeMsat]
  | .pay _ env invoiceDetails => [support.storeCall env invoiceDetails.paymentHash none]
  | .payOpenAmount _ env invoiceDetails _ =>
      [support.storeCall env invoiceDetails.paymentHash none]
  | .lnurlPay sdk env data amountSat comment =>
      match (Lnurl.pay support sdk env data amountSat comment).1 with
      | .ok paymentHash => [support.storeCall env paymentHash none]
      | .error _ => []
  | .lnurlWithdraw sdk env data amountSat =>
      match (Lnurl.withdraw support sdk env data amountSat).1 with
      | .ok paymentHash => [support.storeCall env paymentHash none]
      | .error _ => []
  | .requestCollection sdk services envs offer =>
      match collectedInvoice sdk services offer with
      | none => []
      | some invoice => collectionCalls support sdk envs offer.offer invoice
  | .handleLnurlPayRequest services envs data =>
      match NotificationHandling.prepare (.new support.dataStore.conn none) services envs.select
          data with
      | .error _ => []
      | .ok (invoice, userPreferences, rates) =>
          [⟨.storePaymentInfo invoice.paymentHash userPreferences rates none (some data.recipient)
            data.payerComment, envs.info⟩]
  | .setPersonalNote env paymentHash note =>
      [⟨.updatePersonalNote paymentHash (storedNote note), env⟩]
  | .setMemory _ _ => []

end LibraryAction

/-! ## An action is the run of its calls -/

theorem storePaymentInfo_conn_step (support : Support) (env : Env) (hash : String)
    (offer : Option Offer) :
    (support.storePaymentInfo env hash offer).dataStore.conn
      = (support.storeCall env hash offer).step support.dataStore.conn := by
  simp only [Support.storePaymentInfo, Call.step, Operation.after, Support.storeCall,
    Operation.call, DataStore.storePaymentInfo_conn, DataStore.new]

theorem storeCreatedInvoice_conn_step (dataStore : DataStore) (env : Env) (invoice : LNInvoice)
    (fees : Option UInt64) :
    (dataStore.storeCreatedInvoice env invoice.paymentHash invoice.bolt11 fees
        (invoice.timestamp + invoice.expiry)).2.conn
      = (invoiceCall env invoice fees).step dataStore.conn := by
  simp only [Call.step, Operation.after, invoiceCall, Operation.call,
    DataStore.storeCreatedInvoice_conn, DataStore.new]

theorem storeCreatedInvoice_succeeds (dataStore : DataStore) (env : Env) (invoice : LNInvoice)
    (fees : Option UInt64) :
    succeeded (dataStore.storeCreatedInvoice env invoice.paymentHash invoice.bolt11 fees
        (invoice.timestamp + invoice.expiry)).1
      = (invoiceCall env invoice fees).succeeds dataStore.conn := by
  simp only [Call.succeeds, invoiceCall, Operation.call,
    DataStore.storeCreatedInvoice_succeeded]

theorem create_conn (support : Support) (sdk : Sdk) (infoEnv invoiceEnv : Env)
    (amountSat : UInt64) (lspFeeParams : Option OpeningFeeParams) (description : String) :
    (Bolt11.create support sdk infoEnv invoiceEnv amountSat lspFeeParams
        description).2.dataStore.conn
      = Runs.run Call.step support.dataStore.conn
          (LibraryAction.calls support
            (.create sdk infoEnv invoiceEnv amountSat lspFeeParams description)) := by
  simp only [Bolt11.create, LibraryAction.calls]
  cases sdk.receivePayment ⟨(asSats amountSat).msats, description, lspFeeParams⟩ with
  | error e => rfl
  | ok response =>
      simp only [Runs.run_cons, Runs.run_nil]
      rw [← storePaymentInfo_conn_step, ← storeCreatedInvoice_conn_step]
      generalize DataStore.storeCreatedInvoice _ _ _ _ _ _ = answer
      obtain ⟨stored, dataStore⟩ := answer
      cases stored <;> rfl

theorem payOpenAmount_conn (support : Support) (sdk : Sdk) (env : Env)
    (invoiceDetails : InvoiceDetails) (amountSat : UInt64) :
    (Bolt11.payOpenAmount support sdk env invoiceDetails amountSat).2.dataStore.conn
      = (support.storeCall env invoiceDetails.paymentHash none).step support.dataStore.conn := by
  rw [← storePaymentInfo_conn_step]
  unfold Bolt11.payOpenAmount
  dsimp only
  split
  · rfl
  · split
    · rfl
    · split <;> rfl

theorem lnurlPay_conn (support : Support) (sdk : Sdk) (env : Env) (data : LnUrlPayRequestData)
    (amountSat : UInt64) (comment : Option String) :
    (Lnurl.pay support sdk env data amountSat comment).2.dataStore.conn
      = Runs.run Call.step support.dataStore.conn
          (LibraryAction.calls support (.lnurlPay sdk env data amountSat comment)) := by
  unfold LibraryAction.calls Lnurl.pay
  dsimp only
  split
  · rfl
  · split
    · rfl
    · rfl
    · rfl
    · simp only [Runs.run_cons, Runs.run_nil, storePaymentInfo_conn_step]

theorem lnurlWithdraw_conn (support : Support) (sdk : Sdk) (env : Env)
    (data : LnUrlWithdrawRequestData) (amountSat : UInt64) :
    (Lnurl.withdraw support sdk env data amountSat).2.dataStore.conn
      = Runs.run Call.step support.dataStore.conn
          (LibraryAction.calls support (.lnurlWithdraw sdk env data amountSat)) := by
  unfold LibraryAction.calls Lnurl.withdraw
  dsimp only
  split
  · rfl
  · rfl
  · simp only [Runs.run_cons, Runs.run_nil, storePaymentInfo_conn_step]
  · simp only [Runs.run_cons, Runs.run_nil, storePaymentInfo_conn_step]

/-- Persisting the invoice of a withdrawal makes one call, unless the fee is not known. -/
theorem persistInvoice_cases (support : Support) (sdk : Sdk) (env : Env) (invoice : LNInvoice) :
    match FiatTopup.channelOpeningFeeMsat support sdk invoice with
    | .error e => FiatTopup.persistInvoice support sdk env invoice = (.error e, support)
    | .ok fees => ∃ dataStore : DataStore,
        dataStore.conn = (invoiceCall env invoice fees).step support.dataStore.conn
        ∧ (FiatTopup.persistInvoice support sdk env invoice).2
            = { support with dataStore := dataStore }
        ∧ succeeded (FiatTopup.persistInvoice support sdk env invoice).1
            = (invoiceCall env invoice fees).succeeds support.dataStore.conn := by
  unfold FiatTopup.persistInvoice
  cases hfee : FiatTopup.channelOpeningFeeMsat support sdk invoice with
  | error e => rfl
  | ok fees =>
      refine ⟨_, storeCreatedInvoice_conn_step support.dataStore env invoice fees, ?_, ?_⟩
      · dsimp only
        split <;> rfl
      · rw [← storeCreatedInvoice_succeeds]
        dsimp only
        split
        · next h => rw [h]; rfl
        · next h => rw [h]

theorem collect_conn (support : Support) (sdk : Sdk) (services : OfferServices)
    (envs : CollectionEnvs) (offer : Offer) (answer : SdkLnUrlWithdrawResult) :
    (FiatTopup.collect support sdk services envs offer (.ok answer)).2.dataStore.conn
      = Runs.run Call.step support.dataStore.conn
          (match LibraryAction.acceptedInvoice services offer answer with
            | none => []
            | some invoice => LibraryAction.collectionCalls support sdk envs offer invoice) := by
  cases answer with
  | timeout invoice => rfl
  | errorStatus reason => rfl
  | ok invoice =>
      unfold LibraryAction.acceptedInvoice FiatTopup.collect
      cases services.hideTopup offer.id with
      | error e => rfl
      | ok u =>
          simp only [succeeded_ok, if_true, LibraryAction.collectionCalls]
          -- the payment info is stored in any case; the invoice needs the channel opening fee
          have hpersist := persistInvoice_cases
            (support.storePaymentInfo envs.info invoice.paymentHash (some offer)) sdk envs.invoice
            invoice
          have hfee : FiatTopup.channelOpeningFeeMsat
              (support.storePaymentInfo envs.info invoice.paymentHash (some offer)) sdk invoice
              = FiatTopup.channelOpeningFeeMsat support sdk invoice := rfl
          rw [hfee, storePaymentInfo_conn_step] at hpersist
          generalize FiatTopup.persistInvoice _ sdk envs.invoice invoice = answer at hpersist ⊢
          -- an error of the fee or of the invoice ends the collection
          cases hopening : FiatTopup.channelOpeningFeeMsat support sdk invoice with
          | error e =>
              rw [hopening] at hpersist
              rw [hpersist, Runs.run_cons, Runs.run_nil]
              exact storePaymentInfo_conn_step ..
          | ok fees =>
              rw [hopening] at hpersist
              obtain ⟨dataStore, hconn, hsupport, hsucceeded⟩ := hpersist
              obtain ⟨result, support'⟩ := answer
              dsimp only at hsupport hsucceeded ⊢
              subst hsupport
              rw [← hsucceeded]
              cases result with
              | error e =>
                  simp only [succeeded_error, Bool.false_eq_true, if_false, Runs.run_cons,
                    Runs.run_nil]
                  exact hconn
              | ok u =>
                  simp only [succeeded_ok, if_true, Runs.run_cons, Runs.run_nil]
                  rw [storePaymentInfo_conn_step, ← hconn]
                  rfl

theorem requestCollection_conn (support : Support) (sdk : Sdk) (services : OfferServices)
    (envs : CollectionEnvs) (offer : OfferInfo) :
    (FiatTopup.requestCollection support sdk services envs offer).2.dataStore.conn
      = Runs.run Call.step support.dataStore.conn
          (LibraryAction.calls support (.requestCollection sdk services envs offer)) := by
  unfold FiatTopup.requestCollection LibraryAction.calls LibraryAction.collectedInvoice
  dsimp only
  cases offer.lnurlw with
  | none => rfl
  | some lnurlw =>
      dsimp only
      cases services.parse lnurlw with
      | error e => rfl
      | ok input =>
          cases input with
          | other => rfl
          | lnUrlWithdraw data =>
              dsimp only
              cases sdk.lnurlWithdraw ⟨data, data.maxWithdrawable, none⟩ with
              | error e => rfl
              | ok answer => exact collect_conn support sdk services envs offer.offer answer

theorem handleLnurlPayRequest_conn (db : Db) (services : NotificationServices)
    (envs : NotificationEnvs) (data : LnurlPayRequestData) :
    (NotificationHandling.handleLnurlPayRequestNotification db services envs data).2
      = Runs.run Call.step db
          (match NotificationHandling.prepare (.new db none) services envs.select data with
            | .error _ => []
            | .ok (invoice, userPreferences, rates) =>
                [⟨.storePaymentInfo invoice.paymentHash userPreferences rates none
                  (some data.recipient) data.payerComment, envs.info⟩]) := by
  unfold NotificationHandling.handleLnurlPayRequestNotification
  dsimp only
  cases NotificationHandling.prepare (.new db none) services envs.select data with
  | error e => rfl
  | ok prepared => rfl

/-- **An action does to the db what its calls do.** -/
theorem conn_step (support : Support) (a : LibraryAction) :
    (a.step support).dataStore.conn
      = Runs.run Call.step support.dataStore.conn (a.calls support) := by
  cases a with
  | create sdk infoEnv invoiceEnv amountSat lspFeeParams description => exact create_conn ..
  | pay sdk env invoiceDetails => exact payOpenAmount_conn support sdk env invoiceDetails 0
  | payOpenAmount sdk env invoiceDetails amountSat => exact payOpenAmount_conn ..
  | lnurlPay sdk env data amountSat comment => exact lnurlPay_conn ..
  | lnurlWithdraw sdk env data amountSat => exact lnurlWithdraw_conn ..
  | requestCollection sdk services envs offer => exact requestCollection_conn ..
  | handleLnurlPayRequest services envs data => exact handleLnurlPayRequest_conn ..
  | setPersonalNote env paymentHash note =>
      simp only [LibraryAction.step, Activities.setPersonalNote, LibraryAction.calls,
        Runs.run_cons, Runs.run_nil, Call.step, Operation.after, Operation.call,
        DataStore.updatePersonalNote_conn, DataStore.new]
  | setMemory userPreferences taskManager => rfl

end LipaLightning
