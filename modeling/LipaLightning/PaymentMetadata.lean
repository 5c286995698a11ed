import LipaLightning.LibraryAction

set_option autoImplicit false

/-! # What is known about a payment

The columns `personal_note`, `received_on` and `received_lnurl_comment` of a payment are
written by different operations. `store_payment_info` knows nothing of a note that was set
before, but its `INSERT` replaces the whole row, so a stored note is gone as soon as the
payment is stored again, as it is when paying it is tried again. The same happens to the two
other columns when the operation supplies no value for them. Offers have a table of their own
and are only replaced by another offer.

`metadataKept_iff` is the exact condition for a run to keep everything: whenever an operation
stores a payment, the columns it supplies no value for are empty.
-/

namespace LipaLightning

/-! ## The columns -/

/-- The columns of a payment that hold what the user or a sender said about it. -/
inductive MetadataField where
  | personalNote
  | receivedOn
  | receivedLnurlComment
  deriving DecidableEq, Repr

namespace MetadataField

def ofRow : MetadataField → PaymentRow → Option String
  | .personalNote => PaymentRow.personalNote
  | .receivedOn => PaymentRow.receivedOn
  | .receivedLnurlComment => PaymentRow.receivedLnurlComment

/-- The field in what `retrieve_payment_info` returns. -/
def ofData : MetadataField → LocalPaymentData → Option String
  | .personalNote => LocalPaymentData.personalNote
  | .receivedOn => LocalPaymentData.receivedOn
  | .receivedLnurlComment => LocalPaymentData.receivedLnurlComment

/-- The operation supplies a value of the field for the payment. A note update always does:
an empty note deletes the one that is stored. -/
def suppliedBy (hash : String) : MetadataField → Operation → Bool
  | .personalNote, .updatePersonalNote paymentHash _ => paymentHash = hash
  | .receivedOn, .storePaymentInfo paymentHash _ _ _ recipient _ =>
      paymentHash = hash && recipient.isSome
  | .receivedLnurlComment, .storePaymentInfo paymentHash _ _ _ _ comment =>
      paymentHash = hash && comment.isSome
  | _, _ => false

end MetadataField

/-- The field of the payment as it is stored in the db. -/
def storedField (field : MetadataField) (hash : String) (db : Db) : Option String :=
  (db.payments.lookup hash).bind field.ofRow

/-- The offer of the payment as it is stored in the db. -/
def storedOffer (hash : String) (db : Db) : Option OfferRow := db.offers.lookup hash

/-- The call stores the payment and its transaction is committed. -/
def Call.stores (hash : String) (call : Call) : Bool :=
  match call.op with
  | .storePaymentInfo paymentHash _ rates offer _ _ =>
      paymentHash = hash && DataStore.commits call.env rates offer
  | _ => false

/-- The operation supplies an offer for the payment. -/
def suppliesOffer (hash : String) : Operation → Bool
  | .storePaymentInfo paymentHash _ _ offer _ _ => paymentHash = hash && offer.isSome
  | _ => false

/-! ## One call -/

/-- Operations that write to other tables than `payments`, `offers` and
`created_invoices`. -/
def Operation.isElsewhere : Operation → Bool
  | .storePaymentInfo .. => false
  | .updatePersonalNote .. => false
  | .storeCreatedInvoice .. => false
  | _ => true

/-- A part of the db that the SQL of an operation keeps is kept by the operation. -/
theorem waitThen_keeps {β : Type} (part : Db → β) (self : DataStore) (sql : Result Db)
    (h : ∀ db, sql = .ok db → part db = part self.conn) :
    part (self.waitThen sql).2.conn = part self.conn := by
  rw [DataStore.waitThen_conn]
  cases hsql : sql with
  | ok db => exact h db hsql
  | error e => rfl

theorem conn_elsewhere (env : Env) (self : DataStore) {op : Operation}
    (hop : op.isElsewhere = true) :
    (op.after env self).conn.payments = self.conn.payments
      ∧ (op.after env self).conn.offers = self.conn.offers
      ∧ (op.after env self).conn.createdInvoices = self.conn.createdInvoices := by
  cases op with
  | storePaymentInfo => cases hop
  | updatePersonalNote => cases hop
  | storeCreatedInvoice => cases hop
  | storeFiatTopupInfo info =>
      simp only [Operation.after, Operation.call, DataStore.storeFiatTopupInfo]
      split <;> exact ⟨rfl, rfl, rfl⟩
  | clearFiatTopupInfo =>
      simp only [Operation.after, Operation.call, DataStore.clearFiatTopupInfo]
      split <;> exact ⟨rfl, rfl, rfl⟩
  | storeLightningAddress address =>
      simp only [Operation.after, Operation.call, DataStore.storeLightningAddress]
      split <;> exact ⟨rfl, rfl, rfl⟩
  | updateLightningAddress address status =>
      simp only [Operation.after, Operation.call, DataStore.updateLightningAddress]
      split <;> exact ⟨rfl, rfl, rfl⟩
  | _ =>
      simp only [Operation.after, Operation.call, DataStore.updateExchangeRate,
        DataStore.appendAnalyticsConfig, DataStore.storeHiddenChannelCloseOnchainFundsAmountSat,
        DataStore.storeHiddenUnresolvedFailedSwap, DataStore.storeSelectedFiatCurrency]
      have hkeeps := waitThen_keeps
        (fun db : Db => (db.payments, db.offers, db.createdInvoices)) self
      simp only [Prod.mk.injEq] at hkeeps
      refine hkeeps _ fun db hdb => ?_
      simp only [bind_eq_ok, Except.ok.injEq] at hdb
      -- one or two statements come before the new db
      first
        | obtain ⟨_, -, rfl⟩ := hdb
          exact ⟨rfl, rfl, rfl⟩
        | obtain ⟨_, -, _, -, rfl⟩ := hdb
          exact ⟨rfl, rfl, rfl⟩

theorem step_elsewhere (db : Db) (env : Env) {op : Operation} (hop : op.isElsewhere = true) :
    (Call.step db ⟨op, env⟩).payments = db.payments
      ∧ (Call.step db ⟨op, env⟩).offers = db.offers
      ∧ (Call.step db ⟨op, env⟩).createdInvoices = db.createdInvoices := by
  unfold Call.step
  exact conn_elsewhere env (.new db none) hop

/-- The db after a call that persists a created invoice. -/
theorem storeCreatedInvoice_step (db : Db) (env : Env) (hash invoice : String)
    (fees : Option UInt64) (expiry : UInt64) :
    Call.step db ⟨.storeCreatedInvoice hash invoice fees expiry, env⟩
      = if DataStore.invoiceCommits env fees expiry then
          DataStore.recordInvoice db hash invoice fees expiry
        else db := by
  simp only [Call.step, Operation.after, Operation.call, DataStore.storeCreatedInvoice_conn,
    DataStore.new]

/-- The row a call leaves for a payment. -/
theorem lookup_step (hash : String) (db : Db) (call : Call) :
    (call.step db).payments.lookup hash =
      match call.op with
      | .storePaymentInfo paymentHash prefs rates _ recipient comment =>
          if call.stores hash then
            some (DataStore.paymentRow paymentHash prefs
              (DataStore.snapshotOf call.env.now rates) recipient comment)
          else db.payments.lookup hash
      | .updatePersonalNote paymentHash note =>
          if DataStore.noteCommits call.env (db.payments.lookup paymentHash).isSome = true
              ∧ paymentHash = hash then
            some (DataStore.withNote (db.payments.lookup hash) hash note)
          else db.payments.lookup hash
      | _ => db.payments.lookup hash := by
  obtain ⟨op, env⟩ := call
  by_cases hop : op.isElsewhere = true
  · rw [(step_elsewhere db env hop).1]
    cases op <;> first | rfl | cases hop
  · cases op with
    | storePaymentInfo paymentHash prefs rates offer recipient comment =>
        simp only [Call.step, Operation.after, Operation.call, DataStore.storePaymentInfo_conn,
          DataStore.new, Call.stores]
        by_cases hcommits : DataStore.commits env rates offer = true
        · simp [hcommits, DataStore.lookup_recordPayment]
        · simp [hcommits]
    | updatePersonalNote paymentHash note =>
        simp only [Call.step, Operation.after, Operation.call, DataStore.updatePersonalNote_conn,
          DataStore.new]
        by_cases hcommits :
            DataStore.noteCommits env (db.payments.lookup paymentHash).isSome = true
        · simp [hcommits, DataStore.lookup_recordNote]
        · simp [hcommits]
    | storeCreatedInvoice =>
        rw [storeCreatedInvoice_step]
        split <;> rfl
    | _ => exact absurd rfl hop

/-- A call that supplies no value for a field of a payment keeps the field, unless it stores
the payment. -/
theorem storedField_step (field : MetadataField) (hash : String) (db : Db) (call : Call)
    (hsupplied : field.suppliedBy hash call.op = false) :
    storedField field hash (call.step db)
      = if call.stores hash then none else storedField field hash db := by
  obtain ⟨op, env⟩ := call
  rw [storedField, lookup_step]
  cases op with
  | storePaymentInfo paymentHash prefs rates offer recipient comment =>
      by_cases hstores : Call.stores hash
          ⟨.storePaymentInfo paymentHash prefs rates offer recipient comment, env⟩ = true
      · -- the new row has no note, and the values of the call, which are missing here
        have hhash : paymentHash = hash := by
          simp only [Call.stores, Bool.and_eq_true, decide_eq_true_eq] at hstores
          exact hstores.1
        simp only [hstores, if_true]
        cases field <;>
          simp_all [MetadataField.suppliedBy, MetadataField.ofRow, DataStore.paymentRow]
      · simp [hstores, storedField]
  | updatePersonalNote paymentHash note =>
      simp only [Call.stores, Bool.false_eq_true, if_false]
      split
      · next h =>
        -- the note of this payment is supplied, and its other fields are kept
        obtain rfl := h.2
        unfold storedField
        cases hrow : db.payments.lookup paymentHash <;> cases field <;>
          simp_all [MetadataField.suppliedBy, MetadataField.ofRow, DataStore.withNote,
            DataStore.noteRow]
      · rfl
  | _ => rfl

/-- The offer a call leaves for a payment. -/
theorem storedOffer_step (hash : String) (db : Db) (call : Call)
    (hsupplied : suppliesOffer hash call.op = false) :
    storedOffer hash (call.step db) = storedOffer hash db := by
  obtain ⟨op, env⟩ := call
  by_cases hop : op.isElsewhere = true
  · rw [storedOffer, (step_elsewhere db env hop).2.1]
    rfl
  · cases op with
    | storePaymentInfo paymentHash prefs rates offer recipient comment =>
        simp only [storedOffer, Call.step, Operation.after, Operation.call,
          DataStore.storePaymentInfo_conn, DataStore.new]
        split
        · simp only [DataStore.recordPayment, DataStore.lookup_recordOffer]
          split
          · next hhash =>
            -- without an offer the call leaves the table `offers` alone
            have hoffer : offer = none := by simpa [suppliesOffer, hhash] using hsupplied
            rw [hoffer]
            rfl
          · rfl
        · rfl
    | updatePersonalNote paymentHash note =>
        simp only [storedOffer, Call.step, Operation.after, Operation.call,
          DataStore.updatePersonalNote_conn, DataStore.new]
        split
        · rw [DataStore.recordNote_offers]
        · rfl
    | storeCreatedInvoice =>
        rw [storeCreatedInvoice_step]
        split <;> rfl
    | _ => exact absurd rfl hop

/-! ## The calls of an action -/

theorem storedField_run (field : MetadataField) (hash : String) (calls : List Call) (db : Db)
    (hsupplied : ∀ call ∈ calls, field.suppliedBy hash call.op = false) :
    storedField field hash (Runs.run Call.step db calls)
      = if calls.any (Call.stores hash) then none else storedField field hash db := by
  induction calls generalizing db with
  | nil => rfl
  | cons call calls ih =>
      have hcall := storedField_step field hash db call (hsupplied call List.mem_cons_self)
      have hcalls := ih (call.step db) fun c hc => hsupplied c (List.mem_cons_of_mem call hc)
      rw [Runs.run_cons, hcalls, hcall, List.any_cons]
      cases call.stores hash <;> simp

theorem storedOffer_run (hash : String) (calls : List Call) (db : Db)
    (hsupplied : ∀ call ∈ calls, suppliesOffer hash call.op = false) :
    storedOffer hash (Runs.run Call.step db calls) = storedOffer hash db := by
  induction calls generalizing db with
  | nil => rfl
  | cons call calls ih =>
      rw [Runs.run_cons, ih (call.step db) fun c hc => hsupplied c (List.mem_cons_of_mem call hc)]
      exact storedOffer_step hash db call (hsupplied call List.mem_cons_self)

/-- A payment that is stored stays stored. -/
theorem isStored_step (hash : String) (db : Db) (call : Call)
    (h : (db.payments.lookup hash).isSome) : ((call.step db).payments.lookup hash).isSome := by
  rw [lookup_step]
  split
  · split
    · rfl
    · exact h
  · split
    · rfl
    · exact h
  · exact h

theorem isStored_run (hash : String) (calls : List Call) (db : Db)
    (h : (db.payments.lookup hash).isSome) :
    ((Runs.run Call.step db calls).payments.lookup hash).isSome := by
  induction calls generalizing db with
  | nil => exact h
  | cons call calls ih => exact ih (call.step db) (isStored_step hash db call h)

/-! ## What the library returns -/

/-- The field as `retrieve_payment_info` returns it. -/
def recordedField (field : MetadataField) (hash : String) (support : Support) : Option String :=
  (support.dataStore.retrievePaymentInfo hash).bind field.ofData

/-- The offer as `retrieve_payment_info` returns it. -/
def recordedOffer (hash : String) (support : Support) : Option Offer :=
  (support.dataStore.retrievePaymentInfo hash).bind LocalPaymentData.offer

theorem recordedField_eq (field : MetadataField) (hash : String) (support : Support) :
    recordedField field hash support = storedField field hash support.dataStore.conn := by
  unfold recordedField storedField DataStore.retrievePaymentInfo
  cases support.dataStore.conn.payments.lookup hash with
  | none => rfl
  | some row => cases field <;> rfl

theorem recordedOffer_eq (hash : String) (support : Support) :
    recordedOffer hash support
      = if (support.dataStore.conn.payments.lookup hash).isSome then
          (storedOffer hash support.dataStore.conn).map DataStore.offerFromRow
        else none := by
  unfold recordedOffer storedOffer DataStore.retrievePaymentInfo
  cases hrow : support.dataStore.conn.payments.lookup hash with
  | none => rfl
  | some row =>
      have hkey : row.hash = hash := KeyedTable.lookup_key hrow
      simp [DataStore.localPaymentDataFromRow, hkey]

/-- One of the calls of the action supplies the value. -/
def Supplies (supplied : Operation → Bool) (support : Support) (a : LibraryAction) : Prop :=
  ∃ call ∈ a.calls support, supplied call.op = true

/-- One of the calls of the action stores the payment. -/
def Stores (hash : String) (support : Support) (a : LibraryAction) : Prop :=
  ∃ call ∈ a.calls support, call.stores hash = true

/-- What an action that supplies no value for a field does to it. -/
theorem recordedField_step (field : MetadataField) (hash : String) (support : Support)
    (a : LibraryAction) (hsupplied : ¬ Supplies (field.suppliedBy hash) support a) :
    (Stores hash support a → recordedField field hash (a.step support) = none)
      ∧ (¬ Stores hash support a →
          recordedField field hash (a.step support) = recordedField field hash support) := by
  have hrun := storedField_run field hash (a.calls support) support.dataStore.conn
    fun call hcall => by
      by_contra h
      exact hsupplied ⟨call, hcall, by simpa using h⟩
  rw [recordedField_eq, recordedField_eq, conn_step, hrun]
  constructor
  · intro hstores
    rw [if_pos (List.any_eq_true.mpr hstores)]
  · intro hstores
    rw [if_neg (fun h => hstores (List.any_eq_true.mp h))]

theorem recordedOffer_step (hash : String) (support : Support) (a : LibraryAction) (offer : Offer)
    (hsupplied : ¬ Supplies (suppliesOffer hash) support a)
    (hoffer : recordedOffer hash support = some offer) :
    recordedOffer hash (a.step support) = some offer := by
  have hrun := storedOffer_run hash (a.calls support) support.dataStore.conn
    fun call hcall => by
      by_contra h
      exact hsupplied ⟨call, hcall, by simpa using h⟩
  rw [recordedOffer_eq] at hoffer ⊢
  split at hoffer
  · next hrow =>
    rw [conn_step, hrun, if_pos (isStored_run hash _ _ hrow)]
    exact hoffer
  · cases hoffer

/-! ## Runs -/

/-- Along the run no note, `received_on`, `received_lnurl_comment` or offer that is recorded
for a payment is lost: it stays until an action that supplies another one. -/
def MetadataKept (support : Support) (as : List LibraryAction) : Prop :=
  ∀ hash,
    (∀ field value, Runs.KeptUntil LibraryAction.step
      (fun s => recordedField field hash s = some value)
      (fun s a => Supplies (field.suppliedBy hash) s a) support as)
    ∧ (∀ offer, Runs.KeptUntil LibraryAction.step
      (fun s => recordedOffer hash s = some offer)
      (fun s a => Supplies (suppliesOffer hash) s a) support as)

/-- When the action stores a payment, the fields it supplies no value for are empty. -/
def NoLoss (support : Support) (a : LibraryAction) : Prop :=
  ∀ hash, Stores hash support a →
    ∀ field, ¬ Supplies (MetadataField.suppliedBy hash field) support a →
      recordedField field hash support = none

/-- A step keeps every recorded field exactly if it stores no payment over one. -/
theorem noLoss_iff (support : Support) (a : LibraryAction) :
    NoLoss support a
      ↔ ∀ hash field value, recordedField field hash support = some value →
          ¬ Supplies (field.suppliedBy hash) support a →
          recordedField field hash (a.step support) = some value := by
  constructor
  · intro h hash field value hvalue hsupplied
    by_cases hstores : Stores hash support a
    · rw [h hash hstores field hsupplied] at hvalue
      cases hvalue
    · rw [(recordedField_step field hash support a hsupplied).2 hstores, hvalue]
  · intro h hash hstores field hsupplied
    by_contra hne
    obtain ⟨value, hvalue⟩ := Option.ne_none_iff_exists'.mp hne
    have hkept := h hash field value hvalue hsupplied
    rw [(recordedField_step field hash support a hsupplied).1 hstores] at hkept
    cases hkept

/-- A note that is set is what is recorded. -/
theorem recordedField_setPersonalNote (support : Support) (env : Env) (hash note : String) :
    recordedField .personalNote hash (Activities.setPersonalNote support env hash note).2
      = if succeeded (Activities.setPersonalNote support env hash note).1 then storedNote note
        else recordedField .personalNote hash support := by
  have hsucceeded : succeeded (Activities.setPersonalNote support env hash note).1
      = DataStore.noteCommits env (support.dataStore.conn.payments.lookup hash).isSome :=
    support.dataStore.updatePersonalNote_succeeded env hash (storedNote note)
  rw [recordedField_eq, recordedField_eq, hsucceeded]
  simp only [Activities.setPersonalNote, DataStore.updatePersonalNote_conn]
  split
  · simp [storedField, DataStore.lookup_recordNote, MetadataField.ofRow, DataStore.withNote]
  · rfl

/-- **When metadata is kept.** A note that is set is what `retrieve_payment_info` returns, and
along a run of library operations nothing that is recorded for any payment is lost exactly if
no operation stores a payment over a note, or over a `received_on` or a comment that it
supplies no value for. -/
theorem metadataKept_iff (support : Support) (env : Env) (hash note : String)
    (as : List LibraryAction) :
    (recordedField .personalNote hash (Activities.setPersonalNote support env hash note).2
      = if succeeded (Activities.setPersonalNote support env hash note).1 then storedNote note
        else recordedField .personalNote hash support) ∧
    (MetadataKept support as ↔ Runs.AllSteps LibraryAction.step NoLoss support as) := by
  refine ⟨recordedField_setPersonalNote support env hash note, ?_⟩
  have hfields : Runs.AllSteps LibraryAction.step NoLoss support as
      ↔ ∀ hash field value, Runs.KeptUntil LibraryAction.step
          (fun s => recordedField field hash s = some value)
          (fun s a => Supplies (field.suppliedBy hash) s a) support as := by
    rw [Runs.allSteps_congr LibraryAction.step noLoss_iff, Runs.allSteps_forall]
    refine forall_congr' fun hash => ?_
    rw [Runs.allSteps_forall]
    refine forall_congr' fun field => ?_
    rw [Runs.allSteps_forall]
    refine forall_congr' fun value => ?_
    rw [Runs.keptUntil_iff]
  rw [hfields]
  constructor
  · intro h hash
    exact (h hash).1
  · intro h hash
    refine ⟨h hash, fun offer => (Runs.keptUntil_iff LibraryAction.step support as).mpr ?_⟩
    refine Runs.allSteps_of_forall LibraryAction.step (fun s a hoffer hsupplied => ?_) support as
    exact recordedOffer_step hash s a offer hsupplied hoffer

/-- A node that pays to peers that are offline. -/
def offlineSdk : Sdk where
  nodeInfo := .ok ⟨"02aa", [], [], 0, 0, 0, 0, 0⟩
  receivePayment := fun _ => .error "offline"
  sendPayment := fun _ => .error (.paymentFailed "peer is offline")
  lnurlPay := fun _ => .error (.serviceConnectivity "offline")
  lnurlWithdraw := fun _ => .error (.serviceConnectivity "offline")

/-- A note set after a failed payment attempt is gone after the next attempt. -/
theorem retried_payment_loses_note :
    ¬ ∀ (support : Support) (as : List LibraryAction), MetadataKept support as := by
  intro h
  let support : Support := ⟨⟨"CHF", ⟨"Europe/Zurich", 60⟩⟩, ⟨[], none, none⟩, .new .migrated none⟩
  let env : Env := ⟨0, fun _ => false⟩
  let attempt : LibraryAction := .pay offlineSdk env ⟨"lnbc", none, "", "f0", "03bb", 0, 0, 0⟩
  let setNote : LibraryAction := .setPersonalNote env "f0" "rent"
  have hkept := (h support [attempt, setNote, attempt] "f0").1 .personalNote "rent"
    [attempt, setNote] [attempt] [] rfl (by decide +kernel)
  have hsupplied : ¬ Supplies (MetadataField.suppliedBy "f0" .personalNote)
      (Runs.run LibraryAction.step support [attempt, setNote]) attempt := by
    rintro ⟨call, hcall, hsupplied⟩
    obtain rfl := List.mem_singleton.mp hcall
    cases hsupplied
  have hlost : recordedField .personalNote "f0"
      (Runs.run LibraryAction.step support [attempt, setNote, attempt]) = none := by
    decide +kernel
  have hnote := hkept ⟨hsupplied, trivial⟩
  exact absurd (hlost.symm.trans hnote) (by decide)

end LipaLightning
