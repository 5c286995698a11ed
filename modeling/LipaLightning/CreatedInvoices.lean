import LipaLightning.Activity.Listing
import LipaLightning.DataStore.InvoiceTable
import LipaLightning.PaymentMetadata

set_option autoImplicit false

/-! # Created invoices and their payment data

A created invoice is shown with the data stored about its payment, so every invoice in
`created_invoices` needs a row in `payments`. The two tables are written by two calls, and an
error of the first one, which stores the payment info, is logged and ignored. When it fails
and the second one succeeds, the invoice is stored without payment data and can never be
shown. Neither can one that has no amount, nor one whose hash is not read back as text.

`presentable_iff` is the exact condition under which `list` keeps and `get` returns all created
invoices: whenever an operation persists one, it also stores its payment, or the payment is
stored already, and the invoice has an amount and a hash that the table keeps as text.
-/

namespace LipaLightning

/-- The invoice of the row is the one the row is stored under, and its payment is stored. -/
def HasPaymentData (parsers : Parsers) (db : Db) (row : CreatedInvoiceRow) : Prop :=
  ∃ invoice, parsers.parseInvoice row.invoice = .ok invoice
    ∧ row.hash = integerAffinity invoice.paymentHash
    ∧ (db.payments.lookup invoice.paymentHash).isSome

/-- Every created invoice has payment data. -/
def EveryInvoiceHasPaymentData (parsers : Parsers) (support : Support) : Prop :=
  ∀ row ∈ support.dataStore.conn.createdInvoices,
    HasPaymentData parsers support.dataStore.conn row

/-- The failure of `payment_from_created_invoice` that tells of an invoice without payment
data. -/
def missingPaymentData : Error RuntimeErrorCode :=
  .permanentFailure "Locally created invoice doesn't have local payment data"

/-- No created invoice that is read from the db fails for lack of payment data. -/
def NoneMissesPaymentData (parsers : Parsers) (support : Support) : Prop :=
  ∀ domain now,
    (∀ n invoices, support.dataStore.retrieveCreatedInvoices now n = .ok invoices →
      ∀ i ∈ invoices, Activities.paymentFromCreatedInvoice ⟨support, parsers, domain⟩ now i
        ≠ .error missingPaymentData)
    ∧ (∀ hash i, support.dataStore.retrieveCreatedInvoiceByHash hash = some i →
      Activities.paymentFromCreatedInvoice ⟨support, parsers, domain⟩ now i
        ≠ .error missingPaymentData)

/-- `get` returns a created invoice for its hash, if the SDK knows no payment with it. -/
def GetShowsInvoices (parsers : Parsers) (support : Support) : Prop :=
  ∀ domain (sdk : PaymentsSdk) now hash, sdk.paymentByHash hash = .ok none →
    (∃ row ∈ support.dataStore.conn.createdInvoices, row.hash = integerAffinity hash) →
    ∃ info, Activities.get ⟨support, parsers, domain⟩ sdk now hash = .ok (.incomingPayment info)
      ∧ info.paymentInfo.hash = hash

/-- The invoice is merged with the payments. It is in the response if few enough activities precede
it, and so in any case if it is pending and no more payments are listed than the leeway for pending
ones. -/
def KeptInList (self : Activities) (now : SystemTime) (n : UInt32) (payments : List Payment)
    (invoices : List CreatedInvoice) (response : ListActivitiesResponse) (i : CreatedInvoice) :
    Prop :=
  let merged := self.multiplexActivities now (self.breezActivities payments) invoices
  ∃ info, self.paymentFromCreatedInvoice now i = .ok info ∧ info.paymentInfo.hash = i.hash
    ∧ .incomingPayment info ∈ merged
    ∧ (Activities.WithinLimits now (Activities.lookForPending invoices) n.toNat merged
        (.incomingPayment info) → Activities.Listed response (.incomingPayment info))
    ∧ ((Activity.incomingPayment info).isPending = true →
        payments.length ≤ Activities.leewayForPendingPayments.toNat →
        Activities.Listed response (.incomingPayment info))

/-- `list` returns whenever the SDK answers, and it drops no created invoice that is not expired
unless the SDK has listed a payment with its hash. -/
def ListKeepsInvoices (parsers : Parsers) (support : Support) : Prop :=
  ∀ domain (sdk : PaymentsSdk) now secs n payments swap,
    asSecs now = some secs → secs < 2 ^ 63 →
    sdk.listPayments (Activities.listPaymentsRequest n) = .ok payments →
    sdk.inProgressSwap = .ok swap →
    ∃ invoices response,
      support.dataStore.retrieveCreatedInvoices now n = .ok invoices
      ∧ Activities.list ⟨support, parsers, domain⟩ sdk now n = .ok response
      ∧ ∀ row ∈ support.dataStore.conn.createdInvoices, secs ≤ row.invoiceExpiryTimestamp →
        ∃ i ∈ invoices, DataStore.createdInvoiceFromRow row = .ok i
          ∧ (i.hash ∉ (Activities.breezActivities ⟨support, parsers, domain⟩ payments).filterMap
              Activity.hash →
            KeptInList ⟨support, parsers, domain⟩ now n payments invoices response i)

/-- The created invoices can be shown: each has payment data, none fails for lack of it, and the
pending ones are neither dropped by `list` nor an error in `get`. -/
structure Presentable (parsers : Parsers) (support : Support) : Prop where
  paymentData : EveryInvoiceHasPaymentData parsers support
  noneMisses : NoneMissesPaymentData parsers support
  listed : ListKeepsInvoices parsers support
  got : GetShowsInvoices parsers support

/-- An invoice that can be shown once it is stored: it has an amount, and a payment hash that the
`INTEGER` column of `created_invoices` keeps as text. -/
structure CanBeShown (invoice : LNInvoice) : Prop where
  amount : invoice.amountMsat.isSome
  hash : (integerAffinity invoice.paymentHash).asText ≠ none

/-- Every created invoice can be shown if its payment is stored. -/
def EveryInvoiceCanBeShown (parsers : Parsers) (support : Support) : Prop :=
  ∀ row ∈ support.dataStore.conn.createdInvoices, ∀ invoice,
    parsers.parseInvoice row.invoice = .ok invoice → CanBeShown invoice

/-! ## Reading created invoices -/

/-- What is shown of an invoice is only missing payment data if there is none. -/
theorem ne_missingPaymentData {parsers : Parsers} {support : Support} {row : CreatedInvoiceRow}
    (hrow : HasPaymentData parsers support.dataStore.conn row) (domain : String)
    (now : SystemTime) {i : CreatedInvoice} (hi : i.invoice = row.invoice) :
    Activities.paymentFromCreatedInvoice ⟨support, parsers, domain⟩ now i
      ≠ .error missingPaymentData := by
  obtain ⟨invoice, hparse, -, hstored⟩ := hrow
  obtain ⟨data, hdata⟩ : ∃ data,
      support.dataStore.retrievePaymentInfo invoice.paymentHash = some data := by
    obtain ⟨payment, hpayment⟩ := Option.isSome_iff_exists.mp hstored
    exact ⟨_, by rw [DataStore.retrievePaymentInfo, hpayment]; rfl⟩
  unfold Activities.paymentFromCreatedInvoice
  rw [hi, hparse]
  dsimp only
  rw [hdata]
  unfold Activities.paymentFromInvoice missingPaymentData
  dsimp only
  split
  · simp
  · exact fun h => nomatch h

/-- A created invoice that is read comes from a row of the table. -/
theorem retrieveCreatedInvoices_mem {dataStore : DataStore} {now : SystemTime} {n : UInt32}
    {invoices : List CreatedInvoice} (h : dataStore.retrieveCreatedInvoices now n = .ok invoices)
    {i : CreatedInvoice} (hi : i ∈ invoices) :
    ∃ row ∈ dataStore.conn.createdInvoices, DataStore.createdInvoiceFromRow row = .ok i := by
  obtain ⟨secs, -, row, hrow, hfrom⟩ := (DataStore.mem_retrieveCreatedInvoices h).mp hi
  exact ⟨row, DataStore.selectCreatedInvoices_subset hrow, hfrom⟩

theorem createdInvoiceFromRow_invoice {row : CreatedInvoiceRow} {i : CreatedInvoice}
    (h : DataStore.createdInvoiceFromRow row = .ok i) : i.invoice = row.invoice := by
  unfold DataStore.createdInvoiceFromRow at h
  split at h
  · obtain rfl := Except.ok.inj h
    rfl
  · cases h

theorem noneMisses_of_everyInvoice {parsers : Parsers} {support : Support}
    (h : EveryInvoiceHasPaymentData parsers support) : NoneMissesPaymentData parsers support := by
  intro domain now
  constructor
  · intro n invoices hinvoices i hi
    obtain ⟨row, hrow, hfrom⟩ := retrieveCreatedInvoices_mem hinvoices hi
    exact ne_missingPaymentData (h row hrow) domain now (createdInvoiceFromRow_invoice hfrom)
  · intro hash i hi
    obtain ⟨row, hfind, rfl⟩ := Option.map_eq_some_iff.mp hi
    exact ne_missingPaymentData (h row (List.mem_of_find?_eq_some hfind)) domain now rfl

/-- A stored invoice is presented if it has an amount and its payment is stored. -/
theorem exists_paymentFromCreatedInvoice_iff {self : Activities} (now : SystemTime)
    {i : CreatedInvoice} {invoice : LNInvoice}
    (hparse : self.parsers.parseInvoice i.invoice = .ok invoice) :
    (∃ info, self.paymentFromCreatedInvoice now i = .ok info)
      ↔ (self.support.dataStore.conn.payments.lookup invoice.paymentHash).isSome
        ∧ invoice.amountMsat.isSome := by
  unfold Activities.paymentFromCreatedInvoice DataStore.retrievePaymentInfo
  rw [hparse]
  dsimp only
  cases self.support.dataStore.conn.payments.lookup invoice.paymentHash with
  | none => simp
  | some row =>
      simp only [Option.map_some, Option.isSome_some, true_and]
      unfold Activities.paymentFromInvoice InvoiceDetails.fromLnInvoice
      cases invoice.amountMsat with
      | none => simp
      | some amountMsat => simp

/-- The hash of a row whose invoice can be shown is read as the payment hash. -/
theorem asText_of_canBeShown {parsers : Parsers} {db : Db} {row : CreatedInvoiceRow}
    (hdata : HasPaymentData parsers db row)
    (hshown : ∀ invoice, parsers.parseInvoice row.invoice = .ok invoice → CanBeShown invoice) :
    ∃ invoice, parsers.parseInvoice row.invoice = .ok invoice
      ∧ row.hash.asText = some invoice.paymentHash := by
  obtain ⟨invoice, hparse, hhash, -⟩ := hdata
  obtain ⟨t, ht⟩ := Option.ne_none_iff_exists'.mp (hshown invoice hparse).hash
  obtain rfl := (asText_integerAffinity ht).2
  exact ⟨invoice, hparse, by rw [hhash, ht]⟩

/-- What is read of such a row is presented, with the payment hash. -/
theorem presented_of_canBeShown (self : Activities) {row : CreatedInvoiceRow}
    (hdata : HasPaymentData self.parsers self.support.dataStore.conn row)
    (hshown : ∀ invoice, self.parsers.parseInvoice row.invoice = .ok invoice → CanBeShown invoice)
    (now : SystemTime) {i : CreatedInvoice} (hi : i.invoice = row.invoice) :
    ∃ info, self.paymentFromCreatedInvoice now i = .ok info
      ∧ row.hash.asText = some info.paymentInfo.hash := by
  obtain ⟨invoice, hparse, htext⟩ := asText_of_canBeShown hdata hshown
  obtain ⟨invoice', hparse', -, hstored⟩ := hdata
  obtain rfl := Except.ok.inj (hparse.symm.trans hparse')
  have hamount := (hshown invoice hparse).amount
  rw [← hi] at hparse
  obtain ⟨info, hinfo⟩ :=
    (exists_paymentFromCreatedInvoice_iff now hparse).mpr ⟨hstored, hamount⟩
  obtain ⟨invoice', hparse', hinfoHash⟩ := Activities.hash_paymentFromCreatedInvoice hinfo
  obtain rfl := Except.ok.inj (hparse.symm.trans hparse')
  exact ⟨info, hinfo, by rw [hinfoHash, htext]⟩

/-- All invoices are read if the hash of each is text. -/
theorem retrieveCreatedInvoices_ok {dataStore : DataStore} {now : SystemTime} {secs : UInt64}
    (hsecs : asSecs now = some secs) (hbound : secs < 2 ^ 63) (n : UInt32)
    (htext : ∀ row ∈ dataStore.conn.createdInvoices, ∃ hash, row.hash.asText = some hash) :
    ∃ invoices, dataStore.retrieveCreatedInvoices now n = .ok invoices := by
  let read (row : CreatedInvoiceRow) : CreatedInvoice :=
    ⟨row.hash.asText.getD "", row.invoice, row.channelOpeningFees⟩
  have hread : (DataStore.selectCreatedInvoices dataStore.conn secs n.toNat).mapM
      DataStore.createdInvoiceFromRow
        = .ok ((DataStore.selectCreatedInvoices dataStore.conn secs n.toNat).map read) := by
    refine mapM_ok fun row hrow => ?_
    obtain ⟨hash, hhash⟩ := htext row (DataStore.selectCreatedInvoices_subset hrow)
    simp only [DataStore.createdInvoiceFromRow, read, hhash, Option.getD_some]
  exact ⟨_, DataStore.retrieveCreatedInvoices_of_read hsecs hbound hread⟩

section

variable {parsers : Parsers} {support : Support}

/-- Invoices with payment data that can be shown are returned by `get`. -/
theorem getShows_of_everyInvoice (hdata : EveryInvoiceHasPaymentData parsers support)
    (hshown : EveryInvoiceCanBeShown parsers support) : GetShowsInvoices parsers support := by
  intro domain sdk now hash hunknown ⟨row, hrow, hhash⟩
  -- `get` reads the first row with the hash
  obtain ⟨first, hfind⟩ : ∃ first,
      support.dataStore.conn.createdInvoices.find? (fun r => r.hash = integerAffinity hash)
        = some first :=
    Option.isSome_iff_exists.mp (List.find?_isSome.mpr ⟨row, hrow, by simpa using hhash⟩)
  have hfirst := List.mem_of_find?_eq_some hfind
  have hsame : first.hash = integerAffinity hash := by simpa using List.find?_some hfind
  let self : Activities := ⟨support, parsers, domain⟩
  let i : CreatedInvoice := ⟨hash, first.invoice, first.channelOpeningFees⟩
  have hi : support.dataStore.retrieveCreatedInvoiceByHash hash = some i := by
    rw [DataStore.retrieveCreatedInvoiceByHash, hfind]
    rfl
  obtain ⟨info, hinfo, htext⟩ := presented_of_canBeShown self (hdata first hfirst)
    (hshown first hfirst) now (i := i) rfl
  rw [hsame] at htext
  refine ⟨info, ?_, (asText_integerAffinity htext).2⟩
  simp only [Activities.get, hunknown, hi]
  rw [hinfo]
  rfl

/-- A row whose hash is text is read if it is not expired. -/
theorem mem_retrieved_of_unexpired {dataStore : DataStore} {now : SystemTime} {secs : UInt64}
    {n : UInt32} {invoices : List CreatedInvoice} {row : CreatedInvoiceRow} {hash : String}
    (hsecs : asSecs now = some secs)
    (hinvoices : dataStore.retrieveCreatedInvoices now n = .ok invoices)
    (hrow : row ∈ dataStore.conn.createdInvoices) (hunexpired : secs ≤ row.invoiceExpiryTimestamp)
    (hhash : row.hash.asText = some hash) :
    ∃ i ∈ invoices, DataStore.createdInvoiceFromRow row = .ok i ∧ i.hash = hash := by
  have hfrom : DataStore.createdInvoiceFromRow row
      = .ok ⟨hash, row.invoice, row.channelOpeningFees⟩ := by
    rw [DataStore.createdInvoiceFromRow, hhash]
  have hselected : row ∈ DataStore.selectCreatedInvoices dataStore.conn secs n.toNat :=
    List.mem_append_left _ (List.mem_filter.mpr ⟨hrow, by simpa using hunexpired⟩)
  exact ⟨_, (DataStore.mem_retrieveCreatedInvoices hinvoices).mpr
    ⟨secs, hsecs, row, hselected, hfrom⟩, hfrom, rfl⟩

/-- An invoice that is presented is kept unless a payment with its hash is listed. -/
theorem keptInList_of_presented {self : Activities} {now : SystemTime} {n : UInt32}
    {payments : List Payment} {invoices : List CreatedInvoice} {response : ListActivitiesResponse}
    {i : CreatedInvoice} {info : IncomingPaymentInfo} (hi : i ∈ invoices)
    (hunpaid : i.hash ∉ (self.breezActivities payments).filterMap Activity.hash)
    (hinfo : self.paymentFromCreatedInvoice now i = .ok info)
    (hhash : info.paymentInfo.hash = i.hash)
    (hlisted : Activities.WithinLimits now (Activities.lookForPending invoices) n.toNat
        (self.multiplexActivities now (self.breezActivities payments) invoices)
        (.incomingPayment info) → Activities.Listed response (.incomingPayment info)) :
    KeptInList self now n payments invoices response i := by
  have hmerged := Activities.mem_multiplexActivities.mpr (.inl ⟨i, hi, hunpaid, info, hinfo, rfl⟩)
  refine ⟨info, hinfo, hhash, hmerged, hlisted, fun hpending hfew => hlisted ?_⟩
  apply Activities.withinLimits_of_pending hmerged hpending
  refine (self.length_multiplexActivities_le now payments invoices).trans ?_
  unfold Activities.lookForPending
  rw [Nat.add_comm]
  exact Nat.add_le_add_right hfew _

/-- Invoices with payment data that can be shown are kept by `list`. -/
theorem listKeeps_of_everyInvoice (hdata : EveryInvoiceHasPaymentData parsers support)
    (hshown : EveryInvoiceCanBeShown parsers support) : ListKeepsInvoices parsers support := by
  intro domain sdk now secs n payments swap hsecs hbound hpayments hswap
  let self : Activities := ⟨support, parsers, domain⟩
  have htext : ∀ row ∈ support.dataStore.conn.createdInvoices,
      ∃ hash, row.hash.asText = some hash := by
    intro row hrow
    obtain ⟨invoice, -, htext⟩ := asText_of_canBeShown (hdata row hrow) (hshown row hrow)
    exact ⟨invoice.paymentHash, htext⟩
  obtain ⟨invoices, hinvoices⟩ := retrieveCreatedInvoices_ok hsecs hbound n htext
  obtain ⟨response, hlist, hlisted⟩ := Activities.list_ok self sdk hpayments hinvoices hswap
  refine ⟨invoices, response, hinvoices, hlist, fun row hrow hunexpired => ?_⟩
  obtain ⟨hash, hhash⟩ := htext row hrow
  obtain ⟨i, hi, hfrom, rfl⟩ :=
    mem_retrieved_of_unexpired hsecs hinvoices hrow hunexpired hhash
  refine ⟨i, hi, hfrom, fun hunpaid => ?_⟩
  obtain ⟨info, hinfo, hinfoText⟩ := presented_of_canBeShown self (hdata row hrow)
    (hshown row hrow) now (createdInvoiceFromRow_invoice hfrom)
  have hinfoHash : info.paymentInfo.hash = i.hash := Option.some.inj (hinfoText.symm.trans hhash)
  exact keptInList_of_presented hi hunpaid hinfo hinfoHash fun hlimits =>
    (hlisted _).mpr (.inl hlimits)

/-- An SDK without payments lists all created invoices at the epoch, so every row can be shown. -/
theorem everyInvoice_of_listKeeps (hdata : EveryInvoiceHasPaymentData parsers support)
    (hkeeps : ListKeepsInvoices parsers support) : EveryInvoiceCanBeShown parsers support := by
  intro row hrow invoice hparse
  let silent : PaymentsSdk := ⟨fun _ => .ok [], fun _ => .ok none, .ok none⟩
  obtain ⟨invoices, response, -, -, hkept⟩ :=
    hkeeps "" silent 0 0 0 [] none rfl (by grind) rfl rfl
  obtain ⟨i, -, hfrom, hkept⟩ := hkept row hrow (by simp)
  obtain ⟨info, hinfo, -⟩ := hkept (by simp [Activities.breezActivities])
  obtain ⟨invoice', hparse', hhash, -⟩ := hdata row hrow
  obtain rfl := Except.ok.inj (hparse.symm.trans hparse')
  refine ⟨?_, ?_⟩
  · rw [← createdInvoiceFromRow_invoice hfrom] at hparse
    exact ((exists_paymentFromCreatedInvoice_iff 0 hparse).mp ⟨info, hinfo⟩).2
  · rw [← hhash]
    exact asText_of_createdInvoiceFromRow hfrom

/-- The created invoices can be shown exactly if each has payment data, an amount and a hash that
is read as text. -/
theorem presentable_iff_everyInvoice :
    Presentable parsers support
      ↔ EveryInvoiceHasPaymentData parsers support ∧ EveryInvoiceCanBeShown parsers support := by
  constructor
  · intro h
    exact ⟨h.paymentData, everyInvoice_of_listKeeps h.paymentData h.listed⟩
  · rintro ⟨hdata, hshown⟩
    exact ⟨hdata, noneMisses_of_everyInvoice hdata, listKeeps_of_everyInvoice hdata hshown,
      getShows_of_everyInvoice hdata hshown⟩

end

/-! ## One call -/

/-- The call persists an invoice with that hash. -/
def Call.creates (hash : String) (call : Call) : Bool :=
  match call.op with
  | .storeCreatedInvoice h _ fees expiry =>
      h = hash && DataStore.invoiceCommits call.env fees expiry
  | _ => false

/-- The rows the call adds to `created_invoices`. -/
def Call.newRows (call : Call) : List CreatedInvoiceRow :=
  match call.op with
  | .storeCreatedInvoice hash invoice fees expiry =>
      if DataStore.invoiceCommits call.env fees expiry then
        [⟨integerAffinity hash, invoice, fees, expiry⟩]
      else []
  | _ => []

theorem createdInvoices_step (db : Db) (call : Call) :
    (call.step db).createdInvoices = db.createdInvoices ++ call.newRows := by
  obtain ⟨op, env⟩ := call
  by_cases hop : op.isElsewhere = true
  · have hnew : Call.newRows ⟨op, env⟩ = [] := by
      cases op with
      | storeCreatedInvoice => cases hop
      | _ => rfl
    rw [hnew, List.append_nil, (step_elsewhere db env hop).2.2]
  · cases op with
    | storePaymentInfo hash prefs rates offer recipient comment =>
        simp only [Call.step, Operation.after, Operation.call, DataStore.storePaymentInfo_conn,
          DataStore.new, Call.newRows, List.append_nil]
        split <;> rfl
    | updatePersonalNote hash note =>
        simp only [Call.step, Operation.after, Operation.call, DataStore.updatePersonalNote_conn,
          DataStore.new, Call.newRows, List.append_nil]
        split
        · exact DataStore.recordNote_createdInvoices ..
        · rfl
    | storeCreatedInvoice hash invoice fees expiry =>
        rw [storeCreatedInvoice_step]
        simp only [Call.newRows]
        split
        · rfl
        · rw [List.append_nil]
    | _ => exact absurd rfl hop

theorem createdInvoices_run (calls : List Call) (db : Db) :
    (Runs.run Call.step db calls).createdInvoices
      = db.createdInvoices ++ calls.flatMap Call.newRows := by
  induction calls generalizing db with
  | nil => simp
  | cons call calls ih =>
      rw [Runs.run_cons, ih, createdInvoices_step, List.flatMap_cons, List.append_assoc]

def Operation.isNoteUpdate : Operation → Bool
  | .updatePersonalNote .. => true
  | _ => false

/-- Only a call that stores the payment makes it stored, if no note is updated. -/
theorem isStored_step_iff (hash : String) (db : Db) (call : Call)
    (hnote : call.op.isNoteUpdate = false) :
    ((call.step db).payments.lookup hash).isSome
      ↔ (db.payments.lookup hash).isSome ∨ call.stores hash = true := by
  obtain ⟨op, env⟩ := call
  rw [lookup_step]
  cases op with
  | storePaymentInfo paymentHash prefs rates offer recipient comment =>
      dsimp only
      split
      -- a committed call stores the row, any other keeps what is there
      · next hstores => simp [hstores]
      · next hstores => simp [hstores]
  | updatePersonalNote => cases hnote
  | _ => simp [Call.stores]

theorem isStored_run_iff (hash : String) (calls : List Call) (db : Db)
    (hnote : ∀ call ∈ calls, call.op.isNoteUpdate = false) :
    ((Runs.run Call.step db calls).payments.lookup hash).isSome
      ↔ (db.payments.lookup hash).isSome ∨ ∃ call ∈ calls, call.stores hash = true := by
  induction calls generalizing db with
  | nil => simp
  | cons call calls ih =>
      rw [Runs.run_cons, ih _ fun c hc => hnote c (List.mem_cons_of_mem call hc),
        isStored_step_iff hash db call (hnote call List.mem_cons_self)]
      simp [or_assoc]

/-! ## The invoices an action persists -/

/-- The SDK can parse the invoices it creates. -/
def Sdk.InvoicesParse (parsers : Parsers) (sdk : Sdk) : Prop :=
  (∀ request response, sdk.receivePayment request = .ok response →
    parsers.parseInvoice response.lnInvoice.bolt11 = .ok response.lnInvoice)
  ∧ (∀ request invoice, sdk.lnurlWithdraw request = .ok (.ok invoice) →
    parsers.parseInvoice invoice.bolt11 = .ok invoice)

def LibraryAction.InvoicesParse (parsers : Parsers) : LibraryAction → Prop
  | .create sdk .. => sdk.InvoicesParse parsers
  | .requestCollection sdk .. => sdk.InvoicesParse parsers
  | _ => True

/-- The invoice that is collected is an answer of the SDK. -/
theorem collectedInvoice_mem {sdk : Sdk} {services : OfferServices} {offer : OfferInfo}
    {invoice : LNInvoice}
    (h : LibraryAction.collectedInvoice sdk services offer = some invoice) :
    ∃ request, sdk.lnurlWithdraw request = .ok (.ok invoice) := by
  unfold LibraryAction.collectedInvoice at h
  split at h
  · cases h
  · split at h
    · next data hdata =>
      refine ⟨⟨data, data.maxWithdrawable, none⟩, ?_⟩
      split at h
      · next answer hanswer =>
        rw [hanswer]
        cases answer with
        | ok answered =>
            simp only [LibraryAction.acceptedInvoice] at h
            split at h
            · rw [Option.some.inj h]
            · cases h
        | timeout => cases h
        | errorStatus => cases h
      · cases h
    · cases h

/-- A call an action makes stores a payment, persists an invoice of the SDK, or updates a note
and is the only one then. -/
inductive CallOf (a : LibraryAction) : Call → Prop where
  | stores (env : Env) (hash : String) (prefs : UserPreferences) (rates : List ExchangeRate)
      (offer : Option Offer) (recipient comment : Option String) :
      CallOf a ⟨.storePaymentInfo hash prefs rates offer recipient comment, env⟩
  | creates (env : Env) (invoice : LNInvoice) (fees : Option UInt64)
      (parses : ∀ parsers, a.InvoicesParse parsers →
        parsers.parseInvoice invoice.bolt11 = .ok invoice) :
      CallOf a (invoiceCall env invoice fees)
  | notes (env : Env) (hash note : String) (is_note : a = .setPersonalNote env hash note) :
      CallOf a ⟨.updatePersonalNote hash (storedNote note), env⟩

theorem calls_collection {support : Support} {sdk : Sdk} {services : OfferServices}
    {envs : CollectionEnvs} {offer : OfferInfo} {invoice : LNInvoice}
    (hinvoice : LibraryAction.collectedInvoice sdk services offer = some invoice) {call : Call}
    (hcall : call ∈ LibraryAction.collectionCalls support sdk envs offer.offer invoice) :
    CallOf (.requestCollection sdk services envs offer) call := by
  obtain ⟨request, hrequest⟩ := collectedInvoice_mem hinvoice
  have hcreates : ∀ env fees, CallOf (.requestCollection sdk services envs offer)
      (invoiceCall env invoice fees) :=
    fun env fees => .creates env invoice fees fun _ hparses => hparses.2 request invoice hrequest
  unfold LibraryAction.collectionCalls at hcall
  dsimp only at hcall
  split at hcall
  · obtain rfl := List.mem_singleton.mp hcall
    exact .stores ..
  · split at hcall
    · simp only [List.mem_cons, List.not_mem_nil, or_false] at hcall
      rcases hcall with rfl | rfl | rfl
      · exact .stores ..
      · exact hcreates ..
      · exact .stores ..
    · simp only [List.mem_cons, List.not_mem_nil, or_false] at hcall
      rcases hcall with rfl | rfl
      · exact .stores ..
      · exact hcreates ..

theorem calls_cases (support : Support) (a : LibraryAction) {call : Call}
    (hcall : call ∈ a.calls support) : CallOf a call := by
  cases a with
  | create sdk infoEnv invoiceEnv amountSat lspFeeParams description =>
      simp only [LibraryAction.calls] at hcall
      split at hcall
      · cases hcall
      · next response hresponse =>
        rcases List.mem_cons.mp hcall with rfl | hcall
        · exact .stores ..
        · obtain rfl := List.mem_singleton.mp hcall
          exact .creates _ _ _ fun _ hparses => hparses.1 _ response hresponse
  | requestCollection sdk services envs offer =>
      simp only [LibraryAction.calls] at hcall
      split at hcall
      · cases hcall
      · next invoice hinvoice => exact calls_collection hinvoice hcall
  | handleLnurlPayRequest services envs data =>
      simp only [LibraryAction.calls] at hcall
      split at hcall
      · cases hcall
      · obtain rfl := List.mem_singleton.mp hcall
        exact .stores ..
  | lnurlPay sdk env data amountSat comment =>
      simp only [LibraryAction.calls] at hcall
      split at hcall
      · obtain rfl := List.mem_singleton.mp hcall
        exact .stores ..
      · cases hcall
  | lnurlWithdraw sdk env data amountSat =>
      simp only [LibraryAction.calls] at hcall
      split at hcall
      · obtain rfl := List.mem_singleton.mp hcall
        exact .stores ..
      · cases hcall
  | pay sdk env invoiceDetails =>
      obtain rfl := List.mem_singleton.mp hcall
      exact .stores ..
  | payOpenAmount sdk env invoiceDetails amountSat =>
      obtain rfl := List.mem_singleton.mp hcall
      exact .stores ..
  | setPersonalNote env hash note =>
      obtain rfl := List.mem_singleton.mp hcall
      exact .notes env hash note rfl
  | setMemory => cases hcall

theorem newRows_invoiceCall (env : Env) (invoice : LNInvoice) (fees : Option UInt64) :
    (invoiceCall env invoice fees).newRows
      = if DataStore.invoiceCommits env fees (invoice.timestamp + invoice.expiry) then
          [⟨integerAffinity invoice.paymentHash, invoice.bolt11, fees,
            invoice.timestamp + invoice.expiry⟩]
        else [] := rfl

theorem creates_invoiceCall (env : Env) (invoice : LNInvoice) (fees : Option UInt64)
    (hash : String) :
    (invoiceCall env invoice fees).creates hash = true
      ↔ invoice.paymentHash = hash
        ∧ DataStore.invoiceCommits env fees (invoice.timestamp + invoice.expiry) = true := by
  unfold Call.creates invoiceCall
  dsimp only
  rw [Bool.and_eq_true, decide_eq_true_eq]

/-- The row of a call that persists an invoice. -/
theorem newRows_creates {a : LibraryAction} {call : Call} (hcall : CallOf a call)
    {row : CreatedInvoiceRow} (hrow : row ∈ call.newRows) :
    ∃ invoice : LNInvoice, call.creates invoice.paymentHash = true
      ∧ row.hash = integerAffinity invoice.paymentHash ∧ row.invoice = invoice.bolt11
      ∧ ∀ parsers, a.InvoicesParse parsers →
        parsers.parseInvoice invoice.bolt11 = .ok invoice := by
  cases hcall with
  | stores => cases hrow
  | notes => cases hrow
  | creates env invoice fees parses =>
      rw [newRows_invoiceCall] at hrow
      split at hrow
      · next hcommits =>
        obtain rfl := List.mem_singleton.mp hrow
        exact ⟨invoice, (creates_invoiceCall ..).mpr ⟨rfl, hcommits⟩, rfl, rfl, parses⟩
      · cases hrow

theorem exists_newRow {a : LibraryAction} {call : Call} (hcall : CallOf a call) {hash : String}
    (hcreates : call.creates hash = true) :
    ∃ row ∈ call.newRows, ∃ invoice : LNInvoice, invoice.paymentHash = hash
      ∧ row.invoice = invoice.bolt11
      ∧ ∀ parsers, a.InvoicesParse parsers →
        parsers.parseInvoice invoice.bolt11 = .ok invoice := by
  cases hcall with
  | stores => cases hcreates
  | notes => cases hcreates
  | creates env invoice fees parses =>
      obtain ⟨hhash, hcommits⟩ := (creates_invoiceCall ..).mp hcreates
      refine ⟨⟨integerAffinity invoice.paymentHash, invoice.bolt11, fees,
        invoice.timestamp + invoice.expiry⟩, ?_, invoice, hhash, rfl, parses⟩
      rw [newRows_invoiceCall, if_pos hcommits]
      exact List.mem_singleton_self _

/-- An action whose invoices the SDK can parse. -/
structure ParsedAction (parsers : Parsers) where
  action : LibraryAction
  parses : action.InvoicesParse parsers

namespace ParsedAction

variable {parsers : Parsers}

def step (support : Support) (a : ParsedAction parsers) : Support := a.action.step support

/-- Whenever the action persists an invoice, its payment is stored: it was already, or the
action stores it. -/
def StoresPayments (support : Support) (a : ParsedAction parsers) : Prop :=
  ∀ hash, (∃ call ∈ a.action.calls support, call.creates hash = true) →
    (support.dataStore.conn.payments.lookup hash).isSome ∨ Stores hash support a.action

/-- What is stored after an action that updates no note. -/
theorem isStored_action_iff {support : Support} {a : LibraryAction}
    (hnote : ∀ env hash note, a ≠ .setPersonalNote env hash note) (hash : String) :
    ((a.step support).dataStore.conn.payments.lookup hash).isSome
      ↔ (support.dataStore.conn.payments.lookup hash).isSome ∨ Stores hash support a := by
  rw [conn_step]
  refine isStored_run_iff hash _ _ fun call hcall => ?_
  cases calls_cases support a hcall with
  | stores => rfl
  | creates => rfl
  | notes env hash note is_note => exact absurd is_note (hnote env hash note)

theorem createdInvoices_action (support : Support) (a : LibraryAction) :
    (a.step support).dataStore.conn.createdInvoices
      = support.dataStore.conn.createdInvoices ++ (a.calls support).flatMap Call.newRows := by
  rw [conn_step]
  exact createdInvoices_run ..

/-- The invoices the action persists can be shown. -/
def PersistsShowable (support : Support) (a : ParsedAction parsers) : Prop :=
  ∀ call ∈ a.action.calls support, ∀ row ∈ call.newRows, ∀ invoice,
    parsers.parseInvoice row.invoice = .ok invoice → CanBeShown invoice

theorem step_everyInvoiceCanBeShown (support : Support) (a : ParsedAction parsers)
    (h : EveryInvoiceCanBeShown parsers support) :
    EveryInvoiceCanBeShown parsers (a.step support) ↔ PersistsShowable support a := by
  have hrows : (a.step support).dataStore.conn.createdInvoices
      = support.dataStore.conn.createdInvoices
        ++ (a.action.calls support).flatMap Call.newRows := createdInvoices_action support a.action
  unfold EveryInvoiceCanBeShown PersistsShowable
  rw [hrows]
  constructor
  · intro hafter call hcall row hrow
    exact hafter row (List.mem_append_right _ (List.mem_flatMap.mpr ⟨call, hcall, hrow⟩))
  · intro hnew row hrow
    rcases List.mem_append.mp hrow with hrow | hrow
    · exact h row hrow
    · obtain ⟨call, hcall, hrow⟩ := List.mem_flatMap.mp hrow
      exact hnew call hcall row hrow

/-- A note update persists no invoice. -/
theorem ne_setPersonalNote_of_creates {support : Support} {a : LibraryAction} {hash : String}
    (h : ∃ call ∈ a.calls support, call.creates hash = true) (env : Env) (h' note : String) :
    a ≠ .setPersonalNote env h' note := by
  rintro rfl
  obtain ⟨call, hcall, hcreates⟩ := h
  obtain rfl := List.mem_singleton.mp hcall
  cases hcreates

/-- One action keeps the payment data of all created invoices exactly if it stores the
payments of those it persists. -/
theorem step_everyInvoice (support : Support) (a : ParsedAction parsers)
    (h : EveryInvoiceHasPaymentData parsers support) :
    EveryInvoiceHasPaymentData parsers (a.step support) ↔ StoresPayments support a := by
  constructor
  · intro hafter hash hcreates
    rw [← isStored_action_iff (ne_setPersonalNote_of_creates hcreates)]
    obtain ⟨call, hcall, hcreates⟩ := hcreates
    obtain ⟨row, hrow, invoice, rfl, hbolt11, hparses⟩ :=
      exists_newRow (calls_cases support a.action hcall) hcreates
    have hmem : row ∈ (a.action.step support).dataStore.conn.createdInvoices := by
      rw [createdInvoices_action]
      exact List.mem_append_right _ (List.mem_flatMap.mpr ⟨call, hcall, hrow⟩)
    obtain ⟨invoice', hparse', -, hstored⟩ := hafter row hmem
    rw [hbolt11, hparses parsers a.parses] at hparse'
    rw [Except.ok.inj hparse']
    exact hstored
  · intro hstores row hrow
    have hconn : (a.step support).dataStore.conn
        = Runs.run Call.step support.dataStore.conn (a.action.calls support) := conn_step ..
    rcases List.mem_append.mp (createdInvoices_action support a.action ▸ hrow) with hrow | hrow
    · obtain ⟨invoice, hparse, hhash, hstored⟩ := h row hrow
      refine ⟨invoice, hparse, hhash, ?_⟩
      rw [hconn]
      exact isStored_run _ _ _ hstored
    · obtain ⟨call, hcall, hnew⟩ := List.mem_flatMap.mp hrow
      obtain ⟨invoice, hcreates, hhash, hbolt11, hparses⟩ :=
        newRows_creates (calls_cases support a.action hcall) hnew
      refine ⟨invoice, by rw [hbolt11]; exact hparses parsers a.parses, hhash, ?_⟩
      have hcreated : ∃ call ∈ a.action.calls support,
          call.creates invoice.paymentHash = true := ⟨call, hcall, hcreates⟩
      exact (isStored_action_iff (ne_setPersonalNote_of_creates hcreated) _).mpr
        (hstores _ hcreated)

end ParsedAction

/-- The support state of a wallet whose db is new. -/
def newWallet (userPreferences : UserPreferences) (taskManager : TaskManager)
    (backupFile : Option Db) : Support :=
  ⟨userPreferences, taskManager, .new .migrated backupFile⟩

end LipaLightning
