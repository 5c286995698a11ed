import LipaLightning.Activity.Lookups
import LipaLightning.CreatedInvoices
import LipaLightning.DataStore.Integrity

set_option autoImplicit false

/-! # Personal notes

`Activities::set_personal_note` (`activities.rs`) seen through everything that returns activities:
a run of calls changes the notes of what is returned and nothing else, and of each payment it is the
note of the last call for it that succeeded.
-/

namespace LipaLightning

/-! ## Activities with other notes -/

/-- The payment with its note replaced, where there is one for its hash. -/
def PaymentInfo.withNotes (notes : String → Option (Option String)) (info : PaymentInfo) :
    PaymentInfo :=
  { info with personalNote := (notes info.hash).getD info.personalNote }

def IncomingPaymentInfo.withNotes (notes : String → Option (Option String))
    (info : IncomingPaymentInfo) : IncomingPaymentInfo :=
  { info with paymentInfo := info.paymentInfo.withNotes notes }

def OutgoingPaymentInfo.withNotes (notes : String → Option (Option String))
    (info : OutgoingPaymentInfo) : OutgoingPaymentInfo :=
  { info with paymentInfo := info.paymentInfo.withNotes notes }

def Activity.withNotes (notes : String → Option (Option String)) : Activity → Activity
  | .incomingPayment info => .incomingPayment (info.withNotes notes)
  | .outgoingPayment info => .outgoingPayment (info.withNotes notes)
  | .offerClaim info offer => .offerClaim (info.withNotes notes) offer
  | .swap info swapInfo => .swap (info.map fun i => i.withNotes notes) swapInfo
  | .reverseSwap info reverseSwapInfo => .reverseSwap (info.withNotes notes) reverseSwapInfo
  | .channelClose info => .channelClose info

def ListActivitiesResponse.withNotes (notes : String → Option (Option String))
    (response : ListActivitiesResponse) : ListActivitiesResponse where
  pendingActivities := response.pendingActivities.map (Activity.withNotes notes)
  completedActivities := response.completedActivities.map (Activity.withNotes notes)

/-- Replacing notes twice: the later ones win. -/
theorem PaymentInfo.withNotes_withNotes (notes notes' : String → Option (Option String))
    (info : PaymentInfo) :
    (info.withNotes notes).withNotes notes'
      = info.withNotes fun hash => (notes' hash).or (notes hash) := by
  unfold PaymentInfo.withNotes
  dsimp only
  cases notes' info.hash <;> rfl

theorem IncomingPaymentInfo.withNotes_withNotes (notes notes' : String → Option (Option String))
    (info : IncomingPaymentInfo) :
    (info.withNotes notes).withNotes notes'
      = info.withNotes fun hash => (notes' hash).or (notes hash) :=
  congrArg (fun i : PaymentInfo => { info with paymentInfo := i })
    (PaymentInfo.withNotes_withNotes notes notes' info.paymentInfo)

theorem OutgoingPaymentInfo.withNotes_withNotes (notes notes' : String → Option (Option String))
    (info : OutgoingPaymentInfo) :
    (info.withNotes notes).withNotes notes'
      = info.withNotes fun hash => (notes' hash).or (notes hash) :=
  congrArg (fun i : PaymentInfo => { info with paymentInfo := i })
    (PaymentInfo.withNotes_withNotes notes notes' info.paymentInfo)

theorem Activity.withNotes_withNotes (notes notes' : String → Option (Option String))
    (a : Activity) :
    (a.withNotes notes).withNotes notes'
      = a.withNotes fun hash => (notes' hash).or (notes hash) := by
  cases a with
  | incomingPayment info =>
      exact congrArg _ (IncomingPaymentInfo.withNotes_withNotes notes notes' info)
  | outgoingPayment info =>
      exact congrArg _ (OutgoingPaymentInfo.withNotes_withNotes notes notes' info)
  | offerClaim info offer =>
      exact congrArg (Activity.offerClaim · offer)
        (IncomingPaymentInfo.withNotes_withNotes notes notes' info)
  | swap info swapInfo =>
      cases info with
      | none => rfl
      | some info =>
          exact congrArg (fun i => Activity.swap (some i) swapInfo)
            (IncomingPaymentInfo.withNotes_withNotes notes notes' info)
  | reverseSwap info reverseSwapInfo =>
      exact congrArg (Activity.reverseSwap · reverseSwapInfo)
        (OutgoingPaymentInfo.withNotes_withNotes notes notes' info)
  | channelClose info => rfl

theorem ListActivitiesResponse.withNotes_withNotes
    (notes notes' : String → Option (Option String)) (response : ListActivitiesResponse) :
    (response.withNotes notes).withNotes notes'
      = response.withNotes fun hash => (notes' hash).or (notes hash) := by
  have hcomp : Activity.withNotes notes' ∘ Activity.withNotes notes
      = Activity.withNotes fun hash => (notes' hash).or (notes hash) :=
    funext (Activity.withNotes_withNotes notes notes')
  unfold ListActivitiesResponse.withNotes
  rw [List.map_map, List.map_map, hcomp]

namespace Activity

variable (notes : String → Option (Option String))

@[simp] theorem hash_withNotes (a : Activity) : (a.withNotes notes).hash = a.hash := by
  cases a with
  | swap info swapInfo => cases info <;> rfl
  | _ => rfl

@[simp] theorem isPending_withNotes (a : Activity) :
    (a.withNotes notes).isPending = a.isPending := by
  cases a with
  | swap info swapInfo => cases info <;> rfl
  | _ => rfl

@[simp] theorem getTime_withNotes (now : SystemTime) (a : Activity) :
    (a.withNotes notes).getTime now = a.getTime now := by
  cases a with
  | swap info swapInfo => cases info <;> rfl
  | _ => rfl

end Activity

/-! ## A note in the table -/

/-- The notes after the one of a payment is set. -/
def setNoteOf (paymentHash : String) (note : Option String) (k : String) :
    Option (Option String) :=
  if paymentHash = k then some note else none

/-- What is stored of a payment of which only the note is known. -/
def LocalPaymentData.empty : LocalPaymentData := ⟨none, none, none, none, none, none⟩

/-- What is read of a payment after a note is recorded. -/
theorem DataStore.retrievePaymentInfo_recordNote {self self' : DataStore} {paymentHash : String}
    {note : Option String} (hconn : self'.conn = recordNote self.conn paymentHash note)
    (hintact : Integrity self.conn) (k : String) :
    self'.retrievePaymentInfo k
      = if paymentHash = k then
          some { (self.retrievePaymentInfo k).getD .empty with personalNote := note }
        else self.retrievePaymentInfo k := by
  have hhistory : self'.conn.exchangeRatesHistory = self.conn.exchangeRatesHistory := by
    rw [hconn, recordNote]
    split <;> rfl
  have hoffers : self'.conn.offers = self.conn.offers := by rw [hconn, recordNote_offers]
  have hdata : ∀ row, localPaymentDataFromRow self'.conn row
      = localPaymentDataFromRow self.conn row := by
    intro row
    unfold localPaymentDataFromRow paymentExchangeRateFromRow historyRow
    rw [hhistory, hoffers]
  unfold retrievePaymentInfo
  rw [hconn, lookup_recordNote]
  by_cases hk : paymentHash = k
  · rw [if_pos hk, if_pos hk, Option.map_some, ← hconn, hdata]
    cases hrow : self.conn.payments.lookup k with
    | some row => rfl
    | none =>
        -- an offer without a payment is none of the table's
        have hnone : self.conn.offers.lookup k = none := by
          cases hoffer : self.conn.offers.lookup k with
          | none => rfl
          | some offer =>
              obtain ⟨row, hpaid, -⟩ := hintact.payments.offers_paid k offer hoffer
              rw [hrow] at hpaid
              cases hpaid
        simp [withNote, noteRow, localPaymentDataFromRow, userPreferencesFromRow,
          paymentExchangeRateFromRow, historyRow, hnone, LocalPaymentData.empty]
  · rw [if_neg hk, if_neg hk, ← hconn]
    exact congrArg (fun f => Option.map f (self.conn.payments.lookup k)) (funext hdata)

/-! ## What is shown of a payment -/

section

variable {parsers : Parsers} {p : Payment} {rate : Option ExchangeRate} {tzConfig : TzConfig}
  {notes : String → Option (Option String)} {hash : String} {note : Option String}

/-- The note is only passed on. -/
theorem PaymentInfo.new_withNotes (hhash : p.hash = some hash) :
    PaymentInfo.new parsers p rate tzConfig ((notes hash).getD note)
      = (PaymentInfo.new parsers p rate tzConfig note).map (PaymentInfo.withNotes notes) := by
  unfold PaymentInfo.new
  unfold Payment.hash at hhash
  cases hdetails : p.details with
  | closedChannel data => rfl
  | ln data =>
      obtain rfl : data.paymentHash = hash := by
        rw [hdetails] at hhash
        exact Option.some.inj hhash
      dsimp only
      cases parsers.parseInvoice data.bolt11 with
      | error e => rfl
      | ok invoice =>
          dsimp only
          cases paymentTime p (InvoiceDetails.fromLnInvoice invoice rate) with
          | error e => rfl
          | ok time =>
              cases paymentAmount p rate with
              | error e => rfl
              | ok amount => rfl

theorem IncomingPaymentInfo.new_withNotes {receivedOn comment : Option String} {domain : String}
    (hhash : p.hash = some hash) :
    IncomingPaymentInfo.new parsers p rate tzConfig ((notes hash).getD note) receivedOn comment
        domain
      = (IncomingPaymentInfo.new parsers p rate tzConfig note receivedOn comment domain).map
        (IncomingPaymentInfo.withNotes notes) := by
  unfold IncomingPaymentInfo.new
  rw [PaymentInfo.new_withNotes hhash]
  cases PaymentInfo.new parsers p rate tzConfig note with
  | error e => rfl
  | ok info => rfl

theorem OutgoingPaymentInfo.new_withNotes {domain : String} (hhash : p.hash = some hash) :
    OutgoingPaymentInfo.new parsers p rate tzConfig ((notes hash).getD note) domain
      = (OutgoingPaymentInfo.new parsers p rate tzConfig note domain).map
        (OutgoingPaymentInfo.withNotes notes) := by
  unfold OutgoingPaymentInfo.new
  cases p.details with
  | closedChannel data => rfl
  | ln data =>
      dsimp only
      rw [PaymentInfo.new_withNotes hhash]
      cases PaymentInfo.new parsers p rate tzConfig note with
      | error e => rfl
      | ok info => rfl

end

namespace Activities

/-- The activities over another state of the data store. -/
def withStore (self : Activities) (dataStore : DataStore) : Activities :=
  { self with support := { self.support with dataStore := dataStore } }

section

variable {self : Activities} {dataStore : DataStore} {paymentHash : String}
  {note : Option String}

/-- Of what is stored of a payment, a note changes the note. -/
theorem bind_recordNote {β : Type} (f : LocalPaymentData → Option β)
    (hf : ∀ data, f { data with personalNote := note } = f data) (hempty : f .empty = none)
    (hconn : dataStore.conn = DataStore.recordNote self.support.dataStore.conn paymentHash note)
    (hintact : Integrity self.support.dataStore.conn) (k : String) :
    (dataStore.retrievePaymentInfo k).bind f
      = (self.support.dataStore.retrievePaymentInfo k).bind f := by
  rw [DataStore.retrievePaymentInfo_recordNote hconn hintact]
  by_cases hk : paymentHash = k
  · rw [if_pos hk, Option.bind_some, hf]
    cases self.support.dataStore.retrievePaymentInfo k with
    | some data => rfl
    | none => exact hempty
  · rw [if_neg hk]

theorem note_recordNote
    (hconn : dataStore.conn = DataStore.recordNote self.support.dataStore.conn paymentHash note)
    (hintact : Integrity self.support.dataStore.conn) (k : String) :
    (dataStore.retrievePaymentInfo k).bind LocalPaymentData.personalNote
      = (setNoteOf paymentHash note k).getD
        ((self.support.dataStore.retrievePaymentInfo k).bind LocalPaymentData.personalNote) := by
  rw [DataStore.retrievePaymentInfo_recordNote hconn hintact, setNoteOf]
  by_cases hk : paymentHash = k
  · rw [if_pos hk, if_pos hk]
    rfl
  · rw [if_neg hk, if_neg hk]
    rfl

theorem activityFromBreezPayment_recordNote
    (hconn : dataStore.conn = DataStore.recordNote self.support.dataStore.conn paymentHash note)
    (hintact : Integrity self.support.dataStore.conn) (p : Payment) :
    (self.withStore dataStore).activityFromBreezPayment p
      = (self.activityFromBreezPayment p).map
        (Activity.withNotes (setNoteOf paymentHash note)) := by
  unfold activityFromBreezPayment
  cases hdetails : p.details with
  | closedChannel data =>
      -- no note belongs to a channel close
      show self.activityFromBreezClosedChannelPayment p data = _
      unfold activityFromBreezClosedChannelPayment
      cases p.status <;> rfl
  | ln data =>
      have hhash : p.hash = some data.paymentHash := by rw [Payment.hash, hdetails]
      have hrate := bind_recordNote LocalPaymentData.exchangeRate (fun _ => rfl) rfl hconn hintact
        data.paymentHash
      have hpreferences := bind_recordNote LocalPaymentData.userPreferences (fun _ => rfl) rfl
        hconn hintact data.paymentHash
      have hoffer := bind_recordNote LocalPaymentData.offer (fun _ => rfl) rfl hconn hintact
        data.paymentHash
      have hreceivedOn := bind_recordNote LocalPaymentData.receivedOn (fun _ => rfl) rfl hconn
        hintact data.paymentHash
      have hcomment := bind_recordNote LocalPaymentData.receivedLnurlComment (fun _ => rfl) rfl
        hconn hintact data.paymentHash
      have hnote := note_recordNote hconn hintact data.paymentHash
      have hcurrent : (self.withStore dataStore).support.getExchangeRate
          = self.support.getExchangeRate := rfl
      dsimp only
      unfold activityFromBreezLnPayment
      rw [hdetails, hcurrent]
      dsimp only [withStore]
      rw [hrate, hpreferences, hoffer, hreceivedOn, hcomment, hnote,
        IncomingPaymentInfo.new_withNotes hhash, OutgoingPaymentInfo.new_withNotes hhash]
      generalize IncomingPaymentInfo.new _ _ _ _ _ _ _ _ = incoming
      generalize OutgoingPaymentInfo.new _ _ _ _ _ _ = outgoing
      cases (self.support.dataStore.retrievePaymentInfo data.paymentHash).bind
          LocalPaymentData.offer with
      | some offer => cases incoming <;> rfl
      | none =>
          cases data.swapInfo with
          | some s => cases incoming <;> rfl
          | none =>
              cases data.reverseSwapInfo with
              | some s => cases outgoing <;> rfl
              | none =>
                  cases p.paymentType with
                  | received => cases incoming <;> rfl
                  | sent => cases outgoing <;> rfl
                  | closedChannel => rfl

/-! ## What is shown of a created invoice -/

theorem paymentFromCreatedInvoice_recordNote
    (hconn : dataStore.conn = DataStore.recordNote self.support.dataStore.conn paymentHash note)
    (hintact : Integrity self.support.dataStore.conn) {row : CreatedInvoiceRow}
    (hrow : HasPaymentData self.parsers self.support.dataStore.conn row) (now : SystemTime)
    {i : CreatedInvoice} (hi : i.invoice = row.invoice) :
    (self.withStore dataStore).paymentFromCreatedInvoice now i
      = (self.paymentFromCreatedInvoice now i).map
        (IncomingPaymentInfo.withNotes (setNoteOf paymentHash note)) := by
  obtain ⟨invoice, hparse, -, hstored⟩ := hrow
  obtain ⟨data, hdata⟩ : ∃ data,
      self.support.dataStore.retrievePaymentInfo invoice.paymentHash = some data := by
    obtain ⟨payment, hpayment⟩ := Option.isSome_iff_exists.mp hstored
    exact ⟨_, by rw [DataStore.retrievePaymentInfo, hpayment]; rfl⟩
  have hnoted : dataStore.retrievePaymentInfo invoice.paymentHash
      = some { data with
          personalNote := (setNoteOf paymentHash note invoice.paymentHash).getD
            data.personalNote } := by
    rw [DataStore.retrievePaymentInfo_recordNote hconn hintact, hdata, setNoteOf]
    by_cases hk : paymentHash = invoice.paymentHash
    · rw [if_pos hk, if_pos hk]
      rfl
    · rw [if_neg hk, if_neg hk]
      rfl
  have hparse' : self.parsers.parseInvoice i.invoice = .ok invoice := by rw [hi, hparse]
  unfold paymentFromCreatedInvoice
  dsimp only [withStore]
  rw [hparse']
  dsimp only
  rw [hdata, hnoted]
  dsimp only
  unfold paymentFromInvoice
  dsimp only
  cases (InvoiceDetails.fromLnInvoice invoice data.exchangeRate).amount with
  | none => rfl
  | some amount => rfl

/-! ## Lists -/

theorem sortByTime_withNotes (notes : String → Option (Option String)) (now : SystemTime)
    (activities : List Activity) :
    sortByTime now (activities.map (Activity.withNotes notes))
      = (sortByTime now activities).map (Activity.withNotes notes) := by
  have htime : (fun a : Activity => (a.withNotes notes).getTime now) = Activity.getTime now :=
    funext fun a => Activity.getTime_withNotes notes now a
  rw [sortByTime, Latest.latestFirst_map, htime]
  rfl

theorem select_withNotes (notes : String → Option (Option String)) (lookForPending n : Nat)
    (activities : List Activity) :
    select lookForPending n (activities.map (Activity.withNotes notes))
      = ((select lookForPending n activities).1.map (Activity.withNotes notes),
        (select lookForPending n activities).2.map (Activity.withNotes notes)) := by
  have hpending : Activity.isPending ∘ Activity.withNotes notes = Activity.isPending :=
    funext fun a => Activity.isPending_withNotes notes a
  have hcompleted : (fun a : Activity => !a.isPending) ∘ Activity.withNotes notes
      = fun a => !a.isPending := funext fun a => congrArg Bool.not (congrFun hpending a)
  apply Prod.ext
  · rw [select_fst, select_fst, ← List.map_take, List.filter_map, hpending]
  · rw [select_snd, select_snd, List.filter_map, hcompleted, List.map_take]

theorem breezActivities_recordNote
    (hconn : dataStore.conn = DataStore.recordNote self.support.dataStore.conn paymentHash note)
    (hintact : Integrity self.support.dataStore.conn) (payments : List Payment) :
    (self.withStore dataStore).breezActivities payments
      = (self.breezActivities payments).map
        (Activity.withNotes (setNoteOf paymentHash note)) := by
  unfold breezActivities
  rw [List.map_filterMap]
  refine List.filterMap_congr fun p _ => ?_
  rw [activityFromBreezPayment_recordNote hconn hintact]
  cases self.activityFromBreezPayment p with
  | error e => rfl
  | ok a => rfl

theorem mergedActivities_recordNote
    (hconn : dataStore.conn = DataStore.recordNote self.support.dataStore.conn paymentHash note)
    (hintact : Integrity self.support.dataStore.conn) (now : SystemTime)
    (payments : List Payment) {createdInvoices : List CreatedInvoice}
    (hinvoices : ∀ i ∈ createdInvoices, ∃ row,
      HasPaymentData self.parsers self.support.dataStore.conn row ∧ i.invoice = row.invoice) :
    (self.withStore dataStore).mergedActivities now payments createdInvoices
      = (self.mergedActivities now payments createdInvoices).map
        (Activity.withNotes (setNoteOf paymentHash note)) := by
  show sortByTime now ((self.withStore dataStore).multiplexActivities now
    ((self.withStore dataStore).breezActivities payments) createdInvoices) = _
  rw [breezActivities_recordNote hconn hintact]
  show _ = (sortByTime now (self.multiplexActivities now (self.breezActivities payments)
    createdInvoices)).map _
  rw [← sortByTime_withNotes]
  congr 1
  -- a note changes no hash, so the same invoices are left out
  have hhash : Activity.hash ∘ Activity.withNotes (setNoteOf paymentHash note) = Activity.hash :=
    funext fun a => Activity.hash_withNotes _ a
  unfold multiplexActivities
  dsimp only
  rw [List.filterMap_map, hhash, List.map_append, List.map_filterMap]
  congr 1
  refine List.filterMap_congr fun i hi => ?_
  obtain ⟨row, hrow, hinvoice⟩ := hinvoices i (List.mem_of_mem_filter hi)
  rw [paymentFromCreatedInvoice_recordNote hconn hintact hrow now hinvoice]
  cases self.paymentFromCreatedInvoice now i with
  | error e => rfl
  | ok info => rfl

end

/-! ## Everything that returns activities -/

/-- All that is returned later is what was returned, with the notes. -/
structure ShowsWithNotes (earlier later : Activities)
    (notes : String → Option (Option String)) : Prop where
  list : ∀ sdk now n,
    later.list sdk now n = (earlier.list sdk now n).map (ListActivitiesResponse.withNotes notes)
  get : ∀ sdk now hash,
    later.get sdk now hash = (earlier.get sdk now hash).map (Activity.withNotes notes)
  getByReverseSwap : ∀ sdk reverseSwapId,
    later.getByReverseSwap sdk reverseSwapId
      = (earlier.getByReverseSwap sdk reverseSwapId).map (Option.map (Activity.withNotes notes))
  getIncomingPayment : ∀ sdk now hash,
    later.getIncomingPayment sdk now hash
      = (earlier.getIncomingPayment sdk now hash).map (IncomingPaymentInfo.withNotes notes)
  getOutgoingPayment : ∀ sdk now hash,
    later.getOutgoingPayment sdk now hash
      = (earlier.getOutgoingPayment sdk now hash).map (OutgoingPaymentInfo.withNotes notes)

section

variable {self later : Activities} {dataStore : DataStore} {paymentHash : String}
  {note : Option String}

theorem getIncomingPayment_withNotes {notes : String → Option (Option String)}
    {sdk : PaymentsSdk} {now : SystemTime} {hash : String}
    (hget : later.get sdk now hash = (self.get sdk now hash).map (Activity.withNotes notes)) :
    later.getIncomingPayment sdk now hash
      = (self.getIncomingPayment sdk now hash).map (IncomingPaymentInfo.withNotes notes) := by
  unfold getIncomingPayment
  rw [hget]
  cases self.get sdk now hash with
  | error e => rfl
  | ok a =>
      cases a with
      | swap info swapInfo => cases info <;> rfl
      | _ => rfl

theorem getOutgoingPayment_withNotes {notes : String → Option (Option String)}
    {sdk : PaymentsSdk} {now : SystemTime} {hash : String}
    (hget : later.get sdk now hash = (self.get sdk now hash).map (Activity.withNotes notes)) :
    later.getOutgoingPayment sdk now hash
      = (self.getOutgoingPayment sdk now hash).map (OutgoingPaymentInfo.withNotes notes) := by
  unfold getOutgoingPayment
  rw [hget]
  cases self.get sdk now hash with
  | error e => rfl
  | ok a => cases a <;> rfl

theorem createdInvoices_withStore
    (hconn : dataStore.conn = DataStore.recordNote self.support.dataStore.conn paymentHash note) :
    dataStore.conn.createdInvoices = self.support.dataStore.conn.createdInvoices := by
  rw [hconn, DataStore.recordNote_createdInvoices]

theorem list_recordNote
    (hconn : dataStore.conn = DataStore.recordNote self.support.dataStore.conn paymentHash note)
    (hintact : Integrity self.support.dataStore.conn)
    (hevery : EveryInvoiceHasPaymentData self.parsers self.support) (sdk : PaymentsSdk)
    (now : SystemTime) (n : UInt32) :
    (self.withStore dataStore).list sdk now n
      = (self.list sdk now n).map
        (ListActivitiesResponse.withNotes (setNoteOf paymentHash note)) := by
  have hretrieved : (self.withStore dataStore).support.dataStore.retrieveCreatedInvoices now n
      = self.support.dataStore.retrieveCreatedInvoices now n := by
    show dataStore.retrieveCreatedInvoices now n = _
    unfold DataStore.retrieveCreatedInvoices DataStore.selectCreatedInvoices
    rw [createdInvoices_withStore hconn]
  unfold list
  rw [hretrieved]
  cases sdk.listPayments (listPaymentsRequest n) with
  | error e => rfl
  | ok payments =>
      dsimp only
      cases hinvoices : self.support.dataStore.retrieveCreatedInvoices now n with
      | error e => rfl
      | ok createdInvoices =>
          have hstored : ∀ i ∈ createdInvoices, ∃ row,
              HasPaymentData self.parsers self.support.dataStore.conn row ∧
                i.invoice = row.invoice := by
            intro i hi
            obtain ⟨row, hrow, hfrom⟩ := retrieveCreatedInvoices_mem hinvoices hi
            exact ⟨row, hevery row hrow, createdInvoiceFromRow_invoice hfrom⟩
          have hmerged := mergedActivities_recordNote hconn hintact now payments hstored
          dsimp only
          rw [hmerged, select_withNotes]
          cases sdk.inProgressSwap with
          | error e => rfl
          | ok swap =>
              dsimp only
              show Except.ok _ = Except.ok _
              congr 1
              unfold ListActivitiesResponse.withNotes
              dsimp only
              rw [← sortByTime_withNotes, List.map_append]
              -- the swap in progress is no payment yet
              cases swap <;> rfl

theorem get_recordNote
    (hconn : dataStore.conn = DataStore.recordNote self.support.dataStore.conn paymentHash note)
    (hintact : Integrity self.support.dataStore.conn)
    (hevery : EveryInvoiceHasPaymentData self.parsers self.support) (sdk : PaymentsSdk)
    (now : SystemTime) (hash : String) :
    (self.withStore dataStore).get sdk now hash
      = (self.get sdk now hash).map (Activity.withNotes (setNoteOf paymentHash note)) := by
  have hretrieved : (self.withStore dataStore).support.dataStore.retrieveCreatedInvoiceByHash hash
      = self.support.dataStore.retrieveCreatedInvoiceByHash hash := by
    show dataStore.retrieveCreatedInvoiceByHash hash = _
    unfold DataStore.retrieveCreatedInvoiceByHash
    rw [createdInvoices_withStore hconn]
  unfold get
  rw [hretrieved]
  cases sdk.paymentByHash hash with
  | error e => rfl
  | ok found =>
      cases found with
      | some p => exact activityFromBreezPayment_recordNote hconn hintact p
      | none =>
          dsimp only
          cases hi : self.support.dataStore.retrieveCreatedInvoiceByHash hash with
          | none => rfl
          | some i =>
              obtain ⟨row, hfind, rfl⟩ := Option.map_eq_some_iff.mp hi
              dsimp only
              rw [paymentFromCreatedInvoice_recordNote hconn hintact
                (hevery row (List.mem_of_find?_eq_some hfind)) now rfl]
              cases self.paymentFromCreatedInvoice now _ with
              | error e => rfl
              | ok info => rfl

theorem getByReverseSwap_recordNote
    (hconn : dataStore.conn = DataStore.recordNote self.support.dataStore.conn paymentHash note)
    (hintact : Integrity self.support.dataStore.conn) (sdk : PaymentsSdk)
    (reverseSwapId : String) :
    (self.withStore dataStore).getByReverseSwap sdk reverseSwapId
      = (self.getByReverseSwap sdk reverseSwapId).map
        (Option.map (Activity.withNotes (setNoteOf paymentHash note))) := by
  cases hlisted : sdk.listPayments reverseSwapRequest with
  | error e =>
      unfold getByReverseSwap
      rw [hlisted]
      rfl
  | ok payments =>
      rw [getByReverseSwap_eq hlisted, getByReverseSwap_eq hlisted]
      cases payments.find? (isSwapWithId reverseSwapId) with
      | none => rfl
      | some p =>
          dsimp only
          rw [activityFromBreezPayment_recordNote hconn hintact]
          cases self.activityFromBreezPayment p with
          | error e => rfl
          | ok a => rfl

theorem showsWithNotes_recordNote
    (hconn : dataStore.conn = DataStore.recordNote self.support.dataStore.conn paymentHash note)
    (hintact : Integrity self.support.dataStore.conn)
    (hevery : EveryInvoiceHasPaymentData self.parsers self.support) :
    self.ShowsWithNotes (self.withStore dataStore) (setNoteOf paymentHash note) where
  list := list_recordNote hconn hintact hevery
  get := get_recordNote hconn hintact hevery
  getByReverseSwap := getByReverseSwap_recordNote hconn hintact
  getIncomingPayment sdk now hash :=
    getIncomingPayment_withNotes (get_recordNote hconn hintact hevery sdk now hash)
  getOutgoingPayment sdk now hash :=
    getOutgoingPayment_withNotes (get_recordNote hconn hintact hevery sdk now hash)

end

/-! ## Runs of calls -/

structure NoteCall where
  env : Env
  paymentHash : String
  note : String

/-- The activities after a call of `set_personal_note`. -/
def noted (self : Activities) (call : NoteCall) : Activities :=
  { self with support := (setPersonalNote self.support call.env call.paymentHash call.note).2 }

/-- The calls that succeed, in their order. -/
def acceptedCalls : Activities → List NoteCall → List NoteCall
  | _, [] => []
  | self, call :: calls =>
      let accepted := acceptedCalls (self.noted call) calls
      if succeeded (setPersonalNote self.support call.env call.paymentHash call.note).1 then
        call :: accepted
      else accepted

/-- The note of each payment a call is for: that of the last call. -/
def notesOf (calls : List NoteCall) (hash : String) : Option (Option String) :=
  (calls.filter (·.paymentHash = hash)).getLast?.map fun call => storedNote call.note

theorem notesOf_cons (call : NoteCall) (calls : List NoteCall) :
    notesOf (call :: calls) = fun hash =>
      (notesOf calls hash).or (setNoteOf call.paymentHash (storedNote call.note) hash) := by
  funext hash
  unfold notesOf setNoteOf
  by_cases hhash : call.paymentHash = hash
  · rw [List.filter_cons_of_pos (by simpa using hhash), List.getLast?_cons, if_pos hhash]
    cases (calls.filter (·.paymentHash = hash)).getLast? <;> rfl
  · rw [List.filter_cons_of_neg (by simpa using hhash), if_neg hhash, Option.or_none]

section

variable {self mid later : Activities} {notes notes' : String → Option (Option String)}

theorem ShowsWithNotes.refl (self : Activities) : self.ShowsWithNotes self fun _ => none := by
  have hinfo : IncomingPaymentInfo.withNotes (fun _ => none) = id := rfl
  have hactivity : Activity.withNotes (fun _ => none) = id := by
    funext a
    cases a with
    | swap info swapInfo => cases info <;> rfl
    | _ => rfl
  have hresponse : ListActivitiesResponse.withNotes (fun _ => none) = id := by
    funext response
    unfold ListActivitiesResponse.withNotes
    rw [hactivity, List.map_id, List.map_id]
    rfl
  refine ⟨?_, ?_, ?_, ?_, ?_⟩
  · intro sdk now n
    rw [hresponse]
    exact (id_map (self.list sdk now n)).symm
  · intro sdk now hash
    rw [hactivity]
    exact (id_map (self.get sdk now hash)).symm
  · intro sdk reverseSwapId
    rw [hactivity, Option.map_id]
    exact (id_map (self.getByReverseSwap sdk reverseSwapId)).symm
  · intro sdk now hash
    exact (id_map (self.getIncomingPayment sdk now hash)).symm
  · intro sdk now hash
    exact (id_map (self.getOutgoingPayment sdk now hash)).symm

theorem ShowsWithNotes.trans (h : self.ShowsWithNotes mid notes)
    (h' : mid.ShowsWithNotes later notes') :
    self.ShowsWithNotes later fun hash => (notes' hash).or (notes hash) := by
  have hmap {α : Type} {f g k : α → α} (hcomp : ∀ a, g (f a) = k a) (r : Result α) :
      (r.map f).map g = r.map k := by
    cases r with
    | error e => rfl
    | ok a => exact congrArg Except.ok (hcomp a)
  refine ⟨?_, ?_, ?_, ?_, ?_⟩
  · intro sdk now n
    rw [h'.list, h.list]
    exact hmap (ListActivitiesResponse.withNotes_withNotes notes notes') _
  · intro sdk now hash
    rw [h'.get, h.get]
    exact hmap (Activity.withNotes_withNotes notes notes') _
  · intro sdk reverseSwapId
    rw [h'.getByReverseSwap, h.getByReverseSwap]
    refine hmap (fun found => ?_) _
    cases found with
    | none => rfl
    | some a => exact congrArg some (Activity.withNotes_withNotes notes notes' a)
  · intro sdk now hash
    rw [h'.getIncomingPayment, h.getIncomingPayment]
    exact hmap (IncomingPaymentInfo.withNotes_withNotes notes notes') _
  · intro sdk now hash
    rw [h'.getOutgoingPayment, h.getOutgoingPayment]
    exact hmap (OutgoingPaymentInfo.withNotes_withNotes notes notes') _

end

/-- What is returned is read from the content of the db. -/
theorem showsWithNotes_of_conn {self : Activities} {dataStore : DataStore}
    (hconn : dataStore.conn = self.support.dataStore.conn) :
    self.ShowsWithNotes (self.withStore dataStore) fun _ => none := by
  obtain ⟨⟨userPreferences, taskManager, ⟨conn, backupConn, backupStatus⟩⟩, parsers, domain⟩ := self
  obtain ⟨conn', backupConn', backupStatus'⟩ := dataStore
  obtain rfl : conn' = conn := hconn
  have h := ShowsWithNotes.refl
    ⟨⟨userPreferences, taskManager, ⟨conn', backupConn, backupStatus⟩⟩, parsers, domain⟩
  exact ⟨h.list, h.get, h.getByReverseSwap, h.getIncomingPayment, h.getOutgoingPayment⟩

section

variable {self : Activities} {call : NoteCall}

/-- A call that succeeds sets its note, and one that fails changes nothing. -/
theorem conn_noted (self : Activities) (call : NoteCall) :
    (self.noted call).support.dataStore.conn
      = if succeeded (setPersonalNote self.support call.env call.paymentHash call.note).1 then
          DataStore.recordNote self.support.dataStore.conn call.paymentHash
            (storedNote call.note)
        else self.support.dataStore.conn := by
  have hsucceeded := DataStore.updatePersonalNote_succeeded self.support.dataStore call.env
    call.paymentHash (storedNote call.note)
  have hconn := DataStore.updatePersonalNote_conn self.support.dataStore call.env
    call.paymentHash (storedNote call.note)
  rw [← hsucceeded] at hconn
  exact hconn

theorem showsWithNotes_noted (hintact : Integrity self.support.dataStore.conn)
    (hevery : EveryInvoiceHasPaymentData self.parsers self.support) (call : NoteCall) :
    self.ShowsWithNotes (self.noted call)
      (if succeeded (setPersonalNote self.support call.env call.paymentHash call.note).1 then
        setNoteOf call.paymentHash (storedNote call.note)
      else fun _ => none) := by
  have hconn := conn_noted self call
  have hstore : self.noted call = self.withStore (self.noted call).support.dataStore := rfl
  rw [hstore]
  cases hsucceeded
      : succeeded (setPersonalNote self.support call.env call.paymentHash call.note).1 with
  | true =>
      rw [hsucceeded, if_pos rfl] at hconn
      exact showsWithNotes_recordNote hconn hintact hevery
  | false =>
      rw [hsucceeded, if_neg Bool.false_ne_true] at hconn
      exact showsWithNotes_of_conn hconn

theorem integrity_noted (hintact : Integrity self.support.dataStore.conn) (call : NoteCall) :
    Integrity (self.noted call).support.dataStore.conn := by
  have hconn := conn_step self.support
    (.setPersonalNote call.env call.paymentHash call.note)
  show Integrity ((LibraryAction.setPersonalNote call.env call.paymentHash call.note).step
    self.support).dataStore.conn
  rw [hconn]
  exact integrity_step hintact _

/-- A note takes no payment data away. -/
theorem everyInvoice_noted (hevery : EveryInvoiceHasPaymentData self.parsers self.support)
    (call : NoteCall) : EveryInvoiceHasPaymentData (self.noted call).parsers
      (self.noted call).support := by
  intro row hrow
  have hconn := conn_noted self call
  split at hconn
  · rw [hconn, DataStore.recordNote_createdInvoices] at hrow
    obtain ⟨invoice, hparse, hhash, hstored⟩ := hevery row hrow
    refine ⟨invoice, hparse, hhash, ?_⟩
    rw [hconn, DataStore.lookup_recordNote]
    split
    · rfl
    · exact hstored
  · rw [hconn] at hrow ⊢
    exact hevery row hrow

/-- After any run of calls of `set_personal_note`, everything that returns activities returns what
it did before them, with the note of each payment replaced by that of the last call for it that
succeeded. -/
theorem notes_shown (hintact : Integrity self.support.dataStore.conn)
    (hevery : EveryInvoiceHasPaymentData self.parsers self.support) (calls : List NoteCall) :
    self.ShowsWithNotes (Runs.run noted self calls) (notesOf (self.acceptedCalls calls)) := by
  induction calls generalizing self with
  | nil => exact .refl self
  | cons call calls ih =>
      have hfirst := showsWithNotes_noted hintact hevery call
      have hrest := ih (integrity_noted hintact call) (everyInvoice_noted hevery call)
      have hshown := hfirst.trans hrest
      show self.ShowsWithNotes (Runs.run noted (self.noted call) calls) _
      unfold acceptedCalls
      dsimp only
      split
      · rename_i haccepted
        rw [if_pos haccepted] at hshown
        rw [notesOf_cons]
        exact hshown
      · rename_i haccepted
        rw [if_neg haccepted] at hshown
        simp only [Option.or_none] at hshown
        exact hshown

/-- Two notes on one payment. -/
def twoNotes : List NoteCall :=
  [⟨⟨0, fun _ => false⟩, "f0", "deposit"⟩, ⟨⟨0, fun _ => false⟩, "f0", " rent "⟩]

theorem notes_shown_rent :
    ∃ info, (Runs.run noted reverseSwapActivities twoNotes).getOutgoingPayment
        (reverseSwapHistory.answering (.ok none)) 1700000060000000000 "f0" = .ok info ∧
      info.paymentInfo.personalNote = some "rent" := by
  have hshown := @notes_shown reverseSwapActivities integrity_migrated (by rintro row ⟨⟩)
    twoNotes
  have houtgoing := hshown.getOutgoingPayment (reverseSwapHistory.answering (.ok none))
    1700000060000000000 "f0"
  refine ⟨_, houtgoing.trans rfl, ?_⟩
  decide +kernel

end

end Activities

end LipaLightning
