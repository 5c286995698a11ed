import LipaLightning.DataStore.Store

set_option autoImplicit false

/-! # Storing and reading a payment

What `store_payment_info` does to the db, in one step. `commits` says for which inputs its
transaction is committed, `recordPayment` is the db it then leaves behind
(`storePaymentInfo_conn`), and the lookup lemmas say what is read from it afterwards. The
other operation on the `payments` table, `update_personal_note`, has the same three parts.
-/

namespace LipaLightning

namespace DataStore

/-! ## The rates of a snapshot -/

/-- The history with the rates of a snapshot added. -/
def recordRates (snapshotId : UInt64) (history : KeyedTable ExchangeRatesHistoryRow.key)
    (rates : List ExchangeRate) : KeyedTable ExchangeRatesHistoryRow.key :=
  rates.foldl (fun t r => t.insertIgnore ⟨snapshotId, r.currencyCode, r.rate, r.updatedAt⟩) history

/-- A key of another snapshot is not touched; a key of this one is read from the history if it
was there already, and otherwise from the first rate of its currency. -/
theorem lookup_recordRates (snapshotId : UInt64)
    (history : KeyedTable ExchangeRatesHistoryRow.key) (rates : List ExchangeRate)
    (k : UInt64 × String) :
    (recordRates snapshotId history rates).lookup k
      = (history.lookup k).or
          ((rates.find? (fun r => decide ((snapshotId, r.currencyCode) = k))).map
            fun r => ⟨snapshotId, r.currencyCode, r.rate, r.updatedAt⟩) := by
  induction rates generalizing history with
  | nil => simp [recordRates]
  | cons rate rates ih =>
      have hstep : recordRates snapshotId history (rate :: rates)
          = recordRates snapshotId (history.insertIgnore
              ⟨snapshotId, rate.currencyCode, rate.rate, rate.updatedAt⟩) rates := rfl
      rw [hstep, ih, KeyedTable.lookup_insertIgnore, List.find?_cons]
      by_cases h : (snapshotId, rate.currencyCode) = k
      · simp [ExchangeRatesHistoryRow.key, h]
      · simp [ExchangeRatesHistoryRow.key, h]

theorem lookup_recordRates_of_ne {snapshotId : UInt64}
    (history : KeyedTable ExchangeRatesHistoryRow.key) (rates : List ExchangeRate)
    {k : UInt64 × String} (hk : k.1 ≠ snapshotId) :
    (recordRates snapshotId history rates).lookup k = history.lookup k := by
  have hnone : rates.find? (fun r => decide ((snapshotId, r.currencyCode) = k)) = none := by
    rw [List.find?_eq_none]
    rintro r - hr
    exact hk (congrArg Prod.fst (of_decide_eq_true hr)).symm
  rw [lookup_recordRates, hnone]
  simp

/-- The snapshot id a list of rates is stored under. -/
def snapshotOf (now : SystemTime) (rates : List ExchangeRate) : Option UInt64 :=
  if rates.isEmpty then none else asSecs now

/-- No statement of the snapshot fails and its id is an `i64`. -/
def snapshotCommits (env : Env) (rates : List ExchangeRate) : Bool :=
  rates.isEmpty || ((asSecs env.now).any (· < 2 ^ 63)
    && (List.range rates.length).all fun i => !env.faults (.insertExchangeRatesHistory i))

/-- The statements for the rates succeed exactly if the snapshot id can be bound and none of
them fails by itself. -/
theorem insertRates_eq (env : Env) (snapshotId : UInt64) (rates : List ExchangeRate) (i : Nat)
    (db db' : Db) :
    insertRates env snapshotId i db rates = .ok db'
      ↔ (rates = [] ∨ snapshotId < 2 ^ 63)
        ∧ (∀ j < rates.length, env.faults (.insertExchangeRatesHistory (i + j)) = false)
        ∧ db' = { db with
            exchangeRatesHistory := recordRates snapshotId db.exchangeRatesHistory rates } := by
  induction rates generalizing i db with
  | nil =>
      constructor
      · intro h
        exact ⟨Or.inl rfl, by simp, (Except.ok.inj h).symm⟩
      · rintro ⟨-, -, rfl⟩
        rfl
  | cons rate rates ih =>
      -- the statement of the first rate, then those of the others
      simp only [insertRates, bind_eq_ok, bindU64, execute, List.all_cons, List.all_nil,
        Bool.and_true, decide_eq_true_eq]
      constructor
      · rintro ⟨_, hbind, _, hexec, hrest⟩
        have hid : snapshotId < 2 ^ 63 := by
          by_contra hid
          rw [if_neg hid] at hbind
          cases hbind
        have hfault : env.faults (.insertExchangeRatesHistory i) = false := by
          by_contra hfault
          rw [if_pos (by simpa using hfault)] at hexec
          cases hexec
        obtain ⟨-, hfaults, hdb⟩ := (ih (i + 1) _).mp hrest
        refine ⟨Or.inr hid, ?_, hdb⟩
        intro j hj
        cases j with
        | zero => exact hfault
        | succ j =>
            have := hfaults j (by simpa using hj)
            rwa [show i + (j + 1) = i + 1 + j by omega]
      · rintro ⟨hid, hfaults, hdb⟩
        have hid' : snapshotId < 2 ^ 63 := hid.resolve_left (List.cons_ne_nil _ _)
        have hfault : env.faults (.insertExchangeRatesHistory i) = false :=
          hfaults 0 (by simp)
        refine ⟨(), by rw [if_pos hid'], (), by rw [hfault]; rfl, ?_⟩
        refine (ih (i + 1) _).mpr ⟨Or.inr hid', ?_, hdb⟩
        intro j hj
        have := hfaults (j + 1) (by simpa using hj)
        rwa [show i + 1 + j = i + (j + 1) by omega]

/-- The history after the rates of a call are stored. -/
def recordSnapshot (now : SystemTime) (history : KeyedTable ExchangeRatesHistoryRow.key)
    (rates : List ExchangeRate) : KeyedTable ExchangeRatesHistoryRow.key :=
  match snapshotOf now rates with
  | none => history
  | some snapshotId => recordRates snapshotId history rates

theorem insertExchangeRateSnapshot_eq (env : Env) (db : Db) (rates : List ExchangeRate)
    (result : Db × Option UInt64) :
    insertExchangeRateSnapshot env db rates = .ok result
      ↔ snapshotCommits env rates = true
        ∧ result =
          ({ db with
              exchangeRatesHistory := recordSnapshot env.now db.exchangeRatesHistory rates },
            snapshotOf env.now rates) := by
  unfold insertExchangeRateSnapshot snapshotCommits recordSnapshot snapshotOf
  by_cases hempty : rates.isEmpty
  · simp [hempty, eq_comm]
  · have hne : rates ≠ [] := by simpa using hempty
    simp only [hempty, Bool.false_eq_true, if_false, Bool.false_or]
    cases asSecs env.now with
    | none => simp
    | some snapshotId =>
        simp only [bind_eq_ok, insertRates_eq, Option.any_some, Bool.and_eq_true,
          decide_eq_true_eq, List.all_eq_true, List.mem_range, Bool.not_eq_eq_eq_not,
          Bool.not_true, hne, false_or, zero_add, Except.ok.injEq]
        constructor
        -- the id is only bound where there are rates, which `hne` ensures
        · rintro ⟨_, ⟨hid, hfaults, rfl⟩, rfl⟩
          exact ⟨⟨hid, hfaults⟩, rfl⟩
        · rintro ⟨⟨hid, hfaults⟩, rfl⟩
          exact ⟨_, ⟨hid, hfaults, rfl⟩, rfl⟩

/-! ## The transaction -/

/-- No statement for the offer fails and its values are `i64`s. -/
def offerCommits (env : Env) : Option Offer → Bool
  | none => true
  | some offer => (offer.topupValueMinorUnits :: offer.exchangeFeeMinorUnits
      :: offer.topupValueSats.toList).all (· < 2 ^ 63) && !env.faults .insertOffer

/-- The transaction of `store_payment_info` is committed. -/
def commits (env : Env) (rates : List ExchangeRate) (offer : Option Offer) : Bool :=
  !env.faults .beginTransaction && snapshotCommits env rates && !env.faults .insertPayment
    && offerCommits env offer && !env.faults .commit

/-- The offers after the offer of a call is stored. -/
def recordOffer (offers : KeyedTable OfferRow.paymentHash) (paymentHash : String) :
    Option Offer → KeyedTable OfferRow.paymentHash
  | none => offers
  | some offer => offers.insertReplace (offerRow paymentHash offer)

/-- The db after the commit. -/
def recordPayment (now : SystemTime) (db : Db) (paymentHash : String)
    (userPreferences : UserPreferences) (rates : List ExchangeRate) (offer : Option Offer)
    (receivedOn receivedLnurlComment : Option String) : Db :=
  { db with
    payments := db.payments.insertReplace (paymentRow paymentHash userPreferences
      (snapshotOf now rates) receivedOn receivedLnurlComment)
    exchangeRatesHistory := recordSnapshot now db.exchangeRatesHistory rates
    offers := recordOffer db.offers paymentHash offer }

theorem insertOffer_eq (env : Env) (db db' : Db) (paymentHash : String) (offer : Option Offer) :
    insertOffer env db paymentHash offer = .ok db'
      ↔ offerCommits env offer = true
        ∧ db' = { db with offers := recordOffer db.offers paymentHash offer } := by
  cases offer with
  | none =>
      constructor
      · intro h
        exact ⟨rfl, (Except.ok.inj h).symm⟩
      · rintro ⟨-, rfl⟩
        rfl
  | some offer =>
      simp only [insertOffer, offerCommits, recordOffer, bind_eq_ok, bindU64, execute,
        Bool.and_eq_true, Bool.not_eq_eq_eq_not, Bool.not_true]
      constructor
      · rintro ⟨_, hbind, _, hexec, hdb⟩
        refine ⟨⟨?_, ?_⟩, (Except.ok.inj hdb).symm⟩
        · by_contra hbad
          rw [if_neg hbad] at hbind
          cases hbind
        · by_contra hbad
          rw [if_pos (by simpa using hbad)] at hexec
          cases hexec
      · rintro ⟨⟨hall, hfault⟩, rfl⟩
        exact ⟨(), by rw [if_pos hall], (), by rw [hfault]; rfl, rfl⟩

/-- A statement that only fails by itself. -/
theorem execute_eq_ok (env : Env) (statement : Statement) (error : Error RuntimeErrorCode)
    (u : Unit) : execute env statement error = .ok u ↔ env.faults statement = false := by
  unfold execute
  cases env.faults statement <;> simp

/-- The snapshot id that was bound for the rates is bound again for the payment. -/
theorem bindU64_snapshotOf {env : Env} {rates : List ExchangeRate}
    (h : snapshotCommits env rates = true) (error : Error RuntimeErrorCode) :
    bindU64 (snapshotOf env.now rates).toList error = .ok () := by
  unfold snapshotCommits at h
  unfold snapshotOf bindU64
  by_cases hempty : rates.isEmpty
  · simp [hempty]
  · simp only [hempty, Bool.false_or, Bool.and_eq_true, Option.any_eq_true] at h
    obtain ⟨⟨id, hid, hlt⟩, -⟩ := h
    have hlt' : id < 2 ^ 63 := by simpa using hlt
    simp [hempty, hid, hlt']

/-- **The transaction of `store_payment_info`**: it succeeds exactly if `commits` says so, and
then leaves `recordPayment` behind. -/
theorem storePaymentInfoTx_eq (env : Env) (db db' : Db) (paymentHash : String)
    (userPreferences : UserPreferences) (rates : List ExchangeRate) (offer : Option Offer)
    (receivedOn receivedLnurlComment : Option String) :
    storePaymentInfoTx env db paymentHash userPreferences rates offer receivedOn
        receivedLnurlComment = .ok db'
      ↔ commits env rates offer = true
        ∧ db' = recordPayment env.now db paymentHash userPreferences rates offer receivedOn
            receivedLnurlComment := by
  unfold storePaymentInfoTx commits recordPayment
  simp only [bind_eq_ok, execute_eq_ok, insertExchangeRateSnapshot_eq, insertOffer_eq,
    Bool.and_eq_true, Bool.not_eq_eq_eq_not, Bool.not_true]
  constructor
  · rintro ⟨_, hbegin, _, ⟨hsnap, rfl⟩, _, -, _, hpay, _, ⟨hoffer, rfl⟩, _, hcommit, hdb⟩
    exact ⟨⟨⟨⟨⟨hbegin, hsnap⟩, hpay⟩, hoffer⟩, hcommit⟩, (Except.ok.inj hdb).symm⟩
  · rintro ⟨⟨⟨⟨⟨hbegin, hsnap⟩, hpay⟩, hoffer⟩, hcommit⟩, rfl⟩
    exact ⟨(), hbegin, _, ⟨hsnap, rfl⟩, (), bindU64_snapshotOf hsnap _, (), hpay, _,
      ⟨hoffer, rfl⟩, (), hcommit, rfl⟩

theorem storePaymentInfo_succeeded (self : DataStore) (env : Env) (paymentHash : String)
    (userPreferences : UserPreferences) (rates : List ExchangeRate) (offer : Option Offer)
    (receivedOn receivedLnurlComment : Option String) :
    succeeded (self.storePaymentInfo env paymentHash userPreferences rates offer receivedOn
        receivedLnurlComment).1 = commits env rates offer := by
  unfold storePaymentInfo
  rw [waitThen_fst_ok, Bool.eq_iff_iff, succeeded_iff]
  simp [storePaymentInfoTx_eq]

/-- The db after a call of `store_payment_info`. -/
theorem storePaymentInfo_conn (self : DataStore) (env : Env) (paymentHash : String)
    (userPreferences : UserPreferences) (rates : List ExchangeRate) (offer : Option Offer)
    (receivedOn receivedLnurlComment : Option String) :
    (self.storePaymentInfo env paymentHash userPreferences rates offer receivedOn
        receivedLnurlComment).2.conn
      = if commits env rates offer then
          recordPayment env.now self.conn paymentHash userPreferences rates offer receivedOn
            receivedLnurlComment
        else self.conn := by
  unfold storePaymentInfo
  rw [waitThen_conn]
  cases htx : storePaymentInfoTx env self.conn paymentHash userPreferences rates offer receivedOn
      receivedLnurlComment with
  | ok db =>
      obtain ⟨hcommits, hdb⟩ := (storePaymentInfoTx_eq ..).mp htx
      rw [if_pos hcommits]
      exact hdb
  | error e =>
      have hcommits : ¬ commits env rates offer = true := by
        intro hcommits
        rw [(storePaymentInfoTx_eq ..).mpr ⟨hcommits, rfl⟩] at htx
        cases htx
      rw [if_neg hcommits]

/-! ## The personal note -/

/-- The statements of `update_personal_note` succeed on a payment that is stored already
(`known`) or not. -/
def noteCommits (env : Env) (known : Bool) : Bool :=
  !env.faults .updatePersonalNote && (known || !env.faults .insertPersonalNote)

/-- The db after a note is updated. -/
def recordNote (db : Db) (paymentHash : String) (personalNote : Option String) : Db :=
  if (db.payments.lookup paymentHash).isSome then setNote db paymentHash personalNote
  else { db with payments := db.payments.insertReplace (noteRow paymentHash personalNote) }

/-- The db after a call of `update_personal_note`. -/
theorem updatePersonalNote_conn (self : DataStore) (env : Env) (paymentHash : String)
    (personalNote : Option String) :
    (self.updatePersonalNote env paymentHash personalNote).2.conn
      = if noteCommits env (self.conn.payments.lookup paymentHash).isSome then
          recordNote self.conn paymentHash personalNote
        else self.conn := by
  unfold updatePersonalNote noteCommits recordNote execute
  rw [waitThen_conn]
  cases env.faults .updatePersonalNote with
  | true => rfl
  | false =>
      cases hknown : (self.conn.payments.lookup paymentHash).isSome with
      | true => rfl
      | false => cases env.faults .insertPersonalNote <;> rfl

theorem updatePersonalNote_succeeded (self : DataStore) (env : Env) (paymentHash : String)
    (personalNote : Option String) :
    succeeded (self.updatePersonalNote env paymentHash personalNote).1
      = noteCommits env (self.conn.payments.lookup paymentHash).isSome := by
  unfold updatePersonalNote noteCommits execute
  rw [waitThen_fst_ok]
  cases env.faults .updatePersonalNote with
  | true => rfl
  | false =>
      cases hknown : (self.conn.payments.lookup paymentHash).isSome with
      | true => rfl
      | false => cases env.faults .insertPersonalNote <;> rfl

/-- The row of a payment after its note is updated. -/
def withNote (row : Option PaymentRow) (paymentHash : String) (personalNote : Option String) :
    PaymentRow :=
  { row.getD (noteRow paymentHash none) with personalNote := personalNote }

/-- A note update changes the note of its payment and nothing else. -/
theorem lookup_recordNote (db : Db) (paymentHash : String) (personalNote : Option String)
    (k : String) :
    (recordNote db paymentHash personalNote).payments.lookup k
      = if paymentHash = k then some (withNote (db.payments.lookup k) k personalNote)
        else db.payments.lookup k := by
  unfold recordNote
  cases hrow : db.payments.lookup paymentHash with
  | none =>
      by_cases hk : paymentHash = k
      · subst hk
        simp [noteRow, withNote, hrow]
      · simp [noteRow, hk]
  | some row =>
      by_cases hk : paymentHash = k
      · subst hk
        simp [setNote, withNote, hrow]
      · simp [setNote, hk]

theorem recordNote_offers (db : Db) (paymentHash : String) (personalNote : Option String) :
    (recordNote db paymentHash personalNote).offers = db.offers := by
  unfold recordNote
  split <;> rfl

theorem recordNote_createdInvoices (db : Db) (paymentHash : String)
    (personalNote : Option String) :
    (recordNote db paymentHash personalNote).createdInvoices = db.createdInvoices := by
  unfold recordNote
  split <;> rfl

/-! ## Created invoices -/

/-- The `INSERT` of a created invoice succeeds: its values are `i64`s and it does not fail by
itself. -/
def invoiceCommits (env : Env) (channelOpeningFees : Option UInt64)
    (invoiceExpiryTimestamp : UInt64) : Bool :=
  (invoiceExpiryTimestamp :: channelOpeningFees.toList).all (· < 2 ^ 63)
    && !env.faults .insertCreatedInvoice

/-- The db after a created invoice is stored. -/
def recordInvoice (db : Db) (hash invoice : String) (channelOpeningFees : Option UInt64)
    (invoiceExpiryTimestamp : UInt64) : Db :=
  { db with createdInvoices := db.createdInvoices
      ++ [⟨integerAffinity hash, invoice, channelOpeningFees, invoiceExpiryTimestamp⟩] }

/-- The statement of `store_created_invoice`. -/
theorem storeCreatedInvoice_sql (env : Env) (db : Db) (params : List UInt64)
    (error : Error RuntimeErrorCode) :
    (do
      bindU64 params error
      execute env .insertCreatedInvoice error
      .ok db : Result Db)
      = if params.all (· < 2 ^ 63) && !env.faults .insertCreatedInvoice then .ok db
        else .error error := by
  unfold bindU64 execute
  cases params.all (· < 2 ^ 63) with
  | false => rfl
  | true => cases env.faults .insertCreatedInvoice <;> rfl

theorem storeCreatedInvoice_succeeded (self : DataStore) (env : Env) (hash invoice : String)
    (channelOpeningFees : Option UInt64) (invoiceExpiryTimestamp : UInt64) :
    succeeded (self.storeCreatedInvoice env hash invoice channelOpeningFees
        invoiceExpiryTimestamp).1
      = invoiceCommits env channelOpeningFees invoiceExpiryTimestamp := by
  unfold storeCreatedInvoice invoiceCommits
  rw [waitThen_fst_ok]
  dsimp only
  rw [storeCreatedInvoice_sql]
  split
  · next h => exact h.symm
  · next h => exact (Bool.eq_false_iff.mpr h).symm

/-- The db after a call of `store_created_invoice`. -/
theorem storeCreatedInvoice_conn (self : DataStore) (env : Env) (hash invoice : String)
    (channelOpeningFees : Option UInt64) (invoiceExpiryTimestamp : UInt64) :
    (self.storeCreatedInvoice env hash invoice channelOpeningFees invoiceExpiryTimestamp).2.conn
      = if invoiceCommits env channelOpeningFees invoiceExpiryTimestamp then
          recordInvoice self.conn hash invoice channelOpeningFees invoiceExpiryTimestamp
        else self.conn := by
  unfold storeCreatedInvoice invoiceCommits
  rw [waitThen_conn]
  dsimp only
  rw [storeCreatedInvoice_sql]
  split
  · next h => split at h <;> simp_all [recordInvoice]
  · next h => split at h <;> simp_all

/-! ## What a stored payment reads as -/

@[simp] theorem lookup_recordPayment (now : SystemTime) (db : Db) (paymentHash : String)
    (userPreferences : UserPreferences) (rates : List ExchangeRate) (offer : Option Offer)
    (receivedOn receivedLnurlComment : Option String) (k : String) :
    (recordPayment now db paymentHash userPreferences rates offer receivedOn
        receivedLnurlComment).payments.lookup k
      = if paymentHash = k then
          some (paymentRow paymentHash userPreferences (snapshotOf now rates) receivedOn
            receivedLnurlComment)
        else db.payments.lookup k := by
  simp [recordPayment, paymentRow]

theorem lookup_recordOffer (offers : KeyedTable OfferRow.paymentHash) (paymentHash : String)
    (offer : Option Offer) (k : String) :
    (recordOffer offers paymentHash offer).lookup k
      = if paymentHash = k then (offer.map (offerRow paymentHash)).or (offers.lookup k)
        else offers.lookup k := by
  cases offer with
  | none => simp [recordOffer]
  | some offer =>
      by_cases hk : paymentHash = k
      · simp [recordOffer, offerRow, hk]
      · simp [recordOffer, offerRow, hk]

end DataStore

end LipaLightning
