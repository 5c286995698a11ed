import LipaLightning.DataStore.Frames

set_option autoImplicit false

/-! # What the tables promise each other

The schema has no foreign keys and no checks. What the readers of the data store rely on is kept by
its operations: an offer belongs to a payment whose preferences are known, a snapshot has rates,
every number that was bound is an `i64`, and every status is one that is read back.

`integrity_step` is for one call, whichever of its statements fail, and `Integrity.reads` says which
reads cannot fail for what is stored.
-/

namespace LipaLightning

open DataStore

/-- The payments, the history of rates and the offers fit together. -/
structure PaymentsIntact (payments : KeyedTable PaymentRow.hash)
    (history : KeyedTable ExchangeRatesHistoryRow.key)
    (offers : KeyedTable OfferRow.paymentHash) : Prop where
  offers_paid : ∀ hash offer, offers.lookup hash = some offer →
    ∃ row, payments.lookup hash = some row ∧ (userPreferencesFromRow row).isSome
  offers_bound : ∀ hash offer, offers.lookup hash = some offer →
    offer.topupValueMinorUnits < 2 ^ 63 ∧ offer.exchangeFeeMinorUnits < 2 ^ 63
      ∧ ∀ sats, offer.topupValueSats = some sats → sats < 2 ^ 63
  snapshots_rated : ∀ hash row id, payments.lookup hash = some row →
    row.exchangeRatesHistorySnapshotId = some id →
    (userPreferencesFromRow row).isSome ∧ ∃ currency, (history.lookup (id, currency)).isSome

structure Integrity (db : Db) : Prop where
  payments : PaymentsIntact db.payments db.exchangeRatesHistory db.offers
  invoices : ∀ row ∈ db.createdInvoices, row.invoiceExpiryTimestamp < 2 ^ 63
    ∧ ∀ fees, row.channelOpeningFees = some fees → fees < 2 ^ 63
  analytics : db.analyticsConfig ≠ []
    ∧ ∀ n ∈ db.analyticsConfig, (AnalyticsConfig.tryFrom n).isSome
  addresses : ∀ row ∈ db.lightningAddresses.rows, (EnableStatus.tryFrom row.enableStatus).isSome
  hiddenAmounts : ∀ amount ∈ db.hiddenChannelCloseAmount, amount < 2 ^ 63

theorem integrity_migrated : Integrity Db.migrated where
  payments := ⟨(fun _ _ h => nomatch h), (fun _ _ h => nomatch h), (fun _ _ _ h => nomatch h)⟩
  invoices _ h := nomatch h
  analytics := by
    refine ⟨List.cons_ne_nil _ _, ?_⟩
    intro n h
    obtain rfl := List.mem_singleton.mp h
    rfl
  addresses _ h := nomatch h
  hiddenAmounts _ h := nomatch h

theorem AnalyticsConfig.tryFrom_toU8 (config : AnalyticsConfig) :
    AnalyticsConfig.tryFrom config.toU8 = some config := by
  cases config <;> rfl

theorem EnableStatus.tryFrom_toU8 (status : EnableStatus) :
    EnableStatus.tryFrom status.toU8 = some status := by
  cases status <;> rfl

namespace PaymentsIntact

variable {payments : KeyedTable PaymentRow.hash}
  {history : KeyedTable ExchangeRatesHistoryRow.key} {offers : KeyedTable OfferRow.paymentHash}

theorem lookup_recordSnapshot (now : SystemTime) (rates : List ExchangeRate)
    {k : UInt64 × String} (h : (history.lookup k).isSome) :
    ((recordSnapshot now history rates).lookup k).isSome := by
  unfold recordSnapshot
  split
  · exact h
  · rw [lookup_recordRates, Option.isSome_or, h, Bool.true_or]

/-- A snapshot that was taken has the rates it was taken of. -/
theorem recordSnapshot_rated {now : SystemTime} {rates : List ExchangeRate} {id : UInt64}
    (h : snapshotOf now rates = some id) :
    ∃ currency, ((recordSnapshot now history rates).lookup (id, currency)).isSome := by
  cases rates with
  | nil => cases h
  | cons rate rates =>
      refine ⟨rate.currencyCode, ?_⟩
      unfold recordSnapshot
      rw [h]
      show ((recordRates id history (rate :: rates)).lookup (id, rate.currencyCode)).isSome
      rw [lookup_recordRates, Option.isSome_or, List.find?_cons_of_pos (by simp)]
      simp

/-- Storing a payment keeps the tables intact, with an offer and without. -/
theorem storePayment (h : PaymentsIntact payments history offers) {env : Env} (hash : String)
    (prefs : UserPreferences) {rates : List ExchangeRate} {offer : Option Offer}
    (receivedOn comment : Option String) (hcommits : commits env rates offer = true) :
    PaymentsIntact
      (payments.insertReplace (paymentRow hash prefs (snapshotOf env.now rates) receivedOn comment))
      (recordSnapshot env.now history rates) (recordOffer offers hash offer) where
  offers_paid k o ho := by
    rw [KeyedTable.lookup_insertReplace]
    by_cases hk : (paymentRow hash prefs (snapshotOf env.now rates) receivedOn comment).hash = k
    · rw [if_pos hk]
      exact ⟨_, rfl, rfl⟩
    · have hne : ¬ hash = k := hk
      rw [if_neg hk]
      rw [lookup_recordOffer, if_neg hne] at ho
      exact h.offers_paid k o ho
  offers_bound k o ho := by
    rw [lookup_recordOffer] at ho
    by_cases hk : hash = k
    · rw [if_pos hk] at ho
      cases offer with
      | none => exact h.offers_bound k o ho
      | some offer =>
          obtain rfl : offerRow hash offer = o := Option.some.inj ho
          have hbound : offerCommits env (some offer) = true := by
            simp only [commits, Bool.and_eq_true] at hcommits
            exact hcommits.1.2
          simp only [offerCommits, Bool.and_eq_true, List.all_cons, List.all_eq_true,
            decide_eq_true_eq, Option.mem_toList] at hbound
          exact ⟨hbound.1.1, hbound.1.2.1, fun sats hsats => hbound.1.2.2 sats hsats⟩
    · rw [if_neg hk] at ho
      exact h.offers_bound k o ho
  snapshots_rated k row id hrow hid := by
    rw [KeyedTable.lookup_insertReplace] at hrow
    split at hrow
    · obtain rfl := Option.some.inj hrow
      exact ⟨rfl, recordSnapshot_rated hid⟩
    · obtain ⟨hprefs, currency, hrated⟩ := h.snapshots_rated k row id hrow hid
      exact ⟨hprefs, currency, lookup_recordSnapshot env.now rates hrated⟩

/-- A note is written into the row of its payment. -/
theorem setNote (h : PaymentsIntact payments history offers) (hash : String)
    (note : Option String) :
    PaymentsIntact (payments.modify hash (fun r => { r with personalNote := note }) fun _ => rfl)
      history offers := by
  have hlookup (k : String) (row : PaymentRow)
      (hrow : (payments.modify hash (fun r => { r with personalNote := note })
        fun _ => rfl).lookup k = some row) :
      ∃ before, payments.lookup k = some before
        ∧ userPreferencesFromRow row = userPreferencesFromRow before
        ∧ row.exchangeRatesHistorySnapshotId = before.exchangeRatesHistorySnapshotId := by
    rw [KeyedTable.lookup_modify] at hrow
    split at hrow
    · obtain ⟨before, hbefore, rfl⟩ := Option.map_eq_some_iff.mp hrow
      exact ⟨before, hbefore, rfl, rfl⟩
    · exact ⟨row, hrow, rfl, rfl⟩
  refine ⟨fun k offer hoffer => ?_, h.offers_bound, fun k row id hrow hid => ?_⟩
  · obtain ⟨row, hrow, hprefs⟩ := h.offers_paid k offer hoffer
    rw [KeyedTable.lookup_modify, hrow]
    split
    · exact ⟨_, rfl, hprefs⟩
    · exact ⟨row, rfl, hprefs⟩
  · obtain ⟨before, hbefore, hprefs, hsnapshot⟩ := hlookup k row hrow
    rw [hprefs]
    exact h.snapshots_rated k before id hbefore (hsnapshot ▸ hid)

/-- A note on a payment that is not stored gets a row of its own, which no offer belongs to. -/
theorem insertNote (h : PaymentsIntact payments history offers) {hash : String}
    (hnone : payments.lookup hash = none) (note : Option String) :
    PaymentsIntact (payments.insertReplace (noteRow hash note)) history offers := by
  refine ⟨fun k offer hoffer => ?_, h.offers_bound, fun k row id hrow hid => ?_⟩
  · obtain ⟨row, hrow, hprefs⟩ := h.offers_paid k offer hoffer
    have hk : (noteRow hash note).hash ≠ k := by
      rintro rfl
      exact nomatch hnone.symm.trans hrow
    rw [KeyedTable.lookup_insertReplace, if_neg hk]
    exact ⟨row, hrow, hprefs⟩
  · rw [KeyedTable.lookup_insertReplace] at hrow
    split at hrow
    · obtain rfl := Option.some.inj hrow
      cases hid
    · exact h.snapshots_rated k row id hrow hid

end PaymentsIntact

/-! ## One call -/

/-- The db after an operation that sets the status first: unchanged, or what its SQL returns. -/
theorem waitThen_cases {P : Db → Prop} {self : DataStore} {sql : Result Db} (same : P self.conn)
    (done : ∀ db, sql = .ok db → P db) : P (self.waitThen sql).2.conn := by
  rw [DataStore.waitThen_conn]
  cases h : sql with
  | ok db => exact done db h
  | error e => exact same

theorem bindU64_cons_ok {x : UInt64} {xs : List UInt64} {error : Error RuntimeErrorCode}
    {u : Unit} (h : bindU64 (x :: xs) error = .ok u) : x < 2 ^ 63 ∧ ∀ y ∈ xs, y < 2 ^ 63 := by
  unfold bindU64 at h
  split at h
  · next hall =>
    simpa only [List.all_cons, Bool.and_eq_true, List.all_eq_true, decide_eq_true_eq] using hall
  · cases h

/-- **The operations keep the db intact**, whichever of their statements fail. -/
theorem integrity_step {db : Db} (h : Integrity db) (call : Call) : Integrity (call.step db) := by
  have hframe := call.step_frame db
  obtain ⟨op, env⟩ := call
  cases op with
  | storePaymentInfo hash prefs rates offer receivedOn comment =>
      simp only [Call.step, Operation.after, Operation.call, storePaymentInfo_conn]
      split
      · next hcommits =>
        exact { h with payments := h.payments.storePayment hash prefs receivedOn comment hcommits }
      · exact h
  | updatePersonalNote hash note =>
      simp only [Call.step, Operation.after, Operation.call, updatePersonalNote_conn]
      split
      · unfold recordNote
        split
        · exact { h with payments := h.payments.setNote hash note }
        · next hnone =>
          have hlookup : db.payments.lookup hash = none := Option.not_isSome_iff_eq_none.mp hnone
          exact { h with payments := h.payments.insertNote hlookup note }
      · exact h
  | storeCreatedInvoice hash invoice fees expiry =>
      simp only [Call.step, Operation.after, Operation.call, storeCreatedInvoice_conn]
      split
      · next hcommits =>
        simp only [invoiceCommits, Bool.and_eq_true, List.all_cons, List.all_eq_true,
          decide_eq_true_eq, Option.mem_toList] at hcommits
        refine { h with invoices := fun row hrow => ?_ }
        rcases List.mem_append.mp hrow with hrow | hrow
        · exact h.invoices row hrow
        · obtain rfl := List.mem_singleton.mp hrow
          exact ⟨hcommits.1.1, fun f hf => hcommits.1.2 f hf⟩
      · exact h
  | appendAnalyticsConfig config =>
      refine waitThen_cases (P := Integrity) h fun db' hdb => ?_
      obtain ⟨_, -, hdb⟩ := bind_eq_ok.mp hdb
      obtain rfl := Except.ok.inj hdb
      refine { h with analytics := ⟨by simp, fun n hn => ?_⟩ }
      rcases List.mem_append.mp hn with hn | hn
      · exact h.analytics.2 n hn
      · rw [List.mem_singleton.mp hn, AnalyticsConfig.tryFrom_toU8]
        rfl
  | storeHiddenChannelCloseOnchainFundsAmountSat amount =>
      simp only [Call.step, Operation.after, Operation.call,
        storeHiddenChannelCloseOnchainFundsAmountSat]
      refine waitThen_cases (P := Integrity) h fun db' hdb => ?_
      obtain ⟨_, hbound, hdb⟩ := bind_eq_ok.mp hdb
      obtain ⟨_, -, hdb⟩ := bind_eq_ok.mp hdb
      obtain rfl := Except.ok.inj hdb
      refine { h with hiddenAmounts := fun a ha => ?_ }
      rcases List.mem_append.mp ha with ha | ha
      · exact h.hiddenAmounts a ha
      · rw [List.mem_singleton.mp ha]
        exact (bindU64_cons_ok hbound).1
  | storeLightningAddress address =>
      simp only [Call.step, Operation.after, Operation.call, storeLightningAddress]
      split
      · exact h
      · refine { h with addresses := fun row hrow => ?_ }
        rcases (KeyedTable.mem_insertReplace _ _ _).mp hrow with rfl | ⟨hrow, -⟩
        · rfl
        · exact h.addresses row hrow
  | updateLightningAddress address status =>
      simp only [Call.step, Operation.after, Operation.call, updateLightningAddress]
      split
      · exact h
      · refine { h with addresses := fun row hrow => ?_ }
        obtain ⟨before, hbefore, rfl⟩ := List.mem_map.mp hrow
        split
        · show (EnableStatus.tryFrom status.toU8).isSome
          rw [EnableStatus.tryFrom_toU8]
          rfl
        · exact h.addresses before hbefore
  | updateExchangeRate code rate updatedAt =>
      obtain ⟨_, hdb⟩ := hframe
      rw [hdb]
      exact { h with }
  | storeFiatTopupInfo info =>
      obtain ⟨_, hdb⟩ := hframe
      rw [hdb]
      exact { h with }
  | clearFiatTopupInfo =>
      obtain ⟨_, hdb⟩ := hframe
      rw [hdb]
      exact { h with }
  | storeHiddenUnresolvedFailedSwap address =>
      obtain ⟨_, hdb⟩ := hframe
      rw [hdb]
      exact { h with }
  | storeSelectedFiatCurrency currency =>
      obtain ⟨_, hdb⟩ := hframe
      rw [hdb]
      exact { h with }

/-! ## What is read -/

/-- What is stored is no reason for a read to fail, and an offer is read with the preferences its
payment was stored with. -/
structure Reads (dataStore : DataStore) : Prop where
  analytics : ∀ env : Env, env.faults .selectAnalyticsConfig = false →
    ∃ config, dataStore.retrieveAnalyticsConfig env = .ok config
  addresses : ∃ addresses, dataStore.retrieveLightningAddresses = .ok addresses
    ∧ ∀ address, (∃ status, (address, status) ∈ addresses)
        ↔ (dataStore.conn.lightningAddresses.lookup address).isSome
  offers : ∀ hash data, dataStore.retrievePaymentInfo hash = some data →
    data.offer.isSome → data.userPreferences.isSome

theorem Integrity.reads_analytics {self : DataStore} (h : Integrity self.conn) {env : Env}
    (hfault : env.faults .selectAnalyticsConfig = false) :
    ∃ config, self.retrieveAnalyticsConfig env = .ok config := by
  obtain ⟨hne, hall⟩ := h.analytics
  have hlast : self.conn.analyticsConfig.getLast? = some (self.conn.analyticsConfig.getLast hne) :=
    List.getLast?_eq_some_getLast hne
  obtain ⟨config, hconfig⟩ := Option.isSome_iff_exists.mp
    (hall _ (List.getLast_mem hne))
  refine ⟨config, ?_⟩
  unfold retrieveAnalyticsConfig execute
  rw [hfault, hlast, Option.bind_some, hconfig]
  rfl

theorem Integrity.reads_addresses {self : DataStore} (h : Integrity self.conn) :
    ∃ addresses, self.retrieveLightningAddresses = .ok addresses
      ∧ ∀ address, (∃ status, (address, status) ∈ addresses)
          ↔ (self.conn.lightningAddresses.lookup address).isSome := by
  let sorted := self.conn.lightningAddresses.rows.insertionSort
    fun a b => a.registeredAt ≤ b.registeredAt
  let statusOf : LightningAddressRow → EnableStatus := fun row =>
    (EnableStatus.tryFrom row.enableStatus).getD .enabled
  have hread : self.retrieveLightningAddresses
      = .ok (sorted.map fun row => (row.address, statusOf row)) := by
    refine mapM_ok fun row hrow => ?_
    have hmem := (List.mem_insertionSort _).mp hrow
    obtain ⟨status, hstatus⟩ := Option.isSome_iff_exists.mp (h.addresses row hmem)
    simp only [statusOf, hstatus, Option.getD_some]
  refine ⟨_, hread, fun address => ?_⟩
  rw [KeyedTable.lookup_isSome, List.mem_map]
  constructor
  · rintro ⟨status, hmem⟩
    obtain ⟨row, hrow, heq⟩ := List.mem_map.mp hmem
    exact ⟨row, (List.mem_insertionSort _).mp hrow, congrArg Prod.fst heq⟩
  · rintro ⟨row, hrow, rfl⟩
    exact ⟨statusOf row, List.mem_map.mpr ⟨row, (List.mem_insertionSort _).mpr hrow, rfl⟩⟩

theorem Integrity.reads {self : DataStore} (h : Integrity self.conn) : Reads self where
  analytics _ hfault := h.reads_analytics hfault
  addresses := h.reads_addresses
  offers hash data hdata hoffer := by
    obtain ⟨row, hrow, rfl⟩ := Option.map_eq_some_iff.mp hdata
    have hkey : row.hash = hash := KeyedTable.lookup_key hrow
    obtain ⟨o, ho⟩ := Option.isSome_iff_exists.mp hoffer
    obtain ⟨offer, hlookup, -⟩ := Option.map_eq_some_iff.mp ho
    rw [hkey] at hlookup
    obtain ⟨row', hrow', hprefs⟩ := h.payments.offers_paid hash offer hlookup
    obtain rfl := Option.some.inj (hrow.symm.trans hrow')
    exact hprefs

end LipaLightning
