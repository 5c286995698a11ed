import LipaLightning.Basic.Runs
import LipaLightning.DataStore.Payments

set_option autoImplicit false

/-! # The exchange rate of a payment

`store_payment_info` stores the rates it is given as a snapshot, and `retrieve_payment_info`
joins a payment with the rate of its fiat currency in its snapshot. The id of a snapshot is
the second it is stored in, so two calls in one second share a snapshot, in which the rate of
a currency that is already there is kept and a rate of a new currency is added.

`ratesKept_iff` says for which runs this makes no difference: each call finds no other rate
for its currency in its second, and adds no rate for the currency of a payment stored in that
second without one.
-/

namespace LipaLightning

/-- The rate a list has for a currency. -/
def listedRate (rates : List ExchangeRate) (currency : String) : Option ExchangeRate :=
  rates.find? fun r => r.currencyCode = currency

/-- The rate the history has for a currency in a snapshot. -/
def rateAt (history : KeyedTable ExchangeRatesHistoryRow.key) (snapshotId : UInt64)
    (currency : String) : Option ExchangeRate :=
  (history.lookup (snapshotId, currency)).map fun h => ⟨h.fiatCurrency, h.rate, h.updatedAt⟩

/-- Storing rates adds to their snapshot what it does not have yet. -/
theorem rateAt_recordSnapshot (now : SystemTime)
    (history : KeyedTable ExchangeRatesHistoryRow.key) (rates : List ExchangeRate)
    (snapshotId : UInt64) (currency : String) :
    rateAt (DataStore.recordSnapshot now history rates) snapshotId currency
      = if DataStore.snapshotOf now rates = some snapshotId then
          (rateAt history snapshotId currency).or (listedRate rates currency)
        else rateAt history snapshotId currency := by
  unfold DataStore.recordSnapshot
  cases hsnapshot : DataStore.snapshotOf now rates with
  | none => simp
  | some id =>
      by_cases hid : id = snapshotId
      · subst hid
        have hrow : (fun h : ExchangeRatesHistoryRow =>
              (⟨h.fiatCurrency, h.rate, h.updatedAt⟩ : ExchangeRate))
            ∘ (fun r : ExchangeRate =>
              (⟨id, r.currencyCode, r.rate, r.updatedAt⟩ : ExchangeRatesHistoryRow))
            = (fun r => r) :=
          rfl
        simp [rateAt, listedRate, DataStore.lookup_recordRates, Option.map_or, hrow]
      · have hne : (snapshotId, currency).1 ≠ id := Ne.symm hid
        simp [rateAt, DataStore.lookup_recordRates_of_ne history rates hne, hid]

/-! ## Runs of `store_payment_info` -/

/-- A call of `store_payment_info` with at most one rate for each currency. -/
structure PaymentCall where
  env : Env
  paymentHash : String
  userPreferences : UserPreferences
  exchangeRates : List ExchangeRate
  distinct : (exchangeRates.map ExchangeRate.currencyCode).Nodup
  offer : Option Offer
  receivedOn : Option String
  receivedLnurlComment : Option String

namespace PaymentCall

def call (dataStore : DataStore) (c : PaymentCall) : Result Unit × DataStore :=
  dataStore.storePaymentInfo c.env c.paymentHash c.userPreferences c.exchangeRates c.offer
    c.receivedOn c.receivedLnurlComment

def commits (c : PaymentCall) : Bool := DataStore.commits c.env c.exchangeRates c.offer

/-- The second the rates of the call are stored under. -/
def snapshot (c : PaymentCall) : Option UInt64 :=
  DataStore.snapshotOf c.env.now c.exchangeRates

def fiatCurrency (c : PaymentCall) : String := c.userPreferences.fiatCurrency

/-- The row the call inserts. -/
def row (c : PaymentCall) : PaymentRow :=
  DataStore.paymentRow c.paymentHash c.userPreferences c.snapshot c.receivedOn
    c.receivedLnurlComment

end PaymentCall

/-- A data store together with the latest call that stored each payment. -/
structure PricedStore where
  dataStore : DataStore
  latest : String → Option PaymentCall

namespace PricedStore

def start (backupFile : Option Db) : PricedStore := ⟨.new .migrated backupFile, fun _ => none⟩

def step (s : PricedStore) (c : PaymentCall) : PricedStore where
  dataStore := (c.call s.dataStore).2
  latest := fun hash =>
    if succeeded (c.call s.dataStore).1 = true ∧ c.paymentHash = hash then some c
    else s.latest hash

/-- The rate `retrieve_payment_info` returns for a payment. -/
def returnedRate (s : PricedStore) (hash : String) : Option ExchangeRate :=
  (s.dataStore.retrievePaymentInfo hash).bind LocalPaymentData.exchangeRate

/-- The rate for the currency of a payment in the rates it was stored with last. -/
def passedRate (s : PricedStore) (hash : String) : Option ExchangeRate :=
  (s.latest hash).bind fun c => listedRate c.exchangeRates c.fiatCurrency

/-- Every payment is returned with the rate it was stored with. -/
def RatesKept (s : PricedStore) : Prop := ∀ hash, s.returnedRate hash = s.passedRate hash

/-- The call changes what is returned for no other payment. -/
def OthersKept (s : PricedStore) (c : PaymentCall) : Prop :=
  ∀ hash, hash ≠ c.paymentHash →
    (s.step c).dataStore.retrievePaymentInfo hash = s.dataStore.retrievePaymentInfo hash

abbrev history (s : PricedStore) : KeyedTable ExchangeRatesHistoryRow.key :=
  s.dataStore.conn.exchangeRatesHistory

/-- A call that stores rates in a second finds no other rate for its currency there, and has
no rate for the currency of another payment that was stored in this second without one. -/
def KeepsRates (s : PricedStore) (c : PaymentCall) : Prop :=
  c.commits = true → ∀ snapshotId, c.snapshot = some snapshotId →
    (∀ rate, rateAt s.history snapshotId c.fiatCurrency = some rate →
      listedRate c.exchangeRates c.fiatCurrency = some rate)
    ∧ (∀ hash row currency, hash ≠ c.paymentHash →
      s.dataStore.conn.payments.lookup hash = some row →
      row.exchangeRatesHistorySnapshotId = some snapshotId →
      row.fiatCurrency = some currency →
      rateAt s.history snapshotId currency = none →
      listedRate c.exchangeRates currency = none)

/-- The payments table has the rows of the latest calls. -/
def LatestStored (s : PricedStore) : Prop :=
  ∀ hash, s.dataStore.conn.payments.lookup hash = (s.latest hash).map PaymentCall.row

/-! ## One call -/

theorem step_latest (s : PricedStore) (c : PaymentCall) (hash : String) :
    (s.step c).latest hash
      = if c.commits ∧ c.paymentHash = hash then some c else s.latest hash := by
  have h := s.dataStore.storePaymentInfo_succeeded c.env c.paymentHash c.userPreferences
    c.exchangeRates c.offer c.receivedOn c.receivedLnurlComment
  simp only [step, PaymentCall.call, h]
  rfl

theorem step_conn (s : PricedStore) (c : PaymentCall) :
    (s.step c).dataStore.conn
      = if c.commits then
          DataStore.recordPayment c.env.now s.dataStore.conn c.paymentHash c.userPreferences
            c.exchangeRates c.offer c.receivedOn c.receivedLnurlComment
        else s.dataStore.conn :=
  DataStore.storePaymentInfo_conn ..

theorem step_latestStored (s : PricedStore) (c : PaymentCall) (h : s.LatestStored) :
    (s.step c).LatestStored := by
  intro hash
  rw [step_latest, step_conn]
  by_cases hcommits : c.commits = true
  · rw [if_pos hcommits, DataStore.lookup_recordPayment]
    by_cases hhash : c.paymentHash = hash
    · rw [if_pos hhash, if_pos ⟨hcommits, hhash⟩]
      rfl
    · rw [if_neg hhash, if_neg (fun hc => hhash hc.2), h hash]
  · rw [if_neg hcommits, if_neg (fun hc => hcommits hc.1), h hash]

/-- The rate returned for a payment is the one the history has in its snapshot. -/
theorem returnedRate_eq {s : PricedStore} (h : s.LatestStored) (hash : String) :
    s.returnedRate hash = (s.latest hash).bind fun c =>
      c.snapshot.bind fun snapshotId => rateAt s.history snapshotId c.fiatCurrency := by
  unfold returnedRate DataStore.retrievePaymentInfo
  rw [h hash]
  cases s.latest hash with
  | none => rfl
  | some c =>
      simp only [Option.map_some, Option.bind_some, DataStore.localPaymentDataFromRow,
        DataStore.paymentExchangeRateFromRow, DataStore.historyRow, PaymentCall.row,
        DataStore.paymentRow]
      cases c.snapshot <;> rfl

/-- A call that does not commit changes neither the rates nor what they should be. -/
theorem step_of_not_commits {s : PricedStore} {c : PaymentCall} (h : ¬ c.commits = true) :
    (s.step c).RatesKept ↔ s.RatesKept := by
  refine forall_congr' fun hash => ?_
  unfold returnedRate passedRate DataStore.retrievePaymentInfo
  rw [step_latest, step_conn, if_neg h, if_neg (fun hc => h hc.1)]

theorem step_history {s : PricedStore} {c : PaymentCall} (h : c.commits = true) :
    (s.step c).history = DataStore.recordSnapshot c.env.now s.history c.exchangeRates := by
  unfold history
  rw [step_conn, if_pos h]
  rfl

/-- A committed call without a snapshot stores no rates. -/
theorem listedRate_of_snapshot_eq_none {c : PaymentCall} (h : c.commits = true)
    (hsnapshot : c.snapshot = none) (currency : String) :
    listedRate c.exchangeRates currency = none := by
  have hrates : c.exchangeRates = [] := by
    by_contra hne
    have hempty : c.exchangeRates.isEmpty = false := by simpa using hne
    have hsecs : asSecs c.env.now = none := by
      simpa [PaymentCall.snapshot, DataStore.snapshotOf, hempty] using hsnapshot
    simp [PaymentCall.commits, DataStore.commits, DataStore.snapshotCommits, hempty, hsecs] at h
  rw [hrates]
  rfl

/-- The rate of the stored payment after the call. -/
theorem returnedRate_step_self {s : PricedStore} (hs : s.LatestStored) {c : PaymentCall}
    (h : c.commits = true) :
    (s.step c).returnedRate c.paymentHash = c.snapshot.bind fun snapshotId =>
      (rateAt s.history snapshotId c.fiatCurrency).or
        (listedRate c.exchangeRates c.fiatCurrency) := by
  rw [returnedRate_eq (step_latestStored s c hs), step_latest, if_pos ⟨h, rfl⟩, step_history h]
  simp only [Option.bind_some]
  refine Option.bind_congr fun snapshotId hsnapshot => ?_
  rw [rateAt_recordSnapshot]
  exact if_pos hsnapshot

/-- The rate of another payment after the call. -/
theorem returnedRate_step_other {s : PricedStore} (hs : s.LatestStored) {c : PaymentCall}
    (h : c.commits = true) {hash : String} (hne : hash ≠ c.paymentHash) :
    (s.step c).returnedRate hash = (s.latest hash).bind fun c' =>
      c'.snapshot.bind fun snapshotId =>
        if c.snapshot = some snapshotId then
          (rateAt s.history snapshotId c'.fiatCurrency).or
            (listedRate c.exchangeRates c'.fiatCurrency)
        else rateAt s.history snapshotId c'.fiatCurrency := by
  rw [returnedRate_eq (step_latestStored s c hs), step_latest,
    if_neg (fun hc => hne hc.2.symm), step_history h]
  refine Option.bind_congr fun c' _ => Option.bind_congr fun snapshotId _ => ?_
  exact rateAt_recordSnapshot ..

theorem passedRate_step_self {s : PricedStore} {c : PaymentCall} (h : c.commits = true) :
    (s.step c).passedRate c.paymentHash = listedRate c.exchangeRates c.fiatCurrency := by
  unfold passedRate
  rw [step_latest, if_pos ⟨h, rfl⟩]
  rfl

theorem passedRate_step_other {s : PricedStore} {c : PaymentCall} {hash : String}
    (hne : hash ≠ c.paymentHash) : (s.step c).passedRate hash = s.passedRate hash := by
  unfold passedRate
  rw [step_latest, if_neg (fun hc => hne hc.2.symm)]

/-- One call keeps the rates of all payments exactly if it finds no other rate for its currency
and adds none for another payment. -/
theorem step_ratesKept {s : PricedStore} (c : PaymentCall) (hs : s.LatestStored)
    (hkept : s.RatesKept) : (s.step c).RatesKept ↔ s.KeepsRates c := by
  by_cases h : c.commits = true
  swap
  -- a call that is rolled back changes nothing
  · rw [step_of_not_commits h]
    exact ⟨fun _ hc => absurd hc h, fun _ => hkept⟩
  constructor
  · intro hafter _ snapshotId hsnapshot
    constructor
    -- what is returned for the payment itself is the first row of the second
    · intro rate hrate
      have hself := hafter c.paymentHash
      rw [returnedRate_step_self hs h, passedRate_step_self h, hsnapshot] at hself
      simpa [hrate] using hself.symm
    -- a payment without a rate in this second would get one of this call
    · intro hash row currency hne hrow hid hcurrency hnone
      obtain ⟨c', hlatest, rfl⟩ : ∃ c', s.latest hash = some c' ∧ c'.row = row := by
        rw [hs hash] at hrow
        simpa using hrow
      have hid' : c'.snapshot = some snapshotId := hid
      have hcurrency' : c'.fiatCurrency = currency := Option.some.inj hcurrency
      have hbefore := hkept hash
      rw [returnedRate_eq hs, hlatest] at hbefore
      have hother := hafter hash
      rw [returnedRate_step_other hs h hne, passedRate_step_other hne, ← hbefore, hlatest] at hother
      simpa [hid', hcurrency', hsnapshot, hnone] using hother
  · intro hkeeps hash
    -- the payment of the call, and the others that share its snapshot
    by_cases hhash : hash = c.paymentHash
    · subst hhash
      rw [returnedRate_step_self hs h, passedRate_step_self h]
      cases hsnapshot : c.snapshot with
      | none => exact (listedRate_of_snapshot_eq_none h hsnapshot _).symm
      | some snapshotId =>
          cases hrate : rateAt s.history snapshotId c.fiatCurrency with
          | none => simp [hrate]
          | some rate =>
              rw [(hkeeps h snapshotId hsnapshot).1 rate hrate]
              simp [hrate]
    · rw [returnedRate_step_other hs h hhash, passedRate_step_other hhash, ← hkept hash,
        returnedRate_eq hs]
      refine Option.bind_congr fun c' hlatest => Option.bind_congr fun snapshotId hid => ?_
      split
      · next hsnapshot =>
        have hrow : s.dataStore.conn.payments.lookup hash = some c'.row := by
          rw [hs hash, hlatest]
          rfl
        cases hrate : rateAt s.history snapshotId c'.fiatCurrency with
        | none =>
            exact (hkeeps h snapshotId hsnapshot).2 hash c'.row c'.fiatCurrency hhash hrow hid rfl
              hrate
        | some rate => rfl
      · rfl

/-- What is returned for another payment changes at most in its rate. -/
theorem othersKept_of_ratesKept {s : PricedStore} (c : PaymentCall) (hs : s.LatestStored)
    (hbefore : s.RatesKept) (hafter : (s.step c).RatesKept) : s.OthersKept c := by
  intro hash hne
  have hrate : (s.step c).returnedRate hash = s.returnedRate hash := by
    rw [hafter hash, hbefore hash, passedRate_step_other hne]
  have hrow : (s.step c).dataStore.conn.payments.lookup hash
      = s.dataStore.conn.payments.lookup hash := by
    rw [step_latestStored s c hs hash, hs hash, step_latest, if_neg (fun hc => hne hc.2.symm)]
  have hoffer : (s.step c).dataStore.conn.offers.lookup hash
      = s.dataStore.conn.offers.lookup hash := by
    rw [step_conn]
    split
    · exact (DataStore.lookup_recordOffer ..).trans (if_neg (Ne.symm hne))
    · rfl
  unfold returnedRate DataStore.retrievePaymentInfo at hrate
  unfold DataStore.retrievePaymentInfo
  rw [hrow] at hrate ⊢
  cases hlookup : s.dataStore.conn.payments.lookup hash with
  | none => rfl
  | some row =>
      rw [hlookup] at hrate
      have hkey : row.hash = hash := KeyedTable.lookup_key hlookup
      simp only [Option.map_some, Option.bind_some, DataStore.localPaymentDataFromRow] at hrate ⊢
      rw [hrate, hkey, hoffer]

theorem start_ratesKept (backupFile : Option Db) :
    (start backupFile).LatestStored ∧ (start backupFile).RatesKept :=
  ⟨fun _ => rfl, fun _ => rfl⟩

/-- **When historic rates are kept.** Along a run of `store_payment_info` calls every payment is
returned with the rate for its currency in the rates of its latest call, and no call changes
what is returned for another payment, exactly if each call finds no other rate for its
currency in the second it stores its rates in, and has no rate for the currency of another
payment that was stored in that second without one. -/
theorem ratesKept_iff (backupFile : Option Db) (cs : List PaymentCall) :
    Runs.Throughout step RatesKept (start backupFile) cs
        ∧ Runs.AllSteps step OthersKept (start backupFile) cs
      ↔ Runs.AllSteps step KeepsRates (start backupFile) cs := by
  obtain ⟨hlatest, hkept⟩ := start_ratesKept backupFile
  have hiff := Runs.throughout_iff_allSteps step step_latestStored
    (fun s c => step_ratesKept c) cs (start backupFile) hlatest hkept
  rw [hiff, and_iff_left_iff_imp]
  intro hall
  have hsteps := Runs.Throughout.steps step step_latestStored cs _ hlatest (hiff.mpr hall)
  refine Runs.AllSteps.imp step (fun s c h => ?_) cs _ hsteps
  exact othersKept_of_ratesKept c h.1 h.2.1 h.2.2

/-- A payment stored in the second of another one gets the rate of that one. -/
theorem shared_second_mixes_rates :
    ¬ ∀ (backupFile : Option Db) (cs : List PaymentCall),
      Runs.Throughout step RatesKept (start backupFile) cs
        ∧ Runs.AllSteps step OthersKept (start backupFile) cs := by
  intro h
  let env : Env := ⟨1700000000000000000, fun _ => false⟩
  let prefs : UserPreferences := ⟨"CHF", ⟨"Europe/Zurich", 60⟩⟩
  let first : PaymentCall := ⟨env, "aa", prefs, [⟨"CHF", 2000, 0⟩], by decide, none, none, none⟩
  let second : PaymentCall := ⟨env, "bb", prefs, [⟨"CHF", 3000, 0⟩], by decide, none, none, none⟩
  have hkept := Runs.Throughout.last step _ _ (h none [first, second]).1 "bb"
  have hreturned : (Runs.run step (start none) [first, second]).returnedRate "bb"
      = some ⟨"CHF", 2000, 0⟩ := by decide +kernel
  have hpassed : (Runs.run step (start none) [first, second]).passedRate "bb"
      = some ⟨"CHF", 3000, 0⟩ := by decide +kernel
  exact absurd (hreturned.symm.trans (hkept.trans hpassed)) (by decide)

end PricedStore

end LipaLightning
