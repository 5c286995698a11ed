import LipaLightning.DataStore.Schema
import LipaLightning.Errors
import Mathlib.Data.List.Sort
import Mathlib.Data.Prod.Lex
import Mathlib.Data.String.Basic
import Mathlib.Data.UInt

set_option autoImplicit false

/-! # The data store

The operations of `DataStore` (`data_store.rs`). An operation gets the data store and an
environment `Env`: the clock it reads and the SQL statements that fail under it. It returns
the result of the call and the data store afterwards. The statements of
`store_payment_info` run in a transaction, which is rolled back when one of them fails.
-/

namespace LipaLightning

/-- The SQL statements of the data store that can fail for a reason of their own, such as a
lock, a full disk or a corrupted file. -/
inductive Statement where
  | beginTransaction
  | insertExchangeRatesHistory (i : Nat)
  | insertPayment
  | insertOffer
  | commit
  | insertCreatedInvoice
  | updatePersonalNote
  | insertPersonalNote
  | replaceExchangeRate
  | insertFiatTopupInfo
  | deleteFiatTopupInfo
  | insertAnalyticsConfig
  | selectAnalyticsConfig
  | insertLightningAddress
  | updateLightningAddress
  | insertHiddenChannelCloseAmount
  | insertHiddenFailedSwap
  | insertFiatCurrency
  | selectFiatCurrency
  deriving DecidableEq, Repr

/-- What a call meets outside of the data store. -/
structure Env where
  now : SystemTime
  faults : Statement → Bool

/-- Seconds since the Unix epoch; there are none if the clock is before it. -/
def asSecs (now : SystemTime) : Option UInt64 :=
  if 0 ≤ now then some (UInt64.ofNat (now / 1000000000).toNat) else none

/-- Run a statement that fails only if the environment says so. -/
def execute (env : Env) (statement : Statement) (error : Error RuntimeErrorCode) : Result Unit :=
  if env.faults statement then .error error else .ok ()

/-- Bind `u64` parameters: rusqlite refuses a value that is not an `i64`. -/
def bindU64 (params : List UInt64) (error : Error RuntimeErrorCode) : Result Unit :=
  if params.all (· < 2 ^ 63) then .ok () else .error error

inductive BackupStatus where
  | complete
  | waitingForBackup
  deriving DecidableEq, Repr

inductive AnalyticsConfig where
  | enabled
  | disabled
  deriving DecidableEq, Repr

def AnalyticsConfig.toU8 : AnalyticsConfig → UInt8
  | .enabled => 0
  | .disabled => 1

def AnalyticsConfig.tryFrom (n : UInt8) : Option AnalyticsConfig :=
  if n = 0 then some .enabled else if n = 1 then some .disabled else none

inductive EnableStatus where
  | enabled
  | featureDisabled
  deriving DecidableEq, Repr

def EnableStatus.toU8 : EnableStatus → UInt8
  | .enabled => 0
  | .featureDisabled => 1

def EnableStatus.tryFrom (n : UInt8) : Option EnableStatus :=
  if n = 0 then some .enabled else if n = 1 then some .featureDisabled else none

/-- The data store: the db behind `conn`, the content of the local backup file behind
`backup_conn`, and the backup status. -/
structure DataStore where
  conn : Db
  backupConn : Option Db
  backupStatus : BackupStatus

structure CreatedInvoice where
  hash : String
  invoice : String
  channelOpeningFees : Option UInt64
  deriving DecidableEq, Repr

namespace DataStore

/-- `DataStore::new` on the files at the path, with the migrations done. -/
def new (db : Db) (backupFile : Option Db) : DataStore :=
  ⟨db, backupFile, .waitingForBackup⟩

/-- An operation that sets the status first: its SQL decides the db and the result. -/
def waitThen (self : DataStore) (sql : Result Db) : Result Unit × DataStore :=
  match sql with
  | .ok db => (.ok (), { self with conn := db, backupStatus := .waitingForBackup })
  | .error e => (.error e, { self with backupStatus := .waitingForBackup })

@[simp] theorem waitThen_backupStatus (self : DataStore) (sql : Result Db) :
    (self.waitThen sql).2.backupStatus = .waitingForBackup := by
  cases sql <;> rfl

@[simp] theorem waitThen_backupConn (self : DataStore) (sql : Result Db) :
    (self.waitThen sql).2.backupConn = self.backupConn := by
  cases sql <;> rfl

/-- The db after an operation that sets the status first: what its SQL returns, or the db
before it. -/
theorem waitThen_conn (self : DataStore) (sql : Result Db) :
    (self.waitThen sql).2.conn = match sql with | .ok db => db | .error _ => self.conn := by
  cases sql <;> rfl

theorem waitThen_fst_ok (self : DataStore) (sql : Result Db) :
    succeeded (self.waitThen sql).1 = succeeded sql := by
  cases sql <;> rfl

/-! ## Payments -/

/-- The rows of a snapshot, one statement for each rate. -/
def insertRates (env : Env) (snapshotId : UInt64) : Nat → Db → List ExchangeRate → Result Db
  | _, db, [] => .ok db
  | i, db, rate :: rates => do
      let error := .invalidInput "Failed to insert exchange rate history in db"
      bindU64 [snapshotId] error
      execute env (.insertExchangeRatesHistory i) error
      let row : ExchangeRatesHistoryRow :=
        ⟨snapshotId, rate.currencyCode, rate.rate, rate.updatedAt⟩
      insertRates env snapshotId (i + 1)
        { db with exchangeRatesHistory := db.exchangeRatesHistory.insertIgnore row } rates

/-- Store all provided exchange rates. -/
def insertExchangeRateSnapshot (env : Env) (db : Db) (exchangeRates : List ExchangeRate) :
    Result (Db × Option UInt64) :=
  if exchangeRates.isEmpty then .ok (db, none)
  else match asSecs env.now with
    | none => .error (.permanentFailure "Failed to obtain duration since unix epoch")
    | some snapshotId => do
        let db ← insertRates env snapshotId 0 db exchangeRates
        .ok (db, some snapshotId)

/-- The row `store_payment_info` inserts: the columns it does not list are `NULL`. -/
def paymentRow (paymentHash : String) (userPreferences : UserPreferences)
    (snapshotId : Option UInt64) (receivedOn receivedLnurlComment : Option String) :
    PaymentRow where
  hash := paymentHash
  timezoneId := some userPreferences.timezoneConfig.timezoneId
  timezoneUtcOffsetSecs := some userPreferences.timezoneConfig.timezoneUtcOffsetSecs
  fiatCurrency := some userPreferences.fiatCurrency
  exchangeRatesHistorySnapshotId := snapshotId
  personalNote := none
  receivedOn := receivedOn
  receivedLnurlComment := receivedLnurlComment

def offerRow (paymentHash : String) (offer : Offer) : OfferRow where
  paymentHash := paymentHash
  pocketId := offer.id
  fiatCurrency := offer.exchangeRate.currencyCode
  rate := offer.exchangeRate.rate
  exchangedAt := offer.exchangeRate.updatedAt
  topupValueMinorUnits := offer.topupValueMinorUnits
  exchangeFeeMinorUnits := offer.exchangeFeeMinorUnits
  exchangeFeeRatePermyriad := offer.exchangeFeeRatePermyriad
  error := fromOfferError offer.error
  topupValueSats := offer.topupValueSats

/-- The `INSERT` of an offer, if there is one. -/
def insertOffer (env : Env) (db : Db) (paymentHash : String) : Option Offer → Result Db
  | none => .ok db
  | some offer => do
      let error := .invalidInput "Failed to add new incoming pocket offer to offers db"
      bindU64 (offer.topupValueMinorUnits :: offer.exchangeFeeMinorUnits
        :: offer.topupValueSats.toList) error
      execute env .insertOffer error
      .ok { db with offers := db.offers.insertReplace (offerRow paymentHash offer) }

/-- The transaction of `store_payment_info`: the db after the commit. -/
def storePaymentInfoTx (env : Env) (db : Db) (paymentHash : String)
    (userPreferences : UserPreferences) (exchangeRates : List ExchangeRate)
    (offer : Option Offer) (receivedOn receivedLnurlComment : Option String) : Result Db := do
  execute env .beginTransaction (.permanentFailure "Failed to begin SQL transaction")
  let (db, snapshotId) ← insertExchangeRateSnapshot env db exchangeRates
  let error := .permanentFailure "Failed to add payment info to db"
  bindU64 snapshotId.toList error
  execute env .insertPayment error
  let row := paymentRow paymentHash userPreferences snapshotId receivedOn receivedLnurlComment
  let db := { db with payments := db.payments.insertReplace row }
  let db ← insertOffer env db paymentHash offer
  execute env .commit (.permanentFailure "Failed to commit the db transaction")
  .ok db

def storePaymentInfo (self : DataStore) (env : Env) (paymentHash : String)
    (userPreferences : UserPreferences) (exchangeRates : List ExchangeRate)
    (offer : Option Offer) (receivedOn receivedLnurlComment : Option String) :
    Result Unit × DataStore :=
  self.waitThen (storePaymentInfoTx env self.conn paymentHash userPreferences exchangeRates offer
    receivedOn receivedLnurlComment)

def offerFromRow (row : OfferRow) : Offer where
  id := row.pocketId
  exchangeRate := ⟨row.fiatCurrency, row.rate, row.exchangedAt⟩
  topupValueMinorUnits := row.topupValueMinorUnits
  topupValueSats := row.topupValueSats
  exchangeFeeMinorUnits := row.exchangeFeeMinorUnits
  exchangeFeeRatePermyriad := row.exchangeFeeRatePermyriad
  lightningPayoutFee := none
  error := toOfferError row.error

def userPreferencesFromRow (row : PaymentRow) : Option UserPreferences :=
  match row.timezoneId, row.timezoneUtcOffsetSecs, row.fiatCurrency with
  | some timezoneId, some timezoneUtcOffsetSecs, some fiatCurrency =>
      some ⟨fiatCurrency, ⟨timezoneId, timezoneUtcOffsetSecs⟩⟩
  | _, _, _ => none

/-- The row of the history that the join on the snapshot and the fiat currency finds. -/
def historyRow (db : Db) (row : PaymentRow) : Option ExchangeRatesHistoryRow :=
  match row.exchangeRatesHistorySnapshotId, row.fiatCurrency with
  | some snapshotId, some fiatCurrency =>
      db.exchangeRatesHistory.lookup (snapshotId, fiatCurrency)
  | _, _ => none

def paymentExchangeRateFromRow (db : Db) (row : PaymentRow) : Option ExchangeRate :=
  (historyRow db row).map fun h => ⟨h.fiatCurrency, h.rate, h.updatedAt⟩

def localPaymentDataFromRow (db : Db) (row : PaymentRow) : LocalPaymentData where
  userPreferences := userPreferencesFromRow row
  exchangeRate := paymentExchangeRateFromRow db row
  offer := (db.offers.lookup row.hash).map offerFromRow
  personalNote := row.personalNote
  receivedOn := row.receivedOn
  receivedLnurlComment := row.receivedLnurlComment

def retrievePaymentInfo (self : DataStore) (paymentHash : String) : Option LocalPaymentData :=
  (self.conn.payments.lookup paymentHash).map (localPaymentDataFromRow self.conn)

/-- The row inserted for a note on a payment that has none. -/
def noteRow (paymentHash : String) (personalNote : Option String) : PaymentRow :=
  ⟨paymentHash, none, none, none, none, personalNote, none, none⟩

/-- `UPDATE payments SET personal_note = ?1 WHERE hash=?2`. -/
def setNote (db : Db) (paymentHash : String) (personalNote : Option String) : Db :=
  let setRow := fun r : PaymentRow => { r with personalNote := personalNote }
  { db with payments := db.payments.modify paymentHash setRow (fun _ => rfl) }

def updatePersonalNote (self : DataStore) (env : Env) (paymentHash : String)
    (personalNote : Option String) : Result Unit × DataStore :=
  self.waitThen do
    execute env .updatePersonalNote
      (.permanentFailure "Failed to store personal note in local db")
    if (self.conn.payments.lookup paymentHash).isSome then
      .ok (setNote self.conn paymentHash personalNote)
    else do
      execute env .insertPersonalNote
        (.permanentFailure "Failed to insert new payment to store personal note in local db")
      .ok { self.conn with
        payments := self.conn.payments.insertReplace (noteRow paymentHash personalNote) }

/-! ## Created invoices -/

def storeCreatedInvoice (self : DataStore) (env : Env) (hash invoice : String)
    (channelOpeningFees : Option UInt64) (invoiceExpiryTimestamp : UInt64) :
    Result Unit × DataStore :=
  self.waitThen do
    let error := .permanentFailure "Failed to store created invoice to local db"
    bindU64 (invoiceExpiryTimestamp :: channelOpeningFees.toList) error
    execute env .insertCreatedInvoice error
    let row := ⟨integerAffinity hash, invoice, channelOpeningFees, invoiceExpiryTimestamp⟩
    .ok { self.conn with createdInvoices := self.conn.createdInvoices ++ [row] }

/-- Read the selected columns of a created invoice. -/
def createdInvoiceFromRow (row : CreatedInvoiceRow) : Result CreatedInvoice :=
  match row.hash.asText with
  | some hash => .ok ⟨hash, row.invoice, row.channelOpeningFees⟩
  | none => .error (.permanentFailure "Corrupted db")

/-- The order of the columns of a created invoice, `NULL` first. -/
def createdInvoiceKey (i : CreatedInvoice) : String ×ₗ (String ×ₗ Nat) :=
  toLex (i.hash, toLex (i.invoice, match i.channelOpeningFees with
    | none => 0
    | some fees => fees.toNat + 1))

/-- The rows the two parts of the `UNION` select: the invoices that expire from `now` on,
and the `limit` latest ones of those that expired before. -/
def selectCreatedInvoices (db : Db) (now : UInt64) (limit : Nat) : List CreatedInvoiceRow :=
  db.createdInvoices.filter (fun r => now ≤ r.invoiceExpiryTimestamp)
    ++ (db.createdInvoices.filter (fun r => r.invoiceExpiryTimestamp < now)).reverse.take limit

/-- Returns all pending and `number_of_expired_invoices` expired invoices. A `UNION` returns
no row twice; SQLite builds it as a sorted index over the columns and reads it in order. -/
def retrieveCreatedInvoices (self : DataStore) (now : SystemTime)
    (numberOfExpiredInvoices : UInt32) : Result (List CreatedInvoice) :=
  match asSecs now with
  | none => .error (.permanentFailure "Time went backwards")
  | some now => do
      bindU64 [now] (.permanentFailure "Failed to bind parameter to prepared SQL query")
      -- one row that cannot be read fails the whole query
      let rows := selectCreatedInvoices self.conn now numberOfExpiredInvoices.toNat
      let invoices ← rows.mapM createdInvoiceFromRow
      .ok (invoices.dedup.insertionSort (fun a b => createdInvoiceKey a ≤ createdInvoiceKey b))

theorem selectCreatedInvoices_subset {db : Db} {now : UInt64} {limit : Nat} :
    selectCreatedInvoices db now limit ⊆ db.createdInvoices := by
  intro row hrow
  rcases List.mem_append.mp hrow with hrow | hrow
  · exact (List.mem_filter.mp hrow).1
  · exact (List.mem_filter.mp (List.mem_reverse.mp (List.mem_of_mem_take hrow))).1

/-- The invoices that are read come from the selected rows. -/
theorem mem_retrieveCreatedInvoices {self : DataStore} {now : SystemTime} {n : UInt32}
    {invoices : List CreatedInvoice} (h : self.retrieveCreatedInvoices now n = .ok invoices)
    {i : CreatedInvoice} :
    i ∈ invoices ↔ ∃ secs, asSecs now = some secs ∧
      ∃ row ∈ selectCreatedInvoices self.conn secs n.toNat, createdInvoiceFromRow row = .ok i := by
  unfold retrieveCreatedInvoices at h
  split at h
  · cases h
  · rename_i secs hsecs
    obtain ⟨_, -, h⟩ := bind_eq_ok.mp h
    obtain ⟨read, hread, h⟩ := bind_eq_ok.mp h
    obtain rfl := Except.ok.inj h
    simp [List.mem_insertionSort, mem_mapM_ok hread, hsecs]

/-- If every selected row can be read and the clock is an `i64`, the invoices are returned. -/
theorem retrieveCreatedInvoices_of_read {self : DataStore} {now : SystemTime} {secs : UInt64}
    {n : UInt32} {read : List CreatedInvoice} (hsecs : asSecs now = some secs)
    (hbound : secs < 2 ^ 63)
    (hread : (selectCreatedInvoices self.conn secs n.toNat).mapM createdInvoiceFromRow = .ok read) :
    self.retrieveCreatedInvoices now n
      = .ok (read.dedup.insertionSort (fun a b => createdInvoiceKey a ≤ createdInvoiceKey b)) := by
  have hbind : bindU64 [secs] (.permanentFailure "Failed to bind parameter to prepared SQL query")
      = .ok () := if_pos (by simpa using hbound)
  unfold retrieveCreatedInvoices
  rw [hsecs]
  dsimp only
  rw [hbind, hread]
  rfl

theorem createdInvoiceKey_injective : Function.Injective createdInvoiceKey := by
  intro i j h
  obtain ⟨hash, invoice, fees⟩ := i
  obtain ⟨hash', invoice', fees'⟩ := j
  simp only [createdInvoiceKey, EmbeddingLike.apply_eq_iff_eq, Prod.mk.injEq] at h
  obtain ⟨rfl, rfl, hfees⟩ := h
  cases fees <;> cases fees' <;> simp_all [UInt64.toNat_inj]

/-- The invoices that are read are sorted, and there is none twice. -/
theorem retrieveCreatedInvoices_sorted {self : DataStore} {now : SystemTime} {n : UInt32}
    {invoices : List CreatedInvoice} (h : self.retrieveCreatedInvoices now n = .ok invoices) :
    invoices.Pairwise (fun i j => createdInvoiceKey i ≤ createdInvoiceKey j) ∧ invoices.Nodup := by
  unfold retrieveCreatedInvoices at h
  split at h
  · cases h
  · obtain ⟨_, -, h⟩ := bind_eq_ok.mp h
    obtain ⟨read, -, h⟩ := bind_eq_ok.mp h
    obtain rfl := Except.ok.inj h
    have : Std.Total fun i j : CreatedInvoice => createdInvoiceKey i ≤ createdInvoiceKey j :=
      ⟨fun i j => le_total (createdInvoiceKey i) (createdInvoiceKey j)⟩
    have : IsTrans CreatedInvoice fun i j => createdInvoiceKey i ≤ createdInvoiceKey j :=
      ⟨fun _ _ _ hij hjk => le_trans hij hjk⟩
    exact ⟨List.pairwise_insertionSort _ _,
      (List.perm_insertionSort _ _).nodup_iff.mpr (List.nodup_dedup _)⟩

/-- The parameter is compared with the affinity of the column. -/
def retrieveCreatedInvoiceByHash (self : DataStore) (hash : String) : Option CreatedInvoice :=
  (self.conn.createdInvoices.find? (fun r => r.hash = integerAffinity hash)).map
    fun r => ⟨hash, r.invoice, r.channelOpeningFees⟩

/-! ## Exchange rates -/

def updateExchangeRate (self : DataStore) (env : Env) (currencyCode : String) (rate : UInt32)
    (updatedAt : SystemTime) : Result Unit × DataStore :=
  self.waitThen do
    execute env .replaceExchangeRate (.invalidInput "Failed to update exchange rate in db")
    .ok { self.conn with
      exchangeRates := self.conn.exchangeRates.insertReplace ⟨currencyCode, rate, updatedAt⟩ }

def getAllExchangeRates (self : DataStore) : List ExchangeRate := self.conn.exchangeRates.rows

/-! ## Fiat topups -/

/-- Unlike its siblings this operation leaves the backup status as it is. -/
def storeFiatTopupInfo (self : DataStore) (env : Env) (fiatTopupInfo : FiatTopupSetupInfo) :
    Result Unit × DataStore :=
  let error := .permanentFailure "Failed to store fiat topup info in db"
  match execute env .insertFiatTopupInfo error,
      self.conn.fiatTopupInfo.insert ⟨env.now, fiatTopupInfo⟩ with
  | .ok (), some table => (.ok (), { self with conn := { self.conn with fiatTopupInfo := table } })
  | _, _ => (.error error, self)

/-- Unlike its siblings this operation leaves the backup status as it is. -/
def clearFiatTopupInfo (self : DataStore) (env : Env) : Result Unit × DataStore :=
  match execute env .deleteFiatTopupInfo
      (.permanentFailure "Failed to delete fiat topup info") with
  | .ok () => (.ok (), { self with conn := { self.conn with fiatTopupInfo := .empty } })
  | .error e => (.error e, self)

/-! ## Settings and addresses -/

def appendAnalyticsConfig (self : DataStore) (env : Env) (status : AnalyticsConfig) :
    Result Unit × DataStore :=
  self.waitThen do
    execute env .insertAnalyticsConfig
      (.permanentFailure "Failed to add analytics config to db")
    .ok { self.conn with analyticsConfig := self.conn.analyticsConfig ++ [status.toU8] }

def retrieveAnalyticsConfig (self : DataStore) (env : Env) : Result AnalyticsConfig := do
  let error := .permanentFailure "Failed to query analytics config"
  execute env .selectAnalyticsConfig error
  match self.conn.analyticsConfig.getLast?.bind AnalyticsConfig.tryFrom with
  | some config => .ok config
  | none => .error error

/-- The status is set only once the statement has succeeded. -/
def storeLightningAddress (self : DataStore) (env : Env) (lightningAddress : String) :
    Result Unit × DataStore :=
  match execute env .insertLightningAddress
      (.permanentFailure "Failed to add lightning address to db") with
  | .error e => (.error e, self)
  | .ok () =>
      let row := ⟨lightningAddress, env.now / 1000000000, EnableStatus.enabled.toU8⟩
      (.ok (), { self with
        conn := { self.conn with
          lightningAddresses := self.conn.lightningAddresses.insertReplace row }
        backupStatus := .waitingForBackup })

/-- The status is set only once the statement has succeeded. -/
def updateLightningAddress (self : DataStore) (env : Env) (lightningAddress : String)
    (enableStatus : EnableStatus) : Result Unit × DataStore :=
  match execute env .updateLightningAddress
      (.permanentFailure "Failed to update lightning address in db") with
  | .error e => (.error e, self)
  | .ok () =>
      let table := self.conn.lightningAddresses.modify lightningAddress
        (fun r => { r with enableStatus := enableStatus.toU8 }) (fun _ => rfl)
      (.ok (), { self with
        conn := { self.conn with lightningAddresses := table }
        backupStatus := .waitingForBackup })

/-- The addresses with their status, in the order they were registered in. -/
def retrieveLightningAddresses (self : DataStore) :
    Result (List (String × EnableStatus)) :=
  let rows := self.conn.lightningAddresses.rows.insertionSort
    (fun a b => a.registeredAt ≤ b.registeredAt)
  rows.mapM fun row => match EnableStatus.tryFrom row.enableStatus with
    | some status => .ok (row.address, status)
    | none => .error (.permanentFailure "Failed to query lightning addresses")

def storeHiddenChannelCloseOnchainFundsAmountSat (self : DataStore) (env : Env)
    (amountSat : UInt64) : Result Unit × DataStore :=
  self.waitThen do
    let error := .permanentFailure "Failed to store hidden channel close amount in db"
    bindU64 [amountSat] error
    execute env .insertHiddenChannelCloseAmount error
    .ok { self.conn with
      hiddenChannelCloseAmount := self.conn.hiddenChannelCloseAmount ++ [amountSat] }

def storeHiddenUnresolvedFailedSwap (self : DataStore) (env : Env) (swapAddress : String) :
    Result Unit × DataStore :=
  self.waitThen do
    execute env .insertHiddenFailedSwap
      (.permanentFailure "Failed to store hidden failed swap in db")
    .ok { self.conn with hiddenFailedSwaps := self.conn.hiddenFailedSwaps ++ [swapAddress] }

def storeSelectedFiatCurrency (self : DataStore) (env : Env) (fiatCurrency : String) :
    Result Unit × DataStore :=
  self.waitThen do
    execute env .insertFiatCurrency
      (.permanentFailure "Failed to store fiat currency in db")
    .ok { self.conn with fiatCurrency := self.conn.fiatCurrency ++ [fiatCurrency] }

def retrieveLastSetFiatCurrency (self : DataStore) (env : Env) : Result (Option String) := do
  execute env .selectFiatCurrency
    (.permanentFailure "Failed to query last hidden channel close amount")
  .ok self.conn.fiatCurrency.getLast?

/-! ## The backup -/

/-- Copy the db into the local backup file; a failed backup leaves the file as it was. -/
def backupDb (self : DataStore) (fails : Bool) : Result Unit × DataStore :=
  if fails then (.error (.permanentFailure "Failed to backup db"), self)
  else (.ok (), { self with backupConn := some self.conn })

end DataStore

end LipaLightning
