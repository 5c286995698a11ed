import LipaLightning.DataStore.Migrations
import LipaLightning.DataStore.PaymentQuery

set_option autoImplicit false

/-! # Payments in a migrated db

`FileStores` says that the rows of a file of any version read as the rows of a `Db`. The migrations
keep what the rows read as, so that on the migrated file the query returns what was stored
(`migrate_preserves`).
-/

namespace LipaLightning

open Sql

variable {ρ : Type}

/-! ## What is stored in a file -/

/-- The column of the snapshot id; its name is misspelt before the last migration. -/
def snapshotIdColumn (t : Table) : String :=
  if "exchange_rates_history_snaphot_id" ∈ t.columnNames then "exchange_rates_history_snaphot_id"
  else "exchange_rates_history_snapshot_id"

/-- The rows of the table in the file read as `stored`; a column that the table does not have yet
reads as `NULL`. -/
def TableReads {α : Type} (db : Database ρ) (name : String) (reads : Table → Row ρ → α → Prop)
    (stored : List α) : Prop :=
  ∀ t, find db.tables name = some t → List.Forall₂ (reads t) (db.rows name) stored

/-- The payments, their rates and their offers in the file are those of `stored`. -/
structure FileStores (dateTime : String → Option SystemTime) (db : Database ρ) (stored : Db) :
    Prop where
  payments : TableReads db "payments"
    (fun t row => ReadsAsPayment (t.value row) (t.value row (snapshotIdColumn t)))
    stored.payments.rows
  exchangeRatesHistory : TableReads db "exchange_rates_history"
    (fun t row => ReadsAsHistory dateTime (t.value row)) stored.exchangeRatesHistory.rows
  offers : TableReads db "offers" (fun t row => ReadsAsOffer dateTime (t.value row))
    stored.offers.rows

/-! ## The migrations keep what is stored -/

/-- The tables that the query reads. -/
def queriedTables : List String := ["payments", "exchange_rates_history", "offers"]

set_option maxRecDepth 4000 in
/-- Every version has the tables, and one of the two columns for the snapshot id. -/
theorem schemaAt_version : ∀ version ∈ List.range' 1 19,
    (∀ name ∈ queriedTables, (find (schemaAt version) name).isSome = true) ∧
    ∀ t ∈ find (schemaAt version) "payments", snapshotIdColumn t ∈ t.columnNames := by
  decide

set_option maxRecDepth 4000 in
/-- The latest version has the columns that are read, and none of them has a default. -/
theorem schemaAt_latest :
    (∀ name ∈ queriedTables, ∀ t ∈ find (schemaAt 19) name, ∀ c ∈ t.columns, c.default = .null) ∧
    (∀ t ∈ find (schemaAt 19) "payments",
      snapshotIdColumn t = "exchange_rates_history_snapshot_id" ∧
      ∀ c ∈ "exchange_rates_history_snapshot_id" :: paymentColumns, c ∈ t.columnNames) ∧
    (∀ t ∈ find (schemaAt 19) "exchange_rates_history",
      ∀ c ∈ historyColumns, c ∈ t.columnNames) ∧
    ∀ t ∈ find (schemaAt 19) "offers", ∀ c ∈ offerColumns, c ∈ t.columnNames := by
  decide

theorem exists_find {version : Nat} (hversion : version ∈ List.range' 1 19) {name : String}
    (hname : name ∈ queriedTables) : ∃ t, find (schemaAt version) name = some t :=
  Option.isSome_iff_exists.mp ((schemaAt_version version hversion).1 name hname)

theorem snapshotIdColumn_latest : ∀ t ∈ find (schemaAt 19) "payments",
    snapshotIdColumn t = "exchange_rates_history_snapshot_id" := fun t ht =>
  (schemaAt_latest.2.1 t ht).1

/-- A column that is not the one of the snapshot id. -/
def KeepsName (column : String) : Prop :=
  column ≠ "exchange_rates_history_snapshot_id" ∧ column ≠ "exchange_rates_history_snaphot_id"

instance (column : String) : Decidable (KeepsName column) :=
  inferInstanceAs (Decidable (_ ∧ _))

theorem latestName_eq_iff {table column : String} (h : KeepsName column) (name : String) :
    latestName table name = column ↔ name = column := by
  unfold latestName
  split
  · next heq =>
      constructor
      · intro hname
        exact absurd hname.symm h.1
      · rintro rfl
        exact absurd heq.2 h.2
  · exact Iff.rfl

/-- A table without new rows is kept row by row; `NULL` stands for the columns it did not have. -/
theorem TableReads.of_keeps {α : Type} {engine : Engine ρ} {db db' : Database ρ} {name : String}
    {reads : Table → Row ρ → α → Prop} {stored : List α} {t t' : Table}
    (h : TableReads db name reads stored) (ht : find db.tables name = some t)
    (ht' : find db'.tables name = some t') (hname : name ≠ "funds_migration_status")
    (hdefault : ∀ c ∈ t'.columns, c.default = .null)
    (hkeeps : Keeps engine latestName ["funds_migration_status"] db db')
    (hreads : ∀ row row' r,
      (∀ column, KeepsName column → t'.value row' column = t.value row column) →
      (∀ column ∈ t.columnNames,
        t'.value row' (latestName name column) = t.value row column) →
      reads t row r → reads t' row' r) :
    TableReads db' name reads stored := by
  intro u hu
  obtain rfl : t' = u := Option.some.inj (ht'.symm.trans hu)
  obtain ⟨u', kept, added, hu', hextends, hrows, hgrows, hkept⟩ := hkeeps name t ht
  obtain rfl : t' = u' := Option.some.inj (ht'.symm.trans hu')
  have hadded : added = [] := by
    by_contra hne
    exact hname (List.mem_singleton.mp (hgrows hne))
  rw [hrows, hadded, List.append_nil]
  refine forall₂_trans hkept.flip (h t ht) fun row' row r hrow hr => ?_
  exact hreads row row' r
    (fun column hcolumn => hrow.value_eq hextends (latestName_eq_iff hcolumn) hdefault)
    (fun column hcolumn => hrow.value_rename hextends hcolumn) hr

/-- The rows of the three tables read the same after the migrations. -/
theorem FileStores.of_keeps {engine : Engine ρ} {dateTime : String → Option SystemTime}
    {db db' : Database ρ} {stored : Db} {version : Nat} (hversion : version ∈ List.range' 1 19)
    (htables : db.tables = schemaAt version) (htables' : db'.tables = schemaAt 19)
    (hkeeps : Keeps engine latestName ["funds_migration_status"] db db')
    (h : FileStores dateTime db stored) : FileStores dateTime db' stored := by
  have hfind : ∀ name ∈ queriedTables, ∃ t t', find db.tables name = some t ∧
      find db'.tables name = some t' ∧ ∀ c ∈ t'.columns, c.default = .null := by
    intro name hname
    rw [htables, htables']
    obtain ⟨t, ht⟩ := exists_find hversion hname
    obtain ⟨t', ht'⟩ := exists_find (by decide : 19 ∈ List.range' 1 19) hname
    exact ⟨t, t', ht, ht', schemaAt_latest.1 name hname t' ht'⟩
  constructor
  · obtain ⟨t, t', ht, ht', hdefault⟩ := hfind "payments" (by decide)
    refine h.payments.of_keeps ht ht' (by decide) hdefault hkeeps
      fun row row' r hsame hrenamed hr => ?_
    have hid : t'.value row' (snapshotIdColumn t') = t.value row (snapshotIdColumn t) := by
      rw [htables] at ht
      rw [htables'] at ht'
      rw [snapshotIdColumn_latest t' ht',
        ← hrenamed _ ((schemaAt_version version hversion).2 t ht)]
      unfold snapshotIdColumn
      split
      · rfl
      · rfl
    have hcolumns : ∀ c ∈ paymentColumns, KeepsName c := by decide
    rw [hid]
    exact hr.congr fun c hc => hsame c (hcolumns c hc)
  · obtain ⟨t, t', ht, ht', hdefault⟩ := hfind "exchange_rates_history" (by decide)
    refine h.exchangeRatesHistory.of_keeps ht ht' (by decide) hdefault hkeeps
      fun row row' r hsame _ hr => ?_
    have hcolumns : ∀ c ∈ historyColumns, KeepsName c := by decide
    exact hr.congr fun c hc => hsame c (hcolumns c hc)
  · obtain ⟨t, t', ht, ht', hdefault⟩ := hfind "offers" (by decide)
    refine h.offers.of_keeps ht ht' (by decide) hdefault hkeeps fun row row' r hsame _ hr => ?_
    have hcolumns : ∀ c ∈ offerColumns, KeepsName c := by decide
    exact hr.congr fun c hc => hsame c (hcolumns c hc)

/-! ## Reading the latest version -/

theorem FileStores.latest {dateTime : String → Option SystemTime} {db : Database ρ} {stored : Db}
    (htables : db.tables = schemaAt 19) (h : FileStores dateTime db stored) :
    ReadsLatest dateTime db stored := by
  have hfind : ∀ name ∈ queriedTables,
      ∃ t, find db.tables name = some t ∧ find (schemaAt 19) name = some t := by
    intro name hname
    rw [htables]
    obtain ⟨t, ht⟩ := exists_find (by decide : 19 ∈ List.range' 1 19) hname
    exact ⟨t, ht, ht⟩
  constructor
  · obtain ⟨t, ht, ht'⟩ := hfind "payments" (by decide)
    have hcolumns := (schemaAt_latest.2.1 t ht').2
    refine (h.payments t ht).imp fun row r hr => ?_
    have hsnapshotId : t.value row (snapshotIdColumn t)
        = row "exchange_rates_history_snapshot_id" := by
      rw [snapshotIdColumn_latest t ht', Table.value_of_mem (hcolumns _ (by decide))]
    rw [← hsnapshotId]
    exact hr.congr fun c hc =>
      (Table.value_of_mem (hcolumns c (List.mem_cons_of_mem _ hc)) row).symm
  · obtain ⟨t, ht, ht'⟩ := hfind "exchange_rates_history" (by decide)
    have hcolumns := schemaAt_latest.2.2.1 t ht'
    exact (h.exchangeRatesHistory t ht).imp fun row r hr =>
      hr.congr fun c hc => (Table.value_of_mem (hcolumns c hc) row).symm
  · obtain ⟨t, ht, ht'⟩ := hfind "offers" (by decide)
    have hcolumns := schemaAt_latest.2.2.2 t ht'
    exact (h.offers t ht).imp fun row r hr =>
      hr.congr fun c hc => (Table.value_of_mem (hcolumns c hc) row).symm

/-- **Migrations preserve stored data.** From each version the migrations succeed on every
content. All rows are kept: every column that existed has the same value, under its latest name,
and every new column has its default. The query then returns for each payment what was stored for
it. -/
theorem migrate_preserves [DecidableEq ρ] {engine : Engine ρ} {conn : Connection ρ}
    (hfirst : 1 ≤ conn.userVersion) (hlatest : conn.userVersion ≤ 19)
    (htables : conn.db.tables = schemaAt conn.userVersion) (hwf : conn.db.WellFormed engine) :
    ∃ db', migrate engine conn = (.ok (), ⟨db', 19⟩) ∧ db'.tables = schemaAt 19 ∧
      Keeps engine latestName ["funds_migration_status"] conn.db db' ∧
      ∀ dateTime stored, FileStores dateTime conn.db stored → ∀ paymentHash,
        retrievePaymentInfo dateTime db' paymentHash
          = .ok ((stored.payments.lookup paymentHash).map
              (DataStore.localPaymentDataFromRow stored)) := by
  have hversion : conn.userVersion ∈ List.range' 1 19 := by
    rw [List.mem_range'_1]
    omega
  obtain ⟨db', hmigrate, htables', hkeeps⟩ := migrate_keeps hlatest htables hwf
  refine ⟨db', hmigrate, htables', hkeeps, fun dateTime stored hstored paymentHash => ?_⟩
  have hstored' : FileStores dateTime db' stored :=
    hstored.of_keeps hversion htables htables' hkeeps
  exact retrievePaymentInfo_eq (hstored'.latest htables') paymentHash

/-! ### A file of the first version -/

/-- The number that a text of digits stands for. -/
def digits (s : String) : Option Int :=
  if s.toList ≠ [] ∧ s.toList.all Char.isDigit then
    some (s.toList.foldl (fun n c => 10 * n + (c.toNat - '0'.toNat : Nat)) 0)
  else none

/-- The conversions of SQLite, for values that are not floating point numbers. -/
def affinityConvert : Affinity → Value Empty → Value Empty
  | .text, .integer i => .text (toString i)
  | .integer, .text s =>
      match digits s with
      | some i => .integer i
      | none => .text s
  | _, v => v

def engineWithoutReals : Engine Empty where
  convert := affinityConvert
  now := "2023-11-02 09:30:00"
  convert_eq_null a v := by
    cases a with
    | text => cases v with
      | null | integer | text | blob => simp [affinityConvert]
      | real x => exact x.elim
    | integer => cases v with
      | null | integer | blob => simp [affinityConvert]
      | text s => cases hs : digits s <;> simp [affinityConvert, hs]
      | real x => exact x.elim
  convert_integer _ := rfl
  convert_convert a v := by
    cases a with
    | text => cases v with
      | null | integer | text | blob => rfl
      | real x => exact x.elim
    | integer => cases v with
      | null | integer | blob => rfl
      | text s => cases hs : digits s <;> simp [affinityConvert, hs]
      | real x => exact x.elim

/-- The row with these values. -/
def rowOf (values : List (String × Value Empty)) : Row Empty := fun column =>
  (values.lookup column).getD .null

/-- A received payment with an offer, and the rate at the time it was received. -/
def firstVersionRows : String → List (Row Empty)
  | "payments" => [rowOf [
      ("hash", .text "9f86"),
      ("timezone_id", .text "Europe/Zurich"),
      ("timezone_utc_offset_secs", .integer 7200),
      ("fiat_currency", .text "CHF"),
      ("exchange_rates_history_snaphot_id", .integer 3)]]
  | "exchange_rates_history" => [rowOf [
      ("id", .integer 1),
      ("snapshot_id", .integer 3),
      ("fiat_currency", .text "CHF"),
      ("rate", .integer 3015),
      ("updated_at", .text "2023-06-01 10:00:00+00:00")]]
  | "offers" => [rowOf [
      ("payment_hash", .text "9f86"),
      ("pocket_id", .text "offer"),
      ("fiat_currency", .text "CHF"),
      ("rate", .integer 3010),
      ("exchanged_at", .text "2023-06-01 10:00:00+00:00"),
      ("topup_value_minor_units", .integer 10000),
      ("exchange_fee_minor_units", .integer 150),
      ("exchange_fee_rate_permyriad", .integer 150)]]
  | _ => []

def firstVersion : Connection Empty := ⟨⟨schemaAt 1, firstVersionRows⟩, 1⟩

/-- 2023-06-01 10:00 UTC. -/
def firstOfJune : SystemTime := 1685613600000000000

def firstVersionPayment : PaymentRow :=
  ⟨"9f86", some "Europe/Zurich", some 7200, some "CHF", some 3, none, none, none⟩

def firstVersionHistory : ExchangeRatesHistoryRow := ⟨3, "CHF", 3015, firstOfJune⟩

def firstVersionOffer : OfferRow :=
  ⟨"9f86", "offer", "CHF", 3010, firstOfJune, 10000, 150, 150, none, none⟩

def firstVersionStored : Db :=
  { Db.migrated with
    payments := ⟨[firstVersionPayment], List.nodup_singleton _⟩
    exchangeRatesHistory := ⟨[firstVersionHistory], List.nodup_singleton _⟩
    offers := ⟨[firstVersionOffer], List.nodup_singleton _⟩ }

def junesDateTime (s : String) : Option SystemTime :=
  if s = "2023-06-01 10:00:00+00:00" then some firstOfJune else none

theorem firstVersion_wellFormed : firstVersion.db.WellFormed engineWithoutReals := by
  have hholds : ∀ t ∈ schemaAt 1, t.columnNames.Nodup ∧
      (∀ row ∈ firstVersionRows t.name, ∀ c ∈ t.columns, c.isNotNull = true →
        row c.name ≠ .null) ∧
      (∀ row ∈ firstVersionRows t.name, ∀ c ∈ t.columns,
        engineWithoutReals.convert c.affinity (row c.name) = row c.name) ∧
      ∀ key ∈ t.unique, (firstVersionRows t.name).Pairwise fun r s => ¬ key.Conflicts r s := by
    decide
  intro name t ht
  obtain rfl := name_of_find ht
  obtain ⟨hnodup, hnotNull, hconverted, hunique⟩ := hholds t (List.mem_of_find?_eq_some ht)
  exact ⟨hnodup, hnotNull, hconverted, hunique⟩

theorem firstVersion_stores : FileStores junesDateTime firstVersion.db firstVersionStored := by
  constructor
  · intro t ht
    obtain rfl : (find (schemaAt 1) "payments").get (by decide) = t :=
      Option.get_of_eq_some _ ht
    exact .cons (by constructor <;> decide) .nil
  · intro t ht
    obtain rfl : (find (schemaAt 1) "exchange_rates_history").get (by decide) = t :=
      Option.get_of_eq_some _ ht
    exact .cons (by constructor <;> decide) .nil
  · intro t ht
    obtain rfl : (find (schemaAt 1) "offers").get (by decide) = t :=
      Option.get_of_eq_some _ ht
    exact .cons (by constructor <;> decide) .nil

/-- The payment is read with its preferences, its rate and its offer after the migrations. -/
theorem migrate_preserves_firstVersion :
    ∃ db', migrate engineWithoutReals firstVersion = (.ok (), ⟨db', 19⟩) ∧
      retrievePaymentInfo junesDateTime db' "9f86" = .ok (some {
        userPreferences := some ⟨"CHF", ⟨"Europe/Zurich", 7200⟩⟩
        exchangeRate := some ⟨"CHF", 3015, firstOfJune⟩
        offer := some ⟨"offer", ⟨"CHF", 3010, firstOfJune⟩, 10000, none, 150, 150, none, none⟩
        personalNote := none
        receivedOn := none
        receivedLnurlComment := none }) := by
  obtain ⟨db', hmigrate, -, -, hretrieve⟩ :=
    migrate_preserves (by decide) (by decide) rfl firstVersion_wellFormed
  refine ⟨db', hmigrate, ?_⟩
  rw [hretrieve junesDateTime firstVersionStored firstVersion_stores]
  decide

end LipaLightning
