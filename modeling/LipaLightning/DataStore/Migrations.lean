import LipaLightning.Basic.SqlRebuild
import LipaLightning.Errors

set_option autoImplicit false

/-! # The migrations of the local db

The migrations of `migrations.rs`, statement by statement, and `migrate`, which runs those that
the db has not seen yet. All but the last one only add tables, columns and rows. The last one
rebuilds the table `payments`, so that a payment can have a note without preferences; it also
corrects the name of a column. `migrate_keeps` shows that from each version on all rows are kept.
-/

namespace LipaLightning

open Sql

def migration01Init : List Statement := [
  .createTable {
    name := "payments"
    columns := [
      .notNull (.text "hash"),
      .notNull (.text "timezone_id"),
      .notNull (.integer "timezone_utc_offset_secs"),
      .notNull (.text "fiat_currency"),
      .integer "exchange_rates_history_snaphot_id"]
    rowId := none
    unique := [⟨["hash"], .replace⟩] },
  .createTable {
    name := "exchange_rates_history"
    columns := [
      .notNull (.integer "id"),
      .notNull (.integer "snapshot_id"),
      .notNull (.text "fiat_currency"),
      .notNull (.integer "rate"),
      .notNull (.integer "updated_at")]
    rowId := some "id"
    unique := [⟨["snapshot_id", "fiat_currency"], .ignore⟩] },
  .createTable {
    name := "offers"
    columns := [
      .notNull (.text "payment_hash"),
      .text "pocket_id",
      .text "fiat_currency",
      .integer "rate",
      .integer "exchanged_at",
      .integer "topup_value_minor_units",
      .integer "exchange_fee_minor_units",
      .integer "exchange_fee_rate_permyriad"]
    rowId := none
    unique := [⟨["payment_hash"], .replace⟩] },
  .createTable {
    name := "exchange_rates"
    columns := [
      .notNull (.text "fiat_currency"),
      .notNull (.integer "rate"),
      .withDefault (.notNull (.integer "updated_at")) .currentTimestamp]
    rowId := none
    unique := [⟨["fiat_currency"], .abort⟩] }]

def migration02FundsMigrationStatus : List Statement := [
  .createTable {
    name := "funds_migration_status"
    columns := [
      .notNull (.integer "id"),
      .notNull (.integer "status"),
      .withDefault (.notNull (.integer "updated_at")) .currentTimestamp]
    rowId := some "id"
    unique := [] },
  .insertValues "funds_migration_status" ["status"] [.integer 0]]

def migration03OfferErrorMessage : List Statement := [.addColumn "offers" (.text "error")]

def migration04CreatedInvoices : List Statement := [
  .createTable {
    name := "created_invoices"
    columns := [
      .notNull (.integer "id"),
      .notNull (.integer "hash"),
      .notNull (.text "invoice")]
    rowId := some "id"
    unique := [] }]

def migration05FiatTopupInfo : List Statement := [
  .createTable {
    name := "fiat_topup_info"
    columns := [
      .notNull (.text "order_id"),
      .notNull (.integer "created_at"),
      .notNull (.text "debitor_iban"),
      .notNull (.text "creditor_reference"),
      .notNull (.text "creditor_iban"),
      .notNull (.text "creditor_bank_name"),
      .notNull (.text "creditor_bank_street"),
      .notNull (.text "creditor_bank_postal_code"),
      .notNull (.text "creditor_bank_town"),
      .notNull (.text "creditor_bank_country"),
      .notNull (.text "creditor_bank_bic"),
      .notNull (.text "creditor_name"),
      .notNull (.text "creditor_street"),
      .notNull (.text "creditor_postal_code"),
      .notNull (.text "creditor_town"),
      .notNull (.text "creditor_country"),
      .notNull (.text "currency")]
    rowId := none
    unique := [⟨["order_id"], .abort⟩] }]

def migration06PaymentChannelOpeningFees : List Statement := [
  .addColumn "created_invoices" (.integer "channel_opening_fees")]

def migration07ResetFundMigrationStatus : List Statement := [
  .insertValues "funds_migration_status" ["status"] [.integer 0]]

def migration08OfferTopupValue : List Statement := [
  .addColumn "offers" (.integer "topup_value_sats")]

def migration09AddInvoiceExpiry : List Statement := [
  .addColumn "created_invoices"
    (.withDefault (.notNull (.integer "invoice_expiry_timestamp")) (.integer 0))]

def migration10AnalyticsConfig : List Statement := [
  .createTable {
    name := "analytics_config"
    columns := [
      .notNull (.integer "id"),
      .notNull (.integer "status"),
      .withDefault (.notNull (.integer "updated_at")) .currentTimestamp]
    rowId := some "id"
    unique := [] },
  .insertValues "analytics_config" ["status"] [.integer 0]]

def migration11LastRegisteredNotificationWebhookBaseUrl : List Statement := [
  .createTable {
    name := "webhook_base_url"
    columns := [
      .notNull (.integer "id"),
      .notNull (.text "url"),
      .withDefault (.notNull (.integer "updated_at")) .currentTimestamp]
    rowId := some "id"
    unique := [] }]

def migration12LightningAddresses : List Statement := [
  .createTable {
    name := "lightning_addresses"
    columns := [
      .notNull (.text "address"),
      .withDefault (.notNull (.integer "registered_at")) .currentTimestamp]
    rowId := none
    unique := [⟨["address"], .abort⟩] }]

def migration13PaymentPersonalNote : List Statement := [
  .addColumn "payments" (.text "personal_note")]

def migration14LnurlPayReceiveData : List Statement := [
  .addColumn "payments" (.text "received_on"),
  .addColumn "payments" (.text "received_lnurl_comment")]

def migration15LightningAddressesEnableStatus : List Statement := [
  .addColumn "lightning_addresses"
    (.withDefault (.notNull (.integer "enable_status")) (.integer 0))]

def migration16HiddenChannelCloseAmount : List Statement := [
  .createTable {
    name := "hidden_channel_close_amount"
    columns := [
      .notNull (.integer "id"),
      .notNull (.integer "amount_sat"),
      .withDefault (.notNull (.integer "inserted_at")) .currentTimestamp]
    rowId := some "id"
    unique := [] }]

def migration17HiddenFailedSwaps : List Statement := [
  .createTable {
    name := "hidden_failed_swaps"
    columns := [
      .notNull (.integer "id"),
      .notNull (.text "swap_address"),
      .withDefault (.notNull (.integer "inserted_at")) .currentTimestamp]
    rowId := some "id"
    unique := [] }]

def migration18FiatCurrency : List Statement := [
  .createTable {
    name := "fiat_currency"
    columns := [
      .notNull (.integer "id"),
      .notNull (.text "fiat_currency"),
      .withDefault (.notNull (.integer "inserter_at")) .currentTimestamp]
    rowId := some "id"
    unique := [] }]

/-- The table that `MIGRATION_19_PAYMENT_OPTIONAL_FIELDS` creates. -/
def paymentsNew : Table where
  name := "payments_new"
  columns := [
    .notNull (.text "hash"),
    .text "timezone_id",
    .integer "timezone_utc_offset_secs",
    .text "fiat_currency",
    .integer "exchange_rates_history_snapshot_id",
    .text "personal_note",
    .text "received_on",
    .text "received_lnurl_comment"]
  rowId := none
  unique := [⟨["hash"], .replace⟩]

def paymentsNewColumns : List String :=
  ["hash", "timezone_id", "timezone_utc_offset_secs", "fiat_currency",
    "exchange_rates_history_snapshot_id", "personal_note", "received_on", "received_lnurl_comment"]

def paymentsSelected : List String :=
  ["hash", "timezone_id", "timezone_utc_offset_secs", "fiat_currency",
    "exchange_rates_history_snaphot_id", "personal_note", "received_on", "received_lnurl_comment"]

def migration19PaymentOptionalFields : List Statement := [
  .createTable paymentsNew,
  .insertSelect "payments_new" paymentsNewColumns "payments" paymentsSelected,
  .dropTable "payments",
  .renameTable "payments_new" "payments"]

def migrations : List (List Statement) := [
  migration01Init,
  migration02FundsMigrationStatus,
  migration03OfferErrorMessage,
  migration04CreatedInvoices,
  migration05FiatTopupInfo,
  migration06PaymentChannelOpeningFees,
  migration07ResetFundMigrationStatus,
  migration08OfferTopupValue,
  migration09AddInvoiceExpiry,
  migration10AnalyticsConfig,
  migration11LastRegisteredNotificationWebhookBaseUrl,
  migration12LightningAddresses,
  migration13PaymentPersonalNote,
  migration14LnurlPayReceiveData,
  migration15LightningAddressesEnableStatus,
  migration16HiddenChannelCloseAmount,
  migration17HiddenFailedSwaps,
  migration18FiatCurrency,
  migration19PaymentOptionalFields]

/-- A connection to a db file, with its `user_version`. -/
structure Connection (ρ : Type) where
  db : Database ρ
  userVersion : Nat

inductive MigrationError where
  | databaseTooFarAhead
  | sql (e : SqlError)
  deriving DecidableEq, Repr

section

variable {ρ : Type} [DecidableEq ρ] (engine : Engine ρ)

/-- `rusqlite_migration::Migrations::to_latest`. -/
def toLatest (migrations : List (List Statement)) (conn : Connection ρ) :
    Except MigrationError (Connection ρ) :=
  if migrations.length < conn.userVersion then .error .databaseTooFarAhead
  else match execAll engine conn.db (migrations.drop conn.userVersion).flatten with
    | .ok db => .ok ⟨db, migrations.length⟩
    | .error e => .error (.sql e)

/-- The migrations run in one transaction, so that the db stays as it is when one of them fails. -/
def migrate (conn : Connection ρ) : Result Unit × Connection ρ :=
  match toLatest engine migrations conn with
  | .ok conn' => (.ok (), conn')
  | .error _ => (.error (.permanentFailure "Failed to migrate the db"), conn)

end

/-- The schema of a version: what the migrations up to it make of the empty schema. -/
def schemaAt (version : Nat) : List Table :=
  match (migrations.take version).flatten.foldlM execSchema [] with
  | .ok tables => tables
  | .error _ => []

/-- The name of a column in the latest version. -/
def latestName (table column : String) : String :=
  if table = "payments" ∧ column = "exchange_rates_history_snaphot_id" then
    "exchange_rates_history_snapshot_id"
  else column

/-! ## The migrations that only add -/

set_option maxRecDepth 4000 in
/-- All migrations but the last one only add to the schema. -/
theorem additiveRun_empty : additiveRun [] (migrations.take 18).flatten = some (schemaAt 18) := by
  decide

/-- From each version on they only add. -/
theorem additiveRun_migrations {version : Nat} (hversion : version < 19) :
    additiveRun (schemaAt version) ((migrations.take 18).drop version).flatten
      = some (schemaAt 18) := by
  have hsplit : (migrations.take 18).flatten
      = (migrations.take version).flatten ++ ((migrations.take 18).drop version).flatten := by
    have htake : (migrations.take 18).take version = migrations.take version := by
      rw [List.take_take, Nat.min_eq_left (by omega)]
    rw [← htake, ← List.flatten_append, List.take_append_drop]
  have hrun := additiveRun_empty
  rw [hsplit, additiveRun_append] at hrun
  obtain ⟨tables, htables, hrest⟩ := Option.bind_eq_some_iff.mp hrun
  have hschema : schemaAt version = tables := by
    rw [schemaAt, foldlM_of_additiveRun htables]
  rw [hschema]
  exact hrest

theorem drop_migrations {version : Nat} (hversion : version < 19) :
    (migrations.drop version).flatten
      = ((migrations.take 18).drop version).flatten ++ migration19PaymentOptionalFields := by
  have hlast : migrations = migrations.take 18 ++ [migration19PaymentOptionalFields] := rfl
  have hlength : version ≤ (migrations.take 18).length := Nat.le_of_lt_succ hversion
  calc (migrations.drop version).flatten
      = ((migrations.take 18 ++ [migration19PaymentOptionalFields]).drop version).flatten := by
        rw [← hlast]
    _ = ((migrations.take 18).drop version ++ [migration19PaymentOptionalFields]).flatten := by
        rw [List.drop_append_of_le_length hlength]
    _ = ((migrations.take 18).drop version).flatten ++ migration19PaymentOptionalFields := by
        rw [List.flatten_append, List.flatten_singleton]

set_option maxRecDepth 4000 in
/-- Of the tables that exist already, only the status of the funds migration gets new rows. -/
theorem targets_migrations : ∀ version < 19,
    ∀ name ∈ targets ((migrations.take 18).drop version).flatten,
      (find (schemaAt version) name).isSome = true → name = "funds_migration_status" := by
  decide

/-! ## The last migration -/

/-- The table `payments` before the last migration. -/
def payments18 : Table where
  name := "payments"
  columns := [
    .notNull (.text "hash"),
    .notNull (.text "timezone_id"),
    .notNull (.integer "timezone_utc_offset_secs"),
    .notNull (.text "fiat_currency"),
    .integer "exchange_rates_history_snaphot_id",
    .text "personal_note",
    .text "received_on",
    .text "received_lnurl_comment"]
  rowId := none
  unique := [⟨["hash"], .replace⟩]

set_option maxRecDepth 4000 in
/-- What the last migration finds and makes. The latest version has no column whose name is
corrected. -/
theorem schemaAt_migration19 :
    find (schemaAt 18) "payments" = some payments18 ∧
    find (schemaAt 18) "payments_new" = none ∧
    migration19PaymentOptionalFields.foldlM execSchema (schemaAt 18) = .ok (schemaAt 19) ∧
    ∀ t ∈ schemaAt 19, ∀ c ∈ t.columns, latestName t.name c.name = c.name := by
  decide

theorem find_payments18 : find (schemaAt 18) "payments" = some payments18 :=
  schemaAt_migration19.1

theorem find_paymentsNew : find (schemaAt 18) "payments_new" = none := schemaAt_migration19.2.1

theorem execSchema_migration19 :
    migration19PaymentOptionalFields.foldlM execSchema (schemaAt 18) = .ok (schemaAt 19) :=
  schemaAt_migration19.2.2.1

theorem latestName_schemaAt : ∀ t ∈ schemaAt 19, ∀ c ∈ t.columns,
    latestName t.name c.name = c.name :=
  schemaAt_migration19.2.2.2

/-- Every column is copied, and the constraints are no stronger than before. -/
theorem paymentsNew_copies : Copies paymentsNew payments18 paymentsNewColumns paymentsSelected where
  rowId := rfl
  nodup := by decide
  column := by decide
  unique := by decide

/-- The columns keep their names, except for the one whose name is corrected. -/
theorem payments18_extends :
    payments18.Extends (latestName "payments") { paymentsNew with name := "payments" } where
  mem := by decide
  same := by decide

theorem payments18_copied : ∀ c ∈ payments18.columns,
    latestName "payments" c.name ∈ paymentsNew.columnNames ∧
      (paymentsNewColumns.zip paymentsSelected).lookup (latestName "payments" c.name)
        = some c.name := by
  decide

theorem paymentsNew_copied : ∀ name ∈ paymentsNew.columnNames,
    name ∈ payments18.columnNames.map (latestName "payments") := by
  decide

theorem latestName_of_ne {table : String} (h : table ≠ "payments") (column : String) :
    latestName table column = column := by
  simp [latestName, h]

section

variable {ρ : Type} [DecidableEq ρ] {engine : Engine ρ}

/-- The last migration keeps all rows. -/
theorem migration19_keeps {db : Database ρ} (htables : db.tables = schemaAt 18)
    (hwf : db.WellFormed engine) :
    ∃ db', execAll engine db migration19PaymentOptionalFields = .ok db' ∧
      db'.tables = schemaAt 19 ∧ Keeps engine latestName [] db db' := by
  have hpayments : find db.tables payments18.name = some payments18 := by
    rw [htables]
    exact find_payments18
  have hholds := hwf _ _ hpayments
  have hnew : find db.tables paymentsNew.name = none := by
    rw [htables]
    exact find_paymentsNew
  have hselected : ∀ c ∈ paymentsSelected, c ∈ payments18.columnNames := by decide
  have hcolumns : ∀ c ∈ paymentsNewColumns, c ∈ paymentsNew.columnNames := by decide
  obtain ⟨db', hexec, hfind, hrows, hothers⟩ :=
    execAll_rebuild hpayments hnew hselected hcolumns rfl paymentsNew_copies hholds
  refine ⟨db', hexec, ?_, fun name t ht => ?_⟩
  · have htables' := execAll_tables hexec
    rw [htables] at htables'
    exact Except.ok.inj (htables'.symm.trans execSchema_migration19)
  · by_cases hname : name = "payments"
    · subst hname
      obtain rfl : t = payments18 := Option.some.inj (ht.symm.trans hpayments)
      refine ⟨{ paymentsNew with name := "payments" }, db'.rows "payments", [], ?_,
        payments18_extends, (List.append_nil _).symm, fun h => absurd rfl h, ?_⟩
      · exact (hfind "payments").trans (if_pos rfl)
      · show List.Forall₂ _ (db.rows payments18.name) (db'.rows payments18.name)
        rw [hrows]
        exact paymentsNew_copies.keeps hholds rfl payments18_copied paymentsNew_copied
    · have hname' : name ≠ "payments_new" := by
        rintro rfl
        rw [htables, find_paymentsNew] at ht
        cases ht
      obtain ⟨hextends, hkept⟩ := keeps_untouched engine (hwf name t ht).nodup
        (fun c _ => latestName_of_ne hname c.name) (db.rows name)
      refine ⟨t, db.rows name, [], ?_, hextends, ?_, fun h => absurd rfl h, hkept⟩
      · exact (hfind name).trans ((if_neg hname).trans ((if_neg hname').trans ht))
      · rw [hothers name hname hname', List.append_nil]

/-- **The migrations keep the data.** From every version the migrations succeed on every content
that meets the constraints. All rows are kept: every column that existed has the same value, under
its latest name, and every new column has its default. Only the status of the funds migration gets
new rows. -/
theorem migrate_keeps {conn : Connection ρ} (hversion : conn.userVersion ≤ 19)
    (htables : conn.db.tables = schemaAt conn.userVersion) (hwf : conn.db.WellFormed engine) :
    ∃ db', migrate engine conn = (.ok (), ⟨db', 19⟩) ∧ db'.tables = schemaAt 19 ∧
      Keeps engine latestName ["funds_migration_status"] conn.db db' := by
  have hmigrate : ∀ db',
      execAll engine conn.db (migrations.drop conn.userVersion).flatten = .ok db' →
      migrate engine conn = (.ok (), ⟨db', 19⟩) := by
    intro db' hexec
    have hnotAhead : ¬ migrations.length < conn.userVersion := Nat.not_lt.mpr hversion
    unfold migrate toLatest
    rw [if_neg hnotAhead, hexec]
    rfl
  rcases Nat.lt_or_eq_of_le hversion with hlt | heq
  · -- the migrations that only add, then the last one
    obtain ⟨db₁, hexec₁, htables₁, hwf₁, hkeeps₁⟩ := exists_execAll hwf
      (by rw [htables]; exact additiveRun_migrations hlt)
    obtain ⟨db', hexec', htables', hkeeps'⟩ := migration19_keeps htables₁ hwf₁
    refine ⟨db', hmigrate db' ?_, htables', ?_⟩
    · rw [drop_migrations hlt, execAll, List.foldlM_append]
      unfold execAll at hexec₁ hexec'
      rw [hexec₁]
      exact hexec'
    · intro name t ht
      obtain ⟨t', kept, added, ht', hextends, hrows, hgrows, hkept⟩ :=
        hkeeps₁.trans hkeeps' name t ht
      refine ⟨t', kept, added, ht', hextends, hrows, fun hadded => ?_, hkept⟩
      have htarget := hgrows hadded
      rw [List.append_nil] at htarget
      rw [List.mem_singleton]
      refine targets_migrations conn.userVersion hlt name htarget ?_
      rw [← htables, ht]
      rfl
  · -- nothing is left to do
    rw [heq] at htables
    refine ⟨conn.db, hmigrate conn.db ?_, htables, fun name t ht => ?_⟩
    · rw [heq]
      rfl
    · have hrename : ∀ c ∈ t.columns, latestName name c.name = c.name := by
        rw [htables] at ht
        rw [← name_of_find ht]
        exact latestName_schemaAt t (List.mem_of_find?_eq_some ht)
      obtain ⟨hextends, hkept⟩ :=
        keeps_untouched engine (hwf name t ht).nodup hrename (conn.db.rows name)
      exact ⟨t, conn.db.rows name, [], ht, hextends, (List.append_nil _).symm,
        fun h => absurd rfl h, hkept⟩

end

end LipaLightning
