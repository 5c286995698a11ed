import LipaLightning.Basic.Sql
import LipaLightning.DataStore.Store

set_option autoImplicit false

/-! # The query of a payment

The query of `retrieve_payment_info` on the tables of the db file: the joins, the conversions of
`rusqlite` and the assembly of what is returned, column by column. `retrievePaymentInfo_eq` shows
that the query returns what `DataStore.retrievePaymentInfo` does on a `Db` with the same rows.
-/

namespace LipaLightning

open Sql

variable {ρ : Type}

/-! ## The conversions of `rusqlite` -/

def asString : Value ρ → Option String
  | .text s => some s
  | _ => none

def asU64 : Value ρ → Option UInt64
  | .integer i => if 0 ≤ i ∧ i < 2 ^ 63 then some (.ofNat i.toNat) else none
  | _ => none

def asU32 : Value ρ → Option UInt32
  | .integer i => if 0 ≤ i ∧ i < 2 ^ 32 then some (.ofNat i.toNat) else none
  | _ => none

def asU16 : Value ρ → Option UInt16
  | .integer i => if 0 ≤ i ∧ i < 2 ^ 16 then some (.ofNat i.toNat) else none
  | _ => none

def asI32 : Value ρ → Option Int32
  | .integer i => if -2 ^ 31 ≤ i ∧ i < 2 ^ 31 then some (.ofInt i) else none
  | _ => none

/-- `dateTime` reads the text of a `chrono::DateTime<Utc>`. -/
def asDateTime (dateTime : String → Option SystemTime) : Value ρ → Option SystemTime
  | .text s => dateTime s
  | _ => none

def asOption {α : Type} (as : Value ρ → Option α) : Value ρ → Option (Option α)
  | .null => some none
  | v => (as v).map some

/-! ## The query -/

section

variable [DecidableEq ρ]

/-- `=` in SQL: `NULL` is not equal to anything. -/
def sqlEq (v w : Value ρ) : Bool := v ≠ .null ∧ v = w

/-- The rows that a row is joined with; one of `NULL`s if there are none. -/
def leftJoin (rows : List (Row ρ)) (on : Row ρ → Bool) : List (Row ρ) :=
  match rows.filter on with
  | [] => [fun _ => .null]
  | rows => rows

/-- The columns in the order of the `SELECT`, for rows of `payments`, of the history and of
`offers`. -/
def selectedColumns (p h o : Row ρ) : List (Value ρ) :=
  [p "timezone_id", p "timezone_utc_offset_secs", p "fiat_currency", h "rate", h "updated_at",
    o "pocket_id", o "fiat_currency", o "rate", o "exchanged_at", o "topup_value_minor_units",
    o "exchange_fee_minor_units", o "exchange_fee_rate_permyriad", o "error",
    o "topup_value_sats", p "personal_note", p "received_on", p "received_lnurl_comment"]

def selectPaymentInfo (db : Database ρ) (paymentHash : String) : List (List (Value ρ)) := do
  let p ← (db.rows "payments").filter fun p => sqlEq (p "hash") (.text paymentHash)
  let h ← leftJoin (db.rows "exchange_rates_history") fun h =>
    sqlEq (p "exchange_rates_history_snapshot_id") (h "snapshot_id")
      && sqlEq (p "fiat_currency") (h "fiat_currency")
  let o ← leftJoin (db.rows "offers") fun o => sqlEq (o "payment_hash") (p "hash")
  return selectedColumns p h o

end

namespace SelectedRow

/-- `row.get(i)` at the type that `as` reads. -/
def get {α : Type} (row : List (Value ρ)) (i : Nat) (as : Value ρ → Option α) : Option α :=
  row[i]?.bind as

variable (dateTime : String → Option SystemTime) (row : List (Value ρ))

def offerFromRow : Option (Option Offer) := do
  match ← get row 5 (asOption asString) with
  | none => return none
  | some id =>
      let fiatCurrency ← get row 6 asString
      let rate ← get row 7 asU32
      let exchangedAt ← get row 8 (asDateTime dateTime)
      let topupValueMinorUnits ← get row 9 asU64
      let exchangeFeeMinorUnits ← get row 10 asU64
      let exchangeFeeRatePermyriad ← get row 11 asU16
      let topupValueSats ← get row 13 (asOption asU64)
      let error ← get row 12 (asOption asString)
      return some {
        id := id
        exchangeRate := ⟨fiatCurrency, rate, exchangedAt⟩
        topupValueMinorUnits := topupValueMinorUnits
        topupValueSats := topupValueSats
        exchangeFeeMinorUnits := exchangeFeeMinorUnits
        exchangeFeeRatePermyriad := exchangeFeeRatePermyriad
        lightningPayoutFee := none
        error := toOfferError error }

def userPreferencesFromRow : Option (Option UserPreferences) := do
  let timezoneId ← get row 0 (asOption asString)
  let timezoneUtcOffsetSecs ← get row 1 (asOption asI32)
  let fiatCurrency ← get row 2 (asOption asString)
  return match timezoneId, timezoneUtcOffsetSecs, fiatCurrency with
    | some timezoneId, some timezoneUtcOffsetSecs, some fiatCurrency =>
        some ⟨fiatCurrency, ⟨timezoneId, timezoneUtcOffsetSecs⟩⟩
    | _, _, _ => none

def paymentExchangeRateFromRow : Option (Option ExchangeRate) := do
  let currencyCode ← get row 2 (asOption asString)
  let rate ← get row 3 (asOption asU32)
  let updatedAt ← get row 4 (asOption (asDateTime dateTime))
  return match currencyCode, rate, updatedAt with
    | some currencyCode, some rate, some updatedAt => some ⟨currencyCode, rate, updatedAt⟩
    | _, _, _ => none

def localPaymentDataFromRow : Option LocalPaymentData := do
  let userPreferences ← userPreferencesFromRow row
  let exchangeRate ← paymentExchangeRateFromRow dateTime row
  let offer ← offerFromRow dateTime row
  let personalNote ← get row 14 (asOption asString)
  let receivedOn ← get row 15 (asOption asString)
  let receivedLnurlComment ← get row 16 (asOption asString)
  return ⟨userPreferences, exchangeRate, offer, personalNote, receivedOn, receivedLnurlComment⟩

end SelectedRow

/-- `retrieve_payment_info` on a db file. -/
def retrievePaymentInfo [DecidableEq ρ] (dateTime : String → Option SystemTime)
    (db : Database ρ) (paymentHash : String) : Result (Option LocalPaymentData) :=
  match selectPaymentInfo db paymentHash with
  | [] => .ok none
  | row :: _ =>
      match SelectedRow.localPaymentDataFromRow dateTime row with
      | some data => .ok (some data)
      | none => .error (.permanentFailure "Corrupted db")

/-! ## What the rows read as -/

/-- A row of `payments` reads as `r`. -/
structure ReadsAsPayment (row : Row ρ) (snapshotId : Value ρ) (r : PaymentRow) : Prop where
  hash : asString (row "hash") = some r.hash
  timezoneId : asOption asString (row "timezone_id") = some r.timezoneId
  timezoneUtcOffsetSecs :
    asOption asI32 (row "timezone_utc_offset_secs") = some r.timezoneUtcOffsetSecs
  fiatCurrency : asOption asString (row "fiat_currency") = some r.fiatCurrency
  snapshotId : asOption asU64 snapshotId = some r.exchangeRatesHistorySnapshotId
  personalNote : asOption asString (row "personal_note") = some r.personalNote
  receivedOn : asOption asString (row "received_on") = some r.receivedOn
  receivedLnurlComment :
    asOption asString (row "received_lnurl_comment") = some r.receivedLnurlComment

def paymentColumns : List String :=
  ["hash", "timezone_id", "timezone_utc_offset_secs", "fiat_currency", "personal_note",
    "received_on", "received_lnurl_comment"]

theorem ReadsAsPayment.congr {row row' : Row ρ} {snapshotId : Value ρ} {r : PaymentRow}
    (h : ReadsAsPayment row snapshotId r) (hsame : ∀ c ∈ paymentColumns, row' c = row c) :
    ReadsAsPayment row' snapshotId r where
  hash := by rw [hsame _ (by decide)]; exact h.hash
  timezoneId := by rw [hsame _ (by decide)]; exact h.timezoneId
  timezoneUtcOffsetSecs := by rw [hsame _ (by decide)]; exact h.timezoneUtcOffsetSecs
  fiatCurrency := by rw [hsame _ (by decide)]; exact h.fiatCurrency
  snapshotId := h.snapshotId
  personalNote := by rw [hsame _ (by decide)]; exact h.personalNote
  receivedOn := by rw [hsame _ (by decide)]; exact h.receivedOn
  receivedLnurlComment := by rw [hsame _ (by decide)]; exact h.receivedLnurlComment

/-- A row of `exchange_rates_history` reads as `r`. -/
structure ReadsAsHistory (dateTime : String → Option SystemTime) (row : Row ρ)
    (r : ExchangeRatesHistoryRow) : Prop where
  snapshotId : asU64 (row "snapshot_id") = some r.snapshotId
  fiatCurrency : asString (row "fiat_currency") = some r.fiatCurrency
  rate : asU32 (row "rate") = some r.rate
  updatedAt : asDateTime dateTime (row "updated_at") = some r.updatedAt

def historyColumns : List String := ["snapshot_id", "fiat_currency", "rate", "updated_at"]

theorem ReadsAsHistory.congr {dateTime : String → Option SystemTime} {row row' : Row ρ}
    {r : ExchangeRatesHistoryRow} (h : ReadsAsHistory dateTime row r)
    (hsame : ∀ c ∈ historyColumns, row' c = row c) : ReadsAsHistory dateTime row' r where
  snapshotId := by rw [hsame _ (by decide)]; exact h.snapshotId
  fiatCurrency := by rw [hsame _ (by decide)]; exact h.fiatCurrency
  rate := by rw [hsame _ (by decide)]; exact h.rate
  updatedAt := by rw [hsame _ (by decide)]; exact h.updatedAt

/-- A row of `offers` reads as `r`. -/
structure ReadsAsOffer (dateTime : String → Option SystemTime) (row : Row ρ) (r : OfferRow) :
    Prop where
  paymentHash : asString (row "payment_hash") = some r.paymentHash
  pocketId : asString (row "pocket_id") = some r.pocketId
  fiatCurrency : asString (row "fiat_currency") = some r.fiatCurrency
  rate : asU32 (row "rate") = some r.rate
  exchangedAt : asDateTime dateTime (row "exchanged_at") = some r.exchangedAt
  topupValueMinorUnits : asU64 (row "topup_value_minor_units") = some r.topupValueMinorUnits
  exchangeFeeMinorUnits : asU64 (row "exchange_fee_minor_units") = some r.exchangeFeeMinorUnits
  exchangeFeeRatePermyriad :
    asU16 (row "exchange_fee_rate_permyriad") = some r.exchangeFeeRatePermyriad
  error : asOption asString (row "error") = some r.error
  topupValueSats : asOption asU64 (row "topup_value_sats") = some r.topupValueSats

def offerColumns : List String :=
  ["payment_hash", "pocket_id", "fiat_currency", "rate", "exchanged_at", "topup_value_minor_units",
    "exchange_fee_minor_units", "exchange_fee_rate_permyriad", "error", "topup_value_sats"]

theorem ReadsAsOffer.congr {dateTime : String → Option SystemTime} {row row' : Row ρ}
    {r : OfferRow} (h : ReadsAsOffer dateTime row r)
    (hsame : ∀ c ∈ offerColumns, row' c = row c) : ReadsAsOffer dateTime row' r where
  paymentHash := by rw [hsame _ (by decide)]; exact h.paymentHash
  pocketId := by rw [hsame _ (by decide)]; exact h.pocketId
  fiatCurrency := by rw [hsame _ (by decide)]; exact h.fiatCurrency
  rate := by rw [hsame _ (by decide)]; exact h.rate
  exchangedAt := by rw [hsame _ (by decide)]; exact h.exchangedAt
  topupValueMinorUnits := by rw [hsame _ (by decide)]; exact h.topupValueMinorUnits
  exchangeFeeMinorUnits := by rw [hsame _ (by decide)]; exact h.exchangeFeeMinorUnits
  exchangeFeeRatePermyriad := by rw [hsame _ (by decide)]; exact h.exchangeFeeRatePermyriad
  error := by rw [hsame _ (by decide)]; exact h.error
  topupValueSats := by rw [hsame _ (by decide)]; exact h.topupValueSats

/-- What the rows of the latest version read as. -/
structure ReadsLatest (dateTime : String → Option SystemTime) (db : Database ρ) (stored : Db) :
    Prop where
  payments : List.Forall₂
    (fun row => ReadsAsPayment row (row "exchange_rates_history_snapshot_id"))
    (db.rows "payments") stored.payments.rows
  exchangeRatesHistory : List.Forall₂ (ReadsAsHistory dateTime)
    (db.rows "exchange_rates_history") stored.exchangeRatesHistory.rows
  offers : List.Forall₂ (ReadsAsOffer dateTime) (db.rows "offers") stored.offers.rows

/-! ## The values that are compared -/

theorem asString_inj {v w : Value ρ} {s : String} (hv : asString v = some s)
    (hw : asString w = some s) : v = w := by
  have htext : ∀ {v : Value ρ}, asString v = some s → v = .text s := by
    intro v hv
    cases v with
    | text s' =>
        obtain rfl := Option.some.inj hv
        rfl
    | null => cases hv
    | integer i => cases hv
    | real x => cases hv
    | blob bytes => cases hv
  rw [htext hv, htext hw]

/-- Integers that read as the same number are the same. -/
theorem asU64_inj {v w : Value ρ} {n : UInt64} (hv : asU64 v = some n) (hw : asU64 w = some n) :
    v = w := by
  have hinteger : ∀ {v : Value ρ}, asU64 v = some n → v = .integer n.toNat := by
    intro v hv
    cases v with
    | integer i =>
        simp only [asU64] at hv
        split at hv
        · next hi =>
            obtain rfl := Option.some.inj hv
            have hlt : i.toNat < 2 ^ 64 := by omega
            rw [UInt64.toNat_ofNat_of_lt' hlt]
            congr 1
            omega
        · cases hv
    | null => cases hv
    | real x => cases hv
    | text s => cases hv
    | blob bytes => cases hv
  rw [hinteger hv, hinteger hw]

theorem asOption_of_ne_null {α : Type} {as : Value ρ → Option α} {v : Value ρ} (hv : v ≠ .null) :
    asOption as v = (as v).map some := by
  cases v with
  | null => exact absurd rfl hv
  | integer i => rfl
  | real x => rfl
  | text s => rfl
  | blob bytes => rfl

theorem asOption_of_eq_some {α : Type} {as : Value ρ → Option α} {v : Value ρ} {a : α}
    (hnull : as .null = none) (h : as v = some a) : asOption as v = some (some a) := by
  have hv : v ≠ .null := by
    rintro rfl
    rw [hnull] at h
    cases h
  rw [asOption_of_ne_null hv, h]
  rfl

theorem asOption_eq_none {α : Type} {as : Value ρ → Option α} {v : Value ρ}
    (h : asOption as v = some none) : v = .null := by
  by_contra hv
  rw [asOption_of_ne_null hv] at h
  simp at h

theorem asOption_eq_some {α : Type} {as : Value ρ → Option α} {v : Value ρ} {a : α}
    (h : asOption as v = some (some a)) : as v = some a ∧ v ≠ .null := by
  have hv : v ≠ .null := by
    rintro rfl
    cases h
  rw [asOption_of_ne_null hv] at h
  simp only [Option.map_eq_some_iff, Option.some.injEq, exists_eq_right] at h
  exact ⟨h, hv⟩

section

variable [DecidableEq ρ]

/-- Values are equal if they read as the same. -/
theorem sqlEq_iff {α : Type} {as : Value ρ → Option α} {v w : Value ρ} {a b : α}
    (hinj : ∀ {v w : Value ρ} {a}, as v = some a → as w = some a → v = w) (hnull : v ≠ .null)
    (hv : as v = some a) (hw : as w = some b) : sqlEq v w = true ↔ b = a := by
  unfold sqlEq
  rw [decide_eq_true_eq]
  constructor
  · rintro ⟨-, rfl⟩
    exact Option.some.inj (hw.symm.trans hv)
  · rintro rfl
    exact ⟨hnull, hinj hv hw⟩

theorem sqlEq_null (w : Value ρ) : sqlEq .null w = false := by
  unfold sqlEq
  simp

end

/-- A condition on a unique key finds the row of the key. -/
theorem filter_reads {α κ : Type} [DecidableEq κ] {key : α → κ} (table : KeyedTable key)
    {reads : Row ρ → α → Prop} {rows : List (Row ρ)} (h : List.Forall₂ reads rows table.rows)
    {on : Row ρ → Bool} {k : κ} (hon : ∀ row r, reads row r → (on row = true ↔ key r = k)) :
    List.Forall₂ reads (rows.filter on) (table.lookup k).toList := by
  rw [← table.filter_key k]
  refine List.rel_filter (fun row r hr => ?_) h
  show on row = true ↔ decide (key r = k) = true
  rw [decide_eq_true_eq]
  exact hon row r hr

/-- A row is joined with the row of the key, or with `NULL`s. -/
theorem leftJoin_cases {α : Type} {reads : Row ρ → α → Prop} {rows : List (Row ρ)}
    {on : Row ρ → Bool} {o : Option α} (h : List.Forall₂ reads (rows.filter on) o.toList) :
    (o = none ∧ leftJoin rows on = [fun _ => .null]) ∨
      ∃ r row, o = some r ∧ leftJoin rows on = [row] ∧ reads row r := by
  unfold leftJoin
  cases o with
  | none =>
      rw [Option.toList_none, List.forall₂_nil_right_iff] at h
      rw [h]
      exact .inl ⟨rfl, rfl⟩
  | some r =>
      rw [Option.toList_some] at h
      obtain ⟨row, rest, hrow, hrest, heq⟩ := List.forall₂_cons_right_iff.mp h
      rw [List.forall₂_nil_right_iff] at hrest
      rw [heq, hrest]
      exact .inr ⟨r, row, rfl, rfl, hrow⟩

/-! ## Reading a payment -/

section

variable {dateTime : String → Option SystemTime} {p h o : Row ρ}

theorem userPreferencesFromRow_eq {r : PaymentRow} {snapshotId : Value ρ}
    (hp : ReadsAsPayment p snapshotId r) :
    SelectedRow.userPreferencesFromRow (selectedColumns p h o)
      = some (DataStore.userPreferencesFromRow r) := by
  have hid : SelectedRow.get (selectedColumns p h o) 0 (asOption asString) = some r.timezoneId :=
    hp.timezoneId
  have hoffset : SelectedRow.get (selectedColumns p h o) 1 (asOption asI32)
      = some r.timezoneUtcOffsetSecs := hp.timezoneUtcOffsetSecs
  have hcurrency : SelectedRow.get (selectedColumns p h o) 2 (asOption asString)
      = some r.fiatCurrency := hp.fiatCurrency
  unfold SelectedRow.userPreferencesFromRow
  rw [hid, hoffset, hcurrency]
  rfl

/-- The rate is the one of the row that is joined. -/
theorem paymentExchangeRateFromRow_some {r : PaymentRow} {snapshotId : Value ρ}
    {hr : ExchangeRatesHistoryRow} (hp : ReadsAsPayment p snapshotId r)
    (hh : ReadsAsHistory dateTime h hr) (hcurrency : r.fiatCurrency = some hr.fiatCurrency) :
    SelectedRow.paymentExchangeRateFromRow dateTime (selectedColumns p h o)
      = some (some ⟨hr.fiatCurrency, hr.rate, hr.updatedAt⟩) := by
  have hcode : SelectedRow.get (selectedColumns p h o) 2 (asOption asString)
      = some (some hr.fiatCurrency) := hcurrency ▸ hp.fiatCurrency
  have hrate : SelectedRow.get (selectedColumns p h o) 3 (asOption asU32) = some (some hr.rate) :=
    asOption_of_eq_some rfl hh.rate
  have hupdated : SelectedRow.get (selectedColumns p h o) 4 (asOption (asDateTime dateTime))
      = some (some hr.updatedAt) := asOption_of_eq_some rfl hh.updatedAt
  unfold SelectedRow.paymentExchangeRateFromRow
  rw [hcode, hrate, hupdated]
  rfl

theorem paymentExchangeRateFromRow_none {r : PaymentRow} {snapshotId : Value ρ}
    (hp : ReadsAsPayment p snapshotId r) :
    SelectedRow.paymentExchangeRateFromRow dateTime (selectedColumns p (fun _ => .null) o)
      = some none := by
  have hcode : SelectedRow.get (selectedColumns p (fun _ => .null) o) 2 (asOption asString)
      = some r.fiatCurrency := hp.fiatCurrency
  unfold SelectedRow.paymentExchangeRateFromRow
  rw [hcode]
  cases r.fiatCurrency with
  | none => rfl
  | some fiatCurrency => rfl

theorem offerFromRow_some {r : OfferRow} (ho : ReadsAsOffer dateTime o r) :
    SelectedRow.offerFromRow dateTime (selectedColumns p h o)
      = some (some (DataStore.offerFromRow r)) := by
  have hid : SelectedRow.get (selectedColumns p h o) 5 (asOption asString)
      = some (some r.pocketId) := asOption_of_eq_some rfl ho.pocketId
  have hcurrency : SelectedRow.get (selectedColumns p h o) 6 asString = some r.fiatCurrency :=
    ho.fiatCurrency
  have hrate : SelectedRow.get (selectedColumns p h o) 7 asU32 = some r.rate := ho.rate
  have hexchanged : SelectedRow.get (selectedColumns p h o) 8 (asDateTime dateTime)
      = some r.exchangedAt := ho.exchangedAt
  have hvalue : SelectedRow.get (selectedColumns p h o) 9 asU64 = some r.topupValueMinorUnits :=
    ho.topupValueMinorUnits
  have hfee : SelectedRow.get (selectedColumns p h o) 10 asU64 = some r.exchangeFeeMinorUnits :=
    ho.exchangeFeeMinorUnits
  have hfeeRate : SelectedRow.get (selectedColumns p h o) 11 asU16
      = some r.exchangeFeeRatePermyriad := ho.exchangeFeeRatePermyriad
  have herror : SelectedRow.get (selectedColumns p h o) 12 (asOption asString) = some r.error :=
    ho.error
  have hsats : SelectedRow.get (selectedColumns p h o) 13 (asOption asU64)
      = some r.topupValueSats := ho.topupValueSats
  unfold SelectedRow.offerFromRow
  rw [hid]
  simp only [Option.bind_eq_bind, Option.bind_some, hcurrency, hrate, hexchanged, hvalue, hfee,
    hfeeRate, herror, hsats]
  rfl

theorem offerFromRow_none :
    SelectedRow.offerFromRow dateTime (selectedColumns p h fun _ => .null) = some none := rfl

/-- The rows of a payment are read as the data that is stored for it. -/
theorem localPaymentDataFromRow_eq {stored : Db} {r : PaymentRow} {snapshotId : Value ρ}
    (hp : ReadsAsPayment p snapshotId r)
    (hrate : SelectedRow.paymentExchangeRateFromRow dateTime (selectedColumns p h o)
      = some (DataStore.paymentExchangeRateFromRow stored r))
    (hoffer : SelectedRow.offerFromRow dateTime (selectedColumns p h o)
      = some ((stored.offers.lookup r.hash).map DataStore.offerFromRow)) :
    SelectedRow.localPaymentDataFromRow dateTime (selectedColumns p h o)
      = some (DataStore.localPaymentDataFromRow stored r) := by
  have hnote : SelectedRow.get (selectedColumns p h o) 14 (asOption asString)
      = some r.personalNote := hp.personalNote
  have hreceivedOn : SelectedRow.get (selectedColumns p h o) 15 (asOption asString)
      = some r.receivedOn := hp.receivedOn
  have hcomment : SelectedRow.get (selectedColumns p h o) 16 (asOption asString)
      = some r.receivedLnurlComment := hp.receivedLnurlComment
  unfold SelectedRow.localPaymentDataFromRow
  rw [userPreferencesFromRow_eq hp, hrate, hoffer, hnote, hreceivedOn, hcomment]
  rfl

end

section

variable [DecidableEq ρ] {dateTime : String → Option SystemTime} {db : Database ρ} {stored : Db}

/-- The rows of `payments` that the query finds. -/
theorem filter_payments (h : ReadsLatest dateTime db stored) (paymentHash : String) :
    List.Forall₂ (fun row => ReadsAsPayment row (row "exchange_rates_history_snapshot_id"))
      ((db.rows "payments").filter fun p => sqlEq (p "hash") (.text paymentHash))
      (stored.payments.lookup paymentHash).toList := by
  refine filter_reads stored.payments h.payments fun p r hp => ?_
  have hnull : p "hash" ≠ .null := by
    intro heq
    have hhash := hp.hash
    rw [heq] at hhash
    cases hhash
  have hequal : sqlEq (p "hash") (.text paymentHash) = true ↔ paymentHash = r.hash :=
    sqlEq_iff asString_inj hnull hp.hash rfl
  rw [hequal, eq_comm]

/-- The row of the history that a payment is joined with. -/
theorem filter_history (h : ReadsLatest dateTime db stored) {p : Row ρ} {r : PaymentRow}
    (hp : ReadsAsPayment p (p "exchange_rates_history_snapshot_id") r) :
    List.Forall₂ (ReadsAsHistory dateTime)
      ((db.rows "exchange_rates_history").filter fun h =>
        sqlEq (p "exchange_rates_history_snapshot_id") (h "snapshot_id")
          && sqlEq (p "fiat_currency") (h "fiat_currency"))
      (DataStore.historyRow stored r).toList := by
  have hsnapshotId := hp.snapshotId
  have hcurrency := hp.fiatCurrency
  unfold DataStore.historyRow
  cases hid : r.exchangeRatesHistorySnapshotId with
  | none =>
      rw [hid] at hsnapshotId
      rw [asOption_eq_none hsnapshotId]
      simp [sqlEq_null]
  | some snapshotId =>
      rw [hid] at hsnapshotId
      obtain ⟨hread, hnull⟩ := asOption_eq_some hsnapshotId
      cases hfiat : r.fiatCurrency with
      | none =>
          rw [hfiat] at hcurrency
          rw [asOption_eq_none hcurrency]
          simp [sqlEq_null]
      | some fiatCurrency =>
          rw [hfiat] at hcurrency
          obtain ⟨hread', hnull'⟩ := asOption_eq_some hcurrency
          refine filter_reads stored.exchangeRatesHistory h.exchangeRatesHistory
            fun row hr hrow => ?_
          rw [Bool.and_eq_true, sqlEq_iff asU64_inj hnull hread hrow.snapshotId,
            sqlEq_iff asString_inj hnull' hread' hrow.fiatCurrency]
          exact Prod.mk_inj.symm

/-- The offer that a payment is joined with. -/
theorem filter_offers (h : ReadsLatest dateTime db stored) {p : Row ρ} {r : PaymentRow}
    {snapshotId : Value ρ} (hp : ReadsAsPayment p snapshotId r) :
    List.Forall₂ (ReadsAsOffer dateTime)
      ((db.rows "offers").filter fun o => sqlEq (o "payment_hash") (p "hash"))
      (stored.offers.lookup r.hash).toList := by
  refine filter_reads stored.offers h.offers fun row o ho => ?_
  have hnull : row "payment_hash" ≠ .null := by
    intro heq
    have hhash := ho.paymentHash
    rw [heq] at hhash
    cases hhash
  have hequal : sqlEq (row "payment_hash") (p "hash") = true ↔ r.hash = o.paymentHash :=
    sqlEq_iff asString_inj hnull ho.paymentHash hp.hash
  rw [hequal, eq_comm]

theorem fiatCurrency_of_historyRow {r : PaymentRow} {hr : ExchangeRatesHistoryRow}
    (h : DataStore.historyRow stored r = some hr) : r.fiatCurrency = some hr.fiatCurrency := by
  unfold DataStore.historyRow at h
  split at h
  · next fiatCurrency _ hfiat =>
      have hcurrency : hr.fiatCurrency = fiatCurrency :=
        congrArg Prod.snd (KeyedTable.lookup_key h)
      rw [hfiat, hcurrency]
  · cases h

/-- The rate that is read is that of the row of the history. -/
theorem exists_leftJoin_history (h : ReadsLatest dateTime db stored) {p : Row ρ} {r : PaymentRow}
    (hp : ReadsAsPayment p (p "exchange_rates_history_snapshot_id") r) :
    ∃ hrow,
      leftJoin (db.rows "exchange_rates_history") (fun h =>
        sqlEq (p "exchange_rates_history_snapshot_id") (h "snapshot_id")
          && sqlEq (p "fiat_currency") (h "fiat_currency")) = [hrow] ∧
      ∀ o, SelectedRow.paymentExchangeRateFromRow dateTime (selectedColumns p hrow o)
        = some (DataStore.paymentExchangeRateFromRow stored r) := by
  rcases leftJoin_cases (filter_history h hp) with
    ⟨hnone, hjoin⟩ | ⟨hr, hrow, hsome, hjoin, hreads⟩
  · refine ⟨_, hjoin, fun o => ?_⟩
    rw [paymentExchangeRateFromRow_none hp, DataStore.paymentExchangeRateFromRow, hnone]
    rfl
  · refine ⟨hrow, hjoin, fun o => ?_⟩
    rw [paymentExchangeRateFromRow_some hp hreads (fiatCurrency_of_historyRow hsome),
      DataStore.paymentExchangeRateFromRow, hsome]
    rfl

/-- The offer that is read is the one stored for the payment. -/
theorem exists_leftJoin_offers (h : ReadsLatest dateTime db stored) {p : Row ρ} {r : PaymentRow}
    {snapshotId : Value ρ} (hp : ReadsAsPayment p snapshotId r) :
    ∃ orow,
      leftJoin (db.rows "offers") (fun o => sqlEq (o "payment_hash") (p "hash")) = [orow] ∧
      ∀ h, SelectedRow.offerFromRow dateTime (selectedColumns p h orow)
        = some ((stored.offers.lookup r.hash).map DataStore.offerFromRow) := by
  rcases leftJoin_cases (filter_offers h hp) with
    ⟨hnone, hjoin⟩ | ⟨ro, orow, hsome, hjoin, hreads⟩
  · refine ⟨_, hjoin, fun h => ?_⟩
    rw [offerFromRow_none, hnone]
    rfl
  · refine ⟨orow, hjoin, fun h => ?_⟩
    rw [offerFromRow_some hreads, hsome]
    rfl

/-- **The query.** The query returns what is stored. -/
theorem retrievePaymentInfo_eq (h : ReadsLatest dateTime db stored) (paymentHash : String) :
    retrievePaymentInfo dateTime db paymentHash
      = .ok ((stored.payments.lookup paymentHash).map
          (DataStore.localPaymentDataFromRow stored)) := by
  have hpayments := filter_payments h paymentHash
  unfold retrievePaymentInfo selectPaymentInfo
  cases hlookup : stored.payments.lookup paymentHash with
  | none =>
      rw [hlookup, Option.toList_none, List.forall₂_nil_right_iff] at hpayments
      rw [hpayments]
      rfl
  | some r =>
      rw [hlookup, Option.toList_some] at hpayments
      obtain ⟨p, rest, hp, hrest, hfilter⟩ := List.forall₂_cons_right_iff.mp hpayments
      rw [List.forall₂_nil_right_iff] at hrest
      obtain ⟨hrow, hhistory, hrate⟩ := exists_leftJoin_history h hp
      obtain ⟨orow, hoffers, hoffer⟩ := exists_leftJoin_offers h hp
      have hdata := localPaymentDataFromRow_eq hp (hrate orow) (hoffer hrow)
      rw [hfilter, hrest]
      simp only [List.bind_eq_flatMap, List.flatMap_singleton, hhistory, hoffers, List.pure_def,
        hdata, Option.map_some]

end

end LipaLightning
