import LipaLightning.Basic.KeyedTable
import LipaLightning.Offer

set_option autoImplicit false

/-! # The tables of the local db

The tables of the latest schema version (`migrations.rs`) that the data store reads or
writes. A table with a key that no two rows share is a `KeyedTable`. The rows of a table
that is only appended to are kept in the order of their `id`, so that `ORDER BY id DESC`
reads the list from its end.

A row has the columns the code writes or reads, each at the type the code writes it at: an
`INSERT` binds typed values, and reading such a value back at its type succeeds. The one
column that changes the value it is given is `created_invoices.hash`: it holds text but is
declared `INTEGER` (`integerAffinity`).
-/

namespace LipaLightning

/-! ## The `INTEGER` affinity -/

/-- The number `± digits · 10 ^ exponent`, without leading or trailing zeros. -/
structure Decimal where
  negative : Bool
  digits : List Nat
  exponent : Int
  deriving DecidableEq, Repr

/-- A value in a column with `INTEGER` affinity. -/
inductive SqlValue where
  | integer (i : Int)
  | real (d : Decimal)
  | text (s : String)
  deriving DecidableEq, Repr

namespace Decimal

/-- The number with leading and trailing zeros removed. -/
def normalize (negative : Bool) (digits : List Nat) (exponent : Int) : Decimal :=
  let zeros := (digits.reverse.takeWhile (· == 0)).length
  let significant := (digits.dropWhile (· == 0)).reverse.dropWhile (· == 0) |>.reverse
  if significant.isEmpty then ⟨false, [], 0⟩ else ⟨negative, significant, exponent + zeros⟩

/-- The number as a 64-bit signed integer, if it is one. -/
def toInteger? (d : Decimal) : Option Int :=
  if 0 ≤ d.exponent ∧ d.digits.length + d.exponent ≤ 19 then
    let magnitude : Int := (d.digits.foldl (fun n i => 10 * n + i) 0 : Nat) * 10 ^ d.exponent.toNat
    let value := if d.negative then -magnitude else magnitude
    if -2 ^ 63 ≤ value ∧ value < 2 ^ 63 then some value else none
  else none

/-- The first 15 significant digits, the ones a `REAL` preserves. -/
def toReal (d : Decimal) : Decimal :=
  normalize d.negative (d.digits.take 15) (d.exponent + (d.digits.drop 15).length)

end Decimal

/-- The digits of an exponent, with its sign. -/
def exponentLiteral : List Char → Option Int
  | [] => none
  | c :: cs =>
      let (sign, cs) := if c = '-' then (-1, cs) else if c = '+' then (1, cs) else (1, c :: cs)
      if cs ≠ [] ∧ cs.all Char.isDigit then
        some (sign * (cs.foldl (fun n c => 10 * n + (c.toNat - 48)) 0 : Nat))
      else none

/-- The number a text stands for when it is a well-formed integer or real literal. -/
def numericLiteral (s : String) : Option Decimal :=
  let isSpace := fun c => c = ' ' ∨ ('\t' ≤ c ∧ c ≤ '\r')
  let cs := ((s.toList.dropWhile isSpace).reverse.dropWhile isSpace).reverse
  let (negative, cs) := match cs with
    | '-' :: cs => (true, cs)
    | '+' :: cs => (false, cs)
    | cs => (false, cs)
  let (whole, cs) := cs.span Char.isDigit
  let (fraction, cs) := match cs with
    | '.' :: cs => cs.span Char.isDigit
    | cs => ([], cs)
  let number := fun exponent => Decimal.normalize negative
    ((whole ++ fraction).map (fun c => c.toNat - 48)) (exponent - fraction.length)
  if (whole ++ fraction).isEmpty then none
  else match cs with
    | [] => some (number 0)
    | c :: cs => if c = 'e' ∨ c = 'E' then (exponentLiteral cs).map number else none

/-- The value stored when a text is written to a column with `INTEGER` affinity: a numeric
literal is converted to the number it stands for, any other text is kept. -/
def integerAffinity (s : String) : SqlValue :=
  match numericLiteral s with
  | none => .text s
  | some d => match d.toInteger? with
    | some i => .integer i
    | none => .real d.toReal

/-- Reading a column as a `String`: rusqlite converts no number to text. -/
def SqlValue.asText : SqlValue → Option String
  | .text s => some s
  | .integer _ => none
  | .real _ => none

/-- A text that is not converted is read back. -/
theorem asText_integerAffinity {s t : String} (h : (integerAffinity s).asText = some t) :
    integerAffinity s = .text s ∧ t = s := by
  unfold integerAffinity at h ⊢
  cases hd : numericLiteral s with
  | none => simpa [hd, SqlValue.asText, eq_comm] using h
  | some d =>
      rw [hd] at h
      cases hi : d.toInteger? <;> simp [hi, SqlValue.asText] at h

/-- A hash of digits and a single `e` is a real literal, one with another letter is text. -/
example : integerAffinity "12e3" = .integer 12000 ∧ integerAffinity "12a3" = .text "12a3"
    ∧ (integerAffinity "12345678901234567890e9").asText = none := by decide

/-! ## Rows -/

structure PaymentRow where
  hash : String
  timezoneId : Option String
  timezoneUtcOffsetSecs : Option Int32
  fiatCurrency : Option String
  exchangeRatesHistorySnapshotId : Option UInt64
  personalNote : Option String
  receivedOn : Option String
  receivedLnurlComment : Option String
  deriving DecidableEq, Repr

structure ExchangeRatesHistoryRow where
  snapshotId : UInt64
  fiatCurrency : String
  rate : UInt32
  updatedAt : SystemTime
  deriving DecidableEq, Repr

/-- The key of `UNIQUE(snapshot_id, fiat_currency)`. -/
def ExchangeRatesHistoryRow.key (r : ExchangeRatesHistoryRow) : UInt64 × String :=
  (r.snapshotId, r.fiatCurrency)

/-- A row of `offers`. The columns are nullable, but the only `INSERT` fills all of them
except `error` and `topup_value_sats`. -/
structure OfferRow where
  paymentHash : String
  pocketId : String
  fiatCurrency : String
  rate : UInt32
  exchangedAt : SystemTime
  topupValueMinorUnits : UInt64
  exchangeFeeMinorUnits : UInt64
  exchangeFeeRatePermyriad : UInt16
  error : Option String
  topupValueSats : Option UInt64
  deriving DecidableEq, Repr

structure CreatedInvoiceRow where
  hash : SqlValue
  invoice : String
  channelOpeningFees : Option UInt64
  invoiceExpiryTimestamp : UInt64
  deriving DecidableEq, Repr

/-- `crow::FiatTopupSetupInfo`. -/
structure FiatTopupSetupInfo where
  orderId : String
  debitorIban : String
  creditorReference : String
  creditorIban : String
  creditorBankName : String
  creditorBankStreet : String
  creditorBankPostalCode : String
  creditorBankTown : String
  creditorBankCountry : String
  creditorBankBic : String
  creditorName : String
  creditorStreet : String
  creditorPostalCode : String
  creditorTown : String
  creditorCountry : String
  currency : String
  deriving DecidableEq, Repr

structure FiatTopupInfoRow where
  createdAt : SystemTime
  info : FiatTopupSetupInfo
  deriving DecidableEq, Repr

def FiatTopupInfoRow.orderId (r : FiatTopupInfoRow) : String := r.info.orderId

/-- A row of `lightning_addresses`; `registered_at` is the `CURRENT_TIMESTAMP`, in
seconds. -/
structure LightningAddressRow where
  address : String
  registeredAt : Int
  enableStatus : UInt8
  deriving DecidableEq, Repr

/-! ## The db -/

@[ext] structure Db where
  payments : KeyedTable PaymentRow.hash
  exchangeRatesHistory : KeyedTable ExchangeRatesHistoryRow.key
  offers : KeyedTable OfferRow.paymentHash
  exchangeRates : KeyedTable ExchangeRate.currencyCode
  createdInvoices : List CreatedInvoiceRow
  fiatTopupInfo : KeyedTable FiatTopupInfoRow.orderId
  /-- The `status` column. -/
  analyticsConfig : List UInt8
  lightningAddresses : KeyedTable LightningAddressRow.address
  /-- The `amount_sat` column. -/
  hiddenChannelCloseAmount : List UInt64
  /-- The `swap_address` column. -/
  hiddenFailedSwaps : List String
  /-- The `fiat_currency` column. -/
  fiatCurrency : List String

/-- The db the migrations create: empty, except for the analytics config that
`MIGRATION_10_ANALYTICS_CONFIG` inserts. -/
def Db.migrated : Db where
  payments := .empty
  exchangeRatesHistory := .empty
  offers := .empty
  exchangeRates := .empty
  createdInvoices := []
  fiatTopupInfo := .empty
  analyticsConfig := [0]
  lightningAddresses := .empty
  hiddenChannelCloseAmount := []
  hiddenFailedSwaps := []
  fiatCurrency := []

end LipaLightning
