import LipaLightning.Amount
import LipaLightning.Text

set_option autoImplicit false

/-! # Invoices

A decoded bolt11 invoice of the SDK and the details shown of it (`invoice_details.rs`).
-/

namespace LipaLightning

/-- `breez_sdk_core::LNInvoice`, the fields the library reads. -/
structure LNInvoice where
  bolt11 : String
  payeePubkey : String
  paymentHash : String
  description : Option String
  amountMsat : Option UInt64
  timestamp : UInt64
  expiry : UInt64
  deriving DecidableEq, Repr

/-- Seconds since the Unix epoch as a time. -/
def unixTimestampToSystemTime (timestamp : UInt64) : SystemTime := timestamp.toNat * 1000000000

/-- Information embedded in an invoice. -/
structure InvoiceDetails where
  invoice : String
  amount : Option Amount
  description : String
  paymentHash : String
  payeePubKey : String
  creationTimestamp : SystemTime
  /-- A duration, in nanoseconds. -/
  expiryInterval : Nat
  expiryTimestamp : SystemTime
  deriving DecidableEq, Repr

def InvoiceDetails.fromLnInvoice (lnInvoice : LNInvoice) (exchangeRate : Option ExchangeRate) :
    InvoiceDetails where
  invoice := lnInvoice.bolt11
  amount := lnInvoice.amountMsat.map fun a => (asMsats a).toAmountDown exchangeRate
  description := lnInvoice.description.getD ""
  paymentHash := lnInvoice.paymentHash
  payeePubKey := lnInvoice.payeePubkey
  creationTimestamp := unixTimestampToSystemTime lnInvoice.timestamp
  expiryInterval := lnInvoice.expiry.toNat * 1000000000
  expiryTimestamp := unixTimestampToSystemTime (lnInvoice.timestamp + lnInvoice.expiry)

end LipaLightning
