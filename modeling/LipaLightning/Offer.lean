import LipaLightning.Amount

set_option autoImplicit false

/-! # Offers, preferences and what is stored about a payment

The data types the payment tables are filled from and read back into (`offer.rs`,
`node_config.rs`, `data_store.rs`), and the codes offer errors are stored under.
-/

namespace LipaLightning

/-- `crow::TemporaryFailureCode`. -/
inductive TemporaryFailureCode where
  | noRoute
  | invoiceExpired
  | unexpected
  | unknown (msg : String)
  deriving DecidableEq, Repr

/-- `crow::PermanentFailureCode`. -/
inductive PermanentFailureCode where
  | thresholdExceeded
  | orderInactive
  | companiesUnsupported
  | countryUnsupported
  | otherRiskDetected
  | customerRequested
  | accountNotMatching
  | payoutExpired
  deriving DecidableEq, Repr

/-- `crow::TopupError`, exported as `PocketOfferError`. -/
inductive PocketOfferError where
  | temporaryFailure (code : TemporaryFailureCode)
  | permanentFailure (code : PermanentFailureCode)
  deriving DecidableEq, Repr

structure Offer where
  id : String
  exchangeRate : ExchangeRate
  topupValueMinorUnits : UInt64
  topupValueSats : Option UInt64
  exchangeFeeMinorUnits : UInt64
  exchangeFeeRatePermyriad : UInt16
  lightningPayoutFee : Option Amount
  error : Option PocketOfferError
  deriving DecidableEq, Repr

structure TzConfig where
  timezoneId : String
  timezoneUtcOffsetSecs : Int32
  deriving DecidableEq, Repr

structure UserPreferences where
  fiatCurrency : String
  timezoneConfig : TzConfig
  deriving DecidableEq, Repr

/-- What `retrieve_payment_info` returns. -/
structure LocalPaymentData where
  userPreferences : Option UserPreferences
  exchangeRate : Option ExchangeRate
  offer : Option Offer
  personalNote : Option String
  receivedOn : Option String
  receivedLnurlComment : Option String
  deriving DecidableEq, Repr

def fromOfferError (error : Option PocketOfferError) : Option String :=
  error.map fun
    | .temporaryFailure .noRoute => "no_route"
    | .temporaryFailure .invoiceExpired => "invoice_expired"
    | .temporaryFailure .unexpected => "error"
    | .temporaryFailure (.unknown msg) => msg
    | .permanentFailure .thresholdExceeded => "threshold_exceeded"
    | .permanentFailure .orderInactive => "order_inactive"
    | .permanentFailure .companiesUnsupported => "companies_unsupported"
    | .permanentFailure .countryUnsupported => "country_unsupported"
    | .permanentFailure .otherRiskDetected => "other_risk_detected"
    | .permanentFailure .customerRequested => "customer_requested"
    | .permanentFailure .accountNotMatching => "account_not_matching"
    | .permanentFailure .payoutExpired => "payout_expired"

def toOfferError (code : Option String) : Option PocketOfferError :=
  code.map fun c =>
    if c = "no_route" then .temporaryFailure .noRoute
    else if c = "invoice_expired" then .temporaryFailure .invoiceExpired
    else if c = "error" then .temporaryFailure .unexpected
    else if c = "threshold_exceeded" then .permanentFailure .thresholdExceeded
    else if c = "order_inactive" then .permanentFailure .orderInactive
    else if c = "companies_unsupported" then .permanentFailure .companiesUnsupported
    else if c = "country_unsupported" then .permanentFailure .countryUnsupported
    else if c = "other_risk_detected" then .permanentFailure .otherRiskDetected
    else if c = "customer_requested" then .permanentFailure .customerRequested
    else if c = "account_not_matching" then .permanentFailure .accountNotMatching
    else if c = "payout_expired" then .permanentFailure .payoutExpired
    else .temporaryFailure (.unknown c)

end LipaLightning
