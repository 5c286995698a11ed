import LipaLightning.Activity.Payment
import LipaLightning.Lightning

set_option autoImplicit false

/-! # The analytics interceptor

The five methods of `AnalyticsInterceptor` (`analytics.rs`) and the events of the SDK that
reach them (`event.rs`). A method returns the analytics event it reports, if any: it reports
none if analytics are disabled.
-/

namespace LipaLightning

inductive PaymentSource where
  | camera
  | clipboard
  | nfc
  | manual
  deriving DecidableEq, Repr

/-- Metadata about a payment the client received in any way. -/
structure PaymentMetadata where
  source : PaymentSource
  processStartedAt : SystemTime
  deriving DecidableEq

/-- Metadata about an invoice the user created. -/
structure InvoiceCreationMetadata where
  requestCurrency : String
  deriving DecidableEq

inductive PayFailureReason where
  | noRoute
  | unknown
  deriving DecidableEq, Repr

inductive AnalyticsEvent where
  | payInitiated (paymentHash : String) (paidAmountMsat : UInt64)
      (requestedAmountMsat : Option UInt64) (satsPerUserCurrency : Option UInt32)
      (source : PaymentSource) (userCurrency : String)
      (processStartedAt executedAt : SystemTime)
  | paySucceeded (paymentHash : String) (lnFeesPaidMsat : UInt64) (confirmedAt : SystemTime)
  | payFailed (paymentHash : String) (reason : PayFailureReason) (failedAt : SystemTime)
  | requestInitiated (paymentHash : String) (enteredAmountMsat : Option UInt64)
      (satsPerUserCurrency : Option UInt32) (userCurrency requestCurrency : String)
      (createdAt : SystemTime)
  | requestSucceeded (paymentHash : String) (paidAmountMsat channelOpeningFeeMsat : UInt64)
      (receivedAt : SystemTime)
  deriving DecidableEq

/-- `breez_sdk_core::PaymentFailedData`, the fields the library reads. -/
structure PaymentFailedData where
  error : String
  invoice : Option LNInvoice
  deriving DecidableEq

/-- `breez_sdk_core::InvoicePaidDetails`. -/
structure InvoicePaidDetails where
  paymentHash : String
  bolt11 : String
  payment : Option Payment
  deriving DecidableEq

/-- The interceptor's copy of the analytics config, and the fiat currency of the user
preferences it shares with the rest of the node. -/
structure AnalyticsInterceptor where
  fiatCurrency : String
  config : AnalyticsConfig
  deriving DecidableEq

def mapErrorToFailureReason (error : String) : PayFailureReason :=
  if "Route not found:".toList.isPrefixOf error.toList then .noRoute else .unknown

namespace AnalyticsInterceptor

def payInitiated (self : AnalyticsInterceptor) (now : SystemTime) (invoiceDetails : InvoiceDetails)
    (metadata : PaymentMetadata) (paidAmount : Option UInt64)
    (exchangeRate : Option ExchangeRate) : Option AnalyticsEvent :=
  if self.config = .disabled then none
  else
    -- the amount the user entered, or the one of the invoice; without either nothing is reported
    let invoiceAmount := invoiceDetails.amount.map Amount.toMsats
    (paidAmount.or invoiceAmount).map fun paidAmountMsat =>
      .payInitiated invoiceDetails.paymentHash paidAmountMsat invoiceAmount
        (exchangeRate.map ExchangeRate.rate) metadata.source self.fiatCurrency
        metadata.processStartedAt now

def paySucceeded (self : AnalyticsInterceptor) (payment : Payment) : Option AnalyticsEvent :=
  if self.config = .disabled then none
  else match payment.details with
    | .ln data => some (.paySucceeded data.paymentHash payment.feeMsat
        (unixTimestampToSystemTime (UInt64.ofNat payment.paymentTime.toInt.natAbs)))
    | .closedChannel _ => none

def payFailed (self : AnalyticsInterceptor) (now : SystemTime) (failedData : PaymentFailedData) :
    Option AnalyticsEvent :=
  if self.config = .disabled then none
  else failedData.invoice.map fun invoice =>
    .payFailed invoice.paymentHash (mapErrorToFailureReason failedData.error) now

def requestInitiated (self : AnalyticsInterceptor) (now : SystemTime)
    (receiveResponse : ReceivePaymentResponse) (exchangeRate : Option ExchangeRate)
    (metadata : InvoiceCreationMetadata) : Option AnalyticsEvent :=
  if self.config = .disabled then none
  else some (.requestInitiated receiveResponse.lnInvoice.paymentHash
    receiveResponse.lnInvoice.amountMsat (exchangeRate.map ExchangeRate.rate) self.fiatCurrency
    metadata.requestCurrency now)

def requestSucceeded (self : AnalyticsInterceptor) (now : SystemTime)
    (paidDetails : InvoicePaidDetails) : Option AnalyticsEvent :=
  if self.config = .disabled then none
  else paidDetails.payment.map fun payment =>
    .requestSucceeded paidDetails.paymentHash payment.amountMsat payment.feeMsat now

end AnalyticsInterceptor

/-- An event of the SDK. -/
inductive BreezEvent where
  | invoicePaid (details : InvoicePaidDetails)
  | paymentSucceed (details : Payment)
  | paymentFailed (details : PaymentFailedData)
  /-- New blocks, syncs, backups and updates of swaps. -/
  | other
  deriving DecidableEq

def reportEventForAnalytics (now : SystemTime) (e : BreezEvent)
    (analyticsInterceptor : AnalyticsInterceptor) : Option AnalyticsEvent :=
  match e with
  | .invoicePaid details => analyticsInterceptor.requestSucceeded now details
  | .paymentSucceed details => match details.details with
    | .ln _ => analyticsInterceptor.paySucceeded details
    | .closedChannel _ => none
  | .paymentFailed details =>
      if details.invoice.isSome then analyticsInterceptor.payFailed now details else none
  | .other => none

/-- What reaches the interceptor: an event of the SDK, or a payment or a request that the user
starts. -/
inductive Interception where
  | event (e : BreezEvent)
  | pay (invoiceDetails : InvoiceDetails) (metadata : PaymentMetadata)
      (paidAmount : Option UInt64) (exchangeRate : Option ExchangeRate)
  | request (receiveResponse : ReceivePaymentResponse) (exchangeRate : Option ExchangeRate)
      (metadata : InvoiceCreationMetadata)
  deriving DecidableEq

def Interception.report (now : SystemTime) (analyticsInterceptor : AnalyticsInterceptor) :
    Interception → Option AnalyticsEvent
  | .event e => reportEventForAnalytics now e analyticsInterceptor
  | .pay invoiceDetails metadata paidAmount exchangeRate =>
      analyticsInterceptor.payInitiated now invoiceDetails metadata paidAmount exchangeRate
  | .request receiveResponse exchangeRate metadata =>
      analyticsInterceptor.requestInitiated now receiveResponse exchangeRate metadata

/-- Nothing is reported while analytics are disabled. -/
theorem report_of_disabled (now : SystemTime) {analyticsInterceptor : AnalyticsInterceptor}
    (h : analyticsInterceptor.config = .disabled) (i : Interception) :
    i.report now analyticsInterceptor = none := by
  cases i with
  | event e =>
      cases e with
      | invoicePaid details => exact if_pos h
      | paymentSucceed details =>
          simp only [Interception.report, reportEventForAnalytics]
          split
          · exact if_pos h
          · rfl
      | paymentFailed details =>
          simp only [Interception.report, reportEventForAnalytics]
          split
          · exact if_pos h
          · rfl
      | other => rfl
  | pay => exact if_pos h
  | request => exact if_pos h

end LipaLightning
