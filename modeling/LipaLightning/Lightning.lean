import LipaLightning.Support

set_option autoImplicit false

/-! # Receiving and paying over lightning

The operations of `lightning/bolt11.rs` and `lightning/lnurl.rs` that store payment data. An
operation gets the answer of the SDK to each of its requests and, for each call to the data
store, an environment. It returns its result and the support state afterwards. What an
operation only reports, to the analytics or to the SDK, has no effect on either and is left
out.
-/

namespace LipaLightning

/-! ## Requests and answers of the SDK -/

structure ReceivePaymentRequest where
  amountMsat : UInt64
  description : String
  openingFeeParams : Option OpeningFeeParams
  deriving DecidableEq, Repr

structure ReceivePaymentResponse where
  lnInvoice : LNInvoice
  openingFeeMsat : Option UInt64
  deriving DecidableEq, Repr

structure SendPaymentRequest where
  bolt11 : String
  useTrampoline : Bool
  amountMsat : Option UInt64
  deriving DecidableEq, Repr

inductive SendPaymentError where
  | alreadyPaid
  | generic (err : String)
  | invalidAmount (err : String)
  | invalidInvoice (err : String)
  | invoiceExpired (err : String)
  | paymentFailed (err : String)
  | paymentTimeout (err : String)
  | routeNotFound (err : String)
  | routeTooExpensive (err : String)
  | serviceConnectivity (err : String)
  | invalidNetwork (err : String)
  deriving DecidableEq, Repr

structure LnUrlPayRequestData where
  callback : String
  minSendable : UInt64
  maxSendable : UInt64
  metadataStr : String
  commentAllowed : UInt16
  domain : String
  deriving DecidableEq, Repr

structure LnUrlPayRequest where
  data : LnUrlPayRequestData
  amountMsat : UInt64
  useTrampoline : Bool
  comment : Option String
  validateSuccessActionUrl : Option Bool
  deriving DecidableEq, Repr

inductive SdkLnUrlPayError where
  | invalidUri (err : String)
  | alreadyPaid
  | generic (err : String)
  | invalidAmount (err : String)
  | invalidInvoice (err : String)
  | invoiceExpired (err : String)
  | paymentFailed (err : String)
  | paymentTimeout (err : String)
  | routeNotFound (err : String)
  | routeTooExpensive (err : String)
  | serviceConnectivity (err : String)
  | invalidNetwork (err : String)
  deriving DecidableEq, Repr

inductive SdkLnUrlPayResult where
  | endpointSuccess (paymentId : String)
  | endpointError (reason : String)
  | payError (paymentHash reason : String)
  deriving DecidableEq, Repr

structure LnUrlWithdrawRequestData where
  callback : String
  k1 : String
  defaultDescription : String
  minWithdrawable : UInt64
  maxWithdrawable : UInt64
  deriving DecidableEq, Repr

structure LnUrlWithdrawRequest where
  data : LnUrlWithdrawRequestData
  amountMsat : UInt64
  description : Option String
  deriving DecidableEq, Repr

inductive SdkLnUrlWithdrawError where
  | generic (err : String)
  | invalidAmount (err : String)
  | invalidInvoice (err : String)
  | invalidUri (err : String)
  | serviceConnectivity (err : String)
  | invoiceNoRoutingHints (err : String)
  deriving DecidableEq, Repr

inductive SdkLnUrlWithdrawResult where
  | ok (invoice : LNInvoice)
  | timeout (invoice : LNInvoice)
  | errorStatus (reason : String)
  deriving DecidableEq, Repr

/-- The answers of the SDK during a call. -/
structure Sdk where
  nodeInfo : Except String NodeState
  receivePayment : ReceivePaymentRequest → Except String ReceivePaymentResponse
  sendPayment : SendPaymentRequest → Except SendPaymentError Unit
  lnurlPay : LnUrlPayRequest → Except SdkLnUrlPayError SdkLnUrlPayResult
  lnurlWithdraw : LnUrlWithdrawRequest → Except SdkLnUrlWithdrawError SdkLnUrlWithdrawResult

/-! ## Errors -/

inductive PayErrorCode where
  | alreadyUsedInvoice
  | invoiceExpired
  | noRouteFound
  | payingToSelf
  | paymentFailed
  | paymentTimeout
  | routeTooExpensive
  | nodeUnavailable
  | unexpectedError
  deriving DecidableEq, Repr

abbrev PayResult (α : Type) := Except (Error PayErrorCode) α

inductive LnUrlPayErrorCode where
  | lnUrlServerError
  | noRouteFound
  | paymentFailed
  | paymentTimeout
  | routeTooExpensive
  | serviceConnectivity
  | unexpectedError
  | invalidNetwork
  deriving DecidableEq, Repr

abbrev LnUrlPayResult (α : Type) := Except (Error LnUrlPayErrorCode) α

inductive LnUrlWithdrawErrorCode where
  | lnUrlServerError
  | serviceConnectivity
  | unexpectedError
  deriving DecidableEq, Repr

abbrev LnUrlWithdrawResult (α : Type) := Except (Error LnUrlWithdrawErrorCode) α

def mapSendPaymentError : SendPaymentError → Error PayErrorCode
  | .alreadyPaid => .runtimeError .alreadyUsedInvoice ""
  | .generic err => .runtimeError .unexpectedError err
  | .invalidAmount err => .invalidInput ("Invalid amount: " ++ err)
  | .invalidInvoice err => .invalidInput ("Invalid invoice: " ++ err)
  | .invoiceExpired err => .runtimeError .invoiceExpired err
  | .paymentFailed err => .runtimeError .paymentFailed err
  | .paymentTimeout err => .runtimeError .paymentTimeout err
  | .routeNotFound err => .runtimeError .noRouteFound err
  | .routeTooExpensive err => .runtimeError .routeTooExpensive err
  | .serviceConnectivity err => .runtimeError .nodeUnavailable err
  | .invalidNetwork err => .invalidInput ("Invalid network: " ++ err)

def mapLnurlPayError : SdkLnUrlPayError → Error LnUrlPayErrorCode
  | .invalidUri err => .invalidInput ("InvalidUri: " ++ err)
  | .alreadyPaid => .permanentFailure "LNURL pay invoice has been already paid"
  | .generic err => .runtimeError .unexpectedError err
  | .invalidAmount err => .runtimeError .lnUrlServerError
      ("Invalid amount in the invoice from LNURL pay server: " ++ err)
  | .invalidInvoice err => .runtimeError .lnUrlServerError
      ("Invalid invoice from LNURL pay server: " ++ err)
  | .invoiceExpired err =>
      .permanentFailure ("Invoice for LNURL pay has already expired: " ++ err)
  | .paymentFailed err => .runtimeError .paymentFailed err
  | .paymentTimeout err => .runtimeError .paymentTimeout err
  | .routeNotFound err => .runtimeError .noRouteFound err
  | .routeTooExpensive err => .runtimeError .routeTooExpensive err
  | .serviceConnectivity err => .runtimeError .serviceConnectivity err
  | .invalidNetwork err => .runtimeError .invalidNetwork err

def mapLnurlWithdrawError : SdkLnUrlWithdrawError → Error LnUrlWithdrawErrorCode
  | .generic err => .runtimeError .unexpectedError err
  | .invalidAmount err => .invalidInput ("Invalid withdraw amount: " ++ err)
  | .invalidInvoice err => .permanentFailure ("Invalid invoice was created locally: " ++ err)
  | .invalidUri err => .invalidInput ("InvalidUri: " ++ err)
  | .serviceConnectivity err => .runtimeError .serviceConnectivity err
  | .invoiceNoRoutingHints err => .permanentFailure
      ("A locally created invoice doesn't have any routing hints: " ++ err)

/-! ## Bolt11 -/

namespace Bolt11

/-- Create a bolt11 invoice to receive a payment with. The payment info is stored under
`infoEnv` and the invoice under `invoiceEnv`. -/
def create (support : Support) (sdk : Sdk) (infoEnv invoiceEnv : Env) (amountSat : UInt64)
    (lspFeeParams : Option OpeningFeeParams) (description : String) :
    Result InvoiceDetails × Support :=
  match sdk.receivePayment ⟨(asSats amountSat).msats, description, lspFeeParams⟩ with
  | .error _ =>
      (.error (.runtimeError .nodeUnavailable "Failed to create an invoice"), support)
  | .ok response =>
      let invoice := response.lnInvoice
      -- an error of this call is logged and ignored, one of the next call is returned
      let support := support.storePaymentInfo infoEnv invoice.paymentHash none
      let (stored, dataStore) := support.dataStore.storeCreatedInvoice invoiceEnv
        invoice.paymentHash invoice.bolt11 response.openingFeeMsat
        (invoice.timestamp + invoice.expiry)
      let support := { support with dataStore := dataStore }
      match stored with
      | .error _ => (.error (.permanentFailure "Failed to persist created invoice"), support)
      | .ok () => (.ok (InvoiceDetails.fromLnInvoice invoice support.getExchangeRate), support)

/-- Start an attempt to pay an invoice, of the given amount if it has none itself. -/
def payOpenAmount (support : Support) (sdk : Sdk) (env : Env) (invoiceDetails : InvoiceDetails)
    (amountSat : UInt64) : PayResult Unit × Support :=
  let amountMsat := if amountSat = 0 then none else some (asSats amountSat).msats
  -- every attempt stores the payment info, before it is known whether it can be made
  let support := support.storePaymentInfo env invoiceDetails.paymentHash none
  match sdk.nodeInfo with
  | .error _ => (.error (.runtimeError .nodeUnavailable "Failed to read node info"), support)
  | .ok nodeState =>
      if nodeState.id = invoiceDetails.payeePubKey then
        (.error (.runtimeError .payingToSelf "A locally issued invoice tried to be paid"), support)
      else
        match sdk.sendPayment ⟨invoiceDetails.invoice, true, amountMsat⟩ with
        | .error e => (.error (mapSendPaymentError e), support)
        | .ok () => (.ok (), support)

/-- Start an attempt to pay an invoice. -/
def pay (support : Support) (sdk : Sdk) (env : Env) (invoiceDetails : InvoiceDetails) :
    PayResult Unit × Support :=
  payOpenAmount support sdk env invoiceDetails 0

end Bolt11

/-! ## Lnurl -/

namespace Lnurl

/-- Pay an LNURL-pay the provided amount. -/
def pay (support : Support) (sdk : Sdk) (env : Env) (lnurlPayRequestData : LnUrlPayRequestData)
    (amountSat : UInt64) (comment : Option String) : LnUrlPayResult String × Support :=
  let commentAllowed := lnurlPayRequestData.commentAllowed
  if comment.any (fun c => c.utf8ByteSize > commentAllowed.toNat) then
    (.error (.invalidInput ("The provided comment is longer than the allowed "
      ++ toString commentAllowed ++ " characters")), support)
  else
    match sdk.lnurlPay ⟨lnurlPayRequestData, (asSats amountSat).msats, true, comment,
        some false⟩ with
    | .error e => (.error (mapLnurlPayError e), support)
    | .ok (.endpointError reason) => (.error (.runtimeError .lnUrlServerError
        ("LNURL server returned error: " ++ reason)), support)
    | .ok (.payError _ reason) => (.error (.runtimeError .paymentFailed
        ("Paying invoice for LNURL pay failed: " ++ reason)), support)
    -- the payment hash is only known once the payment succeeded
    | .ok (.endpointSuccess paymentHash) =>
        (.ok paymentHash, support.storePaymentInfo env paymentHash none)

/-- Withdraw an LNURL-withdraw the provided amount. A timeout on submitting the invoice is
tolerated. -/
def withdraw (support : Support) (sdk : Sdk) (env : Env)
    (lnurlWithdrawRequestData : LnUrlWithdrawRequestData) (amountSat : UInt64) :
    LnUrlWithdrawResult String × Support :=
  match sdk.lnurlWithdraw ⟨lnurlWithdrawRequestData, (asSats amountSat).msats, none⟩ with
  | .error e => (.error (mapLnurlWithdrawError e), support)
  | .ok (.errorStatus reason) => (.error (.runtimeError .lnUrlServerError
      ("LNURL server returned error: " ++ reason)), support)
  | .ok (.ok invoice) =>
      (.ok invoice.paymentHash, support.storePaymentInfo env invoice.paymentHash none)
  | .ok (.timeout invoice) =>
      (.ok invoice.paymentHash, support.storePaymentInfo env invoice.paymentHash none)

end Lnurl

end LipaLightning
