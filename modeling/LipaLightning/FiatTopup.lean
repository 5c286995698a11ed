import LipaLightning.Lightning

set_option autoImplicit false

/-! # Collecting a fiat topup

`FiatTopup::request_collection` (`fiat_topup.rs`): withdraw an offer through its LNURL-withdraw
and persist the invoice the SDK created for it.
-/

namespace LipaLightning

inductive OfferStatus where
  | ready
  | failed
  | refunded
  | settled
  deriving DecidableEq, Repr

/-- Information on a funds offer that can be claimed. -/
structure OfferInfo where
  offer : Offer
  amount : Amount
  lnurlw : Option String
  createdAt : SystemTime
  expiresAt : Option SystemTime
  status : OfferStatus
  deriving DecidableEq, Repr

/-- What the SDK parses a string into, as far as a withdrawal is concerned. -/
inductive InputType where
  | lnUrlWithdraw (data : LnUrlWithdrawRequestData)
  | other
  deriving DecidableEq, Repr

/-- The answers to a collection from outside of the SDK's node: the parser of inputs and the
offer manager. -/
structure OfferServices where
  parse : String → Except String InputType
  hideTopup : String → Except (Error String) Unit

/-- `map_runtime_error_to`: give a runtime error another code. -/
def Error.mapRuntimeErrorTo {c d : Type} (code : d) : Error c → Error d
  | .invalidInput msg => .invalidInput msg
  | .runtimeError _ msg => .runtimeError code msg
  | .permanentFailure msg => .permanentFailure msg

/-- The environments of the calls to the data store a collection makes. -/
structure CollectionEnvs where
  info : Env
  invoice : Env
  finalInfo : Env

namespace FiatTopup

/-- The failures of a withdrawal of an offer. -/
def withdrawFailure : SdkLnUrlWithdrawError → Error RuntimeErrorCode
  | .generic err => .runtimeError .offerServiceUnavailable
      ("Failed to withdraw offer due to: " ++ err)
  | .invalidAmount err =>
      .permanentFailure ("Invalid amount in invoice for LNURL withdraw: " ++ err)
  | .invalidInvoice err => .permanentFailure ("Invalid invoice for LNURL withdraw: " ++ err)
  | .invalidUri err => .permanentFailure ("Invalid URL in LNURL withdraw: " ++ err)
  | .serviceConnectivity err => .runtimeError .offerServiceUnavailable
      ("Failed to withdraw offer due to: " ++ err)
  | .invoiceNoRoutingHints err => .permanentFailure
      ("A locally created invoice doesn't have any routing hints: " ++ err)

/-- The fee for opening a channel, if the invoice has an amount. -/
def channelOpeningFeeMsat (support : Support) (sdk : Sdk) (invoice : LNInvoice) :
    Result (Option UInt64) :=
  match invoice.amountMsat with
  | none => .ok none
  | some paymentAmountMsat => do
      let lspFeeParams ← support.taskManager.getCheaperLspFee
      let result ← support.calculateLspFeeForAmount sdk.nodeInfo
        ((asMsats paymentAmountMsat).toAmountUp none).sats lspFeeParams
      .ok (some result.lspFee.toMsats)

/-- Persist the invoice of a withdrawal that the service accepted. -/
def persistInvoice (support : Support) (sdk : Sdk) (env : Env) (invoice : LNInvoice) :
    Result Unit × Support :=
  match channelOpeningFeeMsat support sdk invoice with
  | .error e => (.error e, support)
  | .ok channelOpeningFeeMsat =>
      let (stored, dataStore) := support.dataStore.storeCreatedInvoice env invoice.paymentHash
        invoice.bolt11 channelOpeningFeeMsat (invoice.timestamp + invoice.expiry)
      let support := { support with dataStore := dataStore }
      match stored with
      | .error _ => (.error (.permanentFailure
          "Failed to persist invoice in lnurl-withdraw flow"), support)
      | .ok () => (.ok (), support)

/-- What follows the answer of the SDK to the withdrawal of an offer. -/
def collect (support : Support) (sdk : Sdk) (services : OfferServices) (envs : CollectionEnvs)
    (offer : Offer) :
    Except SdkLnUrlWithdrawError SdkLnUrlWithdrawResult → Result String × Support
  | .error e => (.error (withdrawFailure e), support)
  | .ok (.timeout _) => (.error (.runtimeError .offerServiceUnavailable
      "Failed to withdraw offer due to timeout on submitting invoice"), support)
  | .ok (.errorStatus reason) => (.error (.runtimeError .offerServiceUnavailable
      ("Failed to withdraw offer due to: " ++ reason)), support)
  | .ok (.ok invoice) =>
      match services.hideTopup offer.id with
      | .error e => (.error (e.mapRuntimeErrorTo .offerServiceUnavailable), support)
      | .ok () =>
          -- the topup is hidden before anything is stored
          let support := support.storePaymentInfo envs.info invoice.paymentHash (some offer)
          match persistInvoice support sdk envs.invoice invoice with
          | (.error e, support) => (.error e, support)
          | (.ok (), support) =>
              -- the payment info is stored again after the invoice
              (.ok invoice.paymentHash,
                support.storePaymentInfo envs.finalInfo invoice.paymentHash (some offer))

/-- Request to collect the offer. The payment hash tracks the incoming payment. -/
def requestCollection (support : Support) (sdk : Sdk) (services : OfferServices)
    (envs : CollectionEnvs) (offer : OfferInfo) : Result String × Support :=
  match offer.lnurlw with
  | none => (.error (.invalidInput "The provided offer didn't include an lnurlw"), support)
  | some lnurlw =>
      match services.parse lnurlw with
      | .ok .other => (.error (.permanentFailure "Invalid input type LNURLw in offer"), support)
      | .error err => (.error (.permanentFailure ("Invalid LNURLw in offer: " ++ err)), support)
      | .ok (.lnUrlWithdraw lnurlwData) =>
          collect support sdk services envs offer.offer
            (sdk.lnurlWithdraw ⟨lnurlwData, lnurlwData.maxWithdrawable, none⟩)

end FiatTopup

end LipaLightning
