import LipaLightning.FiatTopup

set_option autoImplicit false

/-! # Handling an LNURL-pay notification

`handle_lnurl_pay_request_notification` (`notification_handling.rs`). The handler runs next to
a node that may or may not be started: it opens its own data store on the db of the wallet,
and takes the preferences and the rates not from the node but from the db and the backend.
The invoice it creates is not persisted, only the payment info is.
-/

namespace LipaLightning

inductive NotificationHandlingErrorCode where
  | nodeUnavailable
  | inProgressSwapNotFound
  | expectedPaymentNotReceived
  | insufficientInboundLiquidity
  | lipaServiceUnavailable
  | notificationDisabledInNotificationToggles
  deriving DecidableEq, Repr

abbrev NotificationHandlingResult (α : Type) := Except (Error NotificationHandlingErrorCode) α

structure LnurlPayRequestData where
  amountMsat : UInt64
  recipient : String
  payerComment : Option String
  id : String
  deriving DecidableEq, Repr

/-- `Notification::LnurlInvoiceCreated`. -/
structure LnurlInvoiceCreated where
  amountSat : UInt64
  deriving DecidableEq, Repr

/-- What the handler learns from the SDK, the backend and the configuration. -/
structure NotificationServices where
  openChannelFee : Except String (Option UInt64)
  openDataStore : Result Unit
  strongTypedSeed : NotificationHandlingResult Unit
  reportInsufficientInboundLiquidity : NotificationHandlingResult Unit
  buildAuth : Except String Unit
  registerWebhookUrl : Result Unit
  receivePayment : ReceivePaymentRequest → Except String ReceivePaymentResponse
  queryAllExchangeRates : Except String (List ExchangeRate)
  timezoneConfig : TzConfig
  buildAsyncAuth : Except String Unit
  submitInvoice : NotificationHandlingResult Unit

/-- The environments of the calls to the data store the handler makes. -/
structure NotificationEnvs where
  select : Env
  info : Env

namespace NotificationHandling

/-- Every runtime error of the library becomes `NodeUnavailable`. -/
def fromLibrary {α : Type} : Result α → NotificationHandlingResult α
  | .ok a => .ok a
  | .error e => .error (e.mapRuntimeErrorTo .nodeUnavailable)

/-- `map_to_runtime_error`. -/
def toRuntimeError {α : Type} (code : NotificationHandlingErrorCode) (msg : String) :
    Except String α → NotificationHandlingResult α
  | .ok a => .ok a
  | .error _ => .error (.runtimeError code msg)

/-- Tell the sender that there is not enough inbound liquidity, and fail. -/
def rejectForLiquidity {α : Type} (services : NotificationServices) :
    NotificationHandlingResult α := do
  services.reportInsufficientInboundLiquidity
  .error (.runtimeError .insufficientInboundLiquidity
    "Rejecting an inbound LNURL-pay payment because of insufficient inbound liquidity")

/-- Payments to a disabled or an unknown address are not received. -/
def checkRecipient (dataStore : DataStore) (recipient : String) :
    NotificationHandlingResult Unit := do
  let addresses ← fromLibrary dataStore.retrieveLightningAddresses
  match addresses.find? (fun a => a.1 = recipient) with
  | none => .error (.permanentFailure
      "Received LNURL Pay request notification for unrecognized address/phone number")
  | some (_, .featureDisabled) => .error (.permanentFailure
      "Received LNURL Pay request notification for disabled address/phone number feature")
  | some (_, .enabled) => .ok ()

/-- What the handler does before it stores the payment info: the invoice it created, the
preferences and the rates to store with it. -/
def prepare (dataStore : DataStore) (services : NotificationServices) (select : Env)
    (data : LnurlPayRequestData) :
    NotificationHandlingResult (LNInvoice × UserPreferences × List ExchangeRate) := do
  let feeMsat ← toRuntimeError .nodeUnavailable "Failed to query open channel fees"
    services.openChannelFee
  fromLibrary services.openDataStore
  checkRecipient dataStore data.recipient
  services.strongTypedSeed
  -- a new channel would have to be paid for by the recipient
  if feeMsat.any (0 < ·) then rejectForLiquidity services
  else do
    toRuntimeError .lipaServiceUnavailable "Failed to authenticate against backend"
      services.buildAuth
    fromLibrary services.registerWebhookUrl
    let response ← toRuntimeError .nodeUnavailable "Failed to create invoice"
      (services.receivePayment ⟨data.amountMsat, "", none⟩)
    -- the invoice may need a channel although the fee was estimated to be zero
    if response.openingFeeMsat.isSome then rejectForLiquidity services
    else do
      match ← fromLibrary (dataStore.retrieveLastSetFiatCurrency select) with
      | none => .error (.permanentFailure
          "No fiat currency set. Node must be started before handling notifications")
      | some fiatCurrency =>
          let rates ← toRuntimeError .lipaServiceUnavailable "Failed to get exchange rates"
            services.queryAllExchangeRates
          .ok (response.lnInvoice, ⟨fiatCurrency, services.timezoneConfig⟩, rates)

/-- Handle the notification on the db of the wallet. An error while storing the payment info
is logged and ignored. -/
def handleLnurlPayRequestNotification (db : Db) (services : NotificationServices)
    (envs : NotificationEnvs) (data : LnurlPayRequestData) :
    NotificationHandlingResult LnurlInvoiceCreated × Db :=
  let dataStore := DataStore.new db none
  match prepare dataStore services envs.select data with
  | .error e => (.error e, db)
  | .ok (invoice, userPreferences, rates) =>
      let dataStore := (dataStore.storePaymentInfo envs.info invoice.paymentHash userPreferences
        rates none (some data.recipient) data.payerComment).2
      let result := do
        toRuntimeError .lipaServiceUnavailable "Failed to authenticate against backend"
          services.buildAsyncAuth
        services.submitInvoice
        .ok (LnurlInvoiceCreated.mk (asMsats data.amountMsat).satsRoundDown.sats)
      (result, dataStore.conn)

end NotificationHandling

end LipaLightning
