import LipaLightning.Config.Analytics
import LipaLightning.NotificationHandling.LnurlPay

set_option autoImplicit false

/-! # Handling notifications

`handle_notification` (`notification_handling.rs`) and the handlers that wait for a payment. A
notification that transactions to an address have confirmed serves two protocols: the address is
that of a swap, which is redeemed, or the lock address of a reverse swap, which is claimed. The
handler decides by the swap that is in progress, and fails if that one has another address.

`reachesRightSwap_iff` is the exact condition under which such a notification reaches the swap it
is for; `handleNotification_lnurlPay` says how LNURL-pay requests are answered.
-/

namespace LipaLightning

/-- `breez_sdk_core::SwapInfo` with the hash of the payment it is redeemed by. -/
structure InProgressSwap extends SdkSwapInfo where
  paymentHash : List UInt8

/-- The events of the SDK, as far as the handlers tell them apart. -/
inductive ReceivedEvent where
  | invoicePaid (details : InvoicePaidDetails)
  | synced
  | other

/-- The node a notification is handled with. The SDK answers `payment_by_hash` once for each
check before the timeout. The receiver gets an event, or none in time; after the last entry of
`events` the SDK has stopped. -/
structure NodeServices where
  inProgressSwap : Except String (Option InProgressSwap)
  redeemSwap : String → Except String Unit
  claimReverseSwap : String → Except String Unit
  paymentByHash : String → List (Except String (Option Payment))
  events : List (Option ReceivedEvent)

/-- A notification to be displayed to the user. -/
inductive Notification where
  | bolt11PaymentReceived (amountSat : UInt64) (paymentHash : String)
  | onchainPaymentSwappedIn (amountSat : UInt64) (paymentHash : String)
  | onchainPaymentSwappedOut
  | lnurlInvoiceCreated (amountSat : UInt64)
  deriving DecidableEq, Repr

inductive Payload where
  | paymentReceived (paymentHash : String)
  | addressTxsConfirmed (address : String)
  | lnurlPayRequest (data : LnurlPayRequestData)
  deriving DecidableEq, Repr

/-- Enables or disables the processing of different payloads. -/
structure NotificationToggles where
  paymentReceivedIsEnabled : Bool
  addressTxsConfirmedIsEnabled : Bool
  lnurlPayRequestIsEnabled : Bool

namespace NotificationHandling

open Traced

/-! ## Waiting for a payment -/

def getConfirmedPayment (answer : Except String (Option Payment)) :
    NotificationHandlingResult (Option Payment) := do
  let payment ← fromLibrary
    (mapToRuntimeError answer .nodeUnavailable "Failed to get payment by hash")
  .ok (payment.filter fun payment => payment.status = .complete)

/-- Wait for synced event without timeout. -/
def waitForSyncedEvent : List (Option ReceivedEvent) →
    NotificationHandlingResult (List (Option ReceivedEvent))
  | [] => .error (.permanentFailure "The SDK stopped running unexpectedly")
  | some .synced :: events => .ok events
  | _ :: events => waitForSyncedEvent events

/-- The payment of the next event, if it is the one waited for, and the events after it. -/
def checkForReceivedPayment (paymentHash : String) : List (Option ReceivedEvent) →
    NotificationHandlingResult (Option Payment × List (Option ReceivedEvent))
  | [] => .error (.permanentFailure "The SDK stopped running unexpectedly")
  | some (.invoicePaid details) :: events =>
      if details.paymentHash = paymentHash then do
        -- the signer is not to be shut down while HTLCs are in flight
        let events ← waitForSyncedEvent events
        .ok (details.payment, events)
      else .ok (none, events)
  | _ :: events => .ok (none, events)

/-- One round for each check before the timeout. -/
def waitForPayment (paymentHash : String) : List (Except String (Option Payment)) →
    List (Option ReceivedEvent) → NotificationHandlingResult Payment
  | [], _ => .error (.runtimeError .expectedPaymentNotReceived
      ("Expected incoming payment with hash " ++ paymentHash ++ " but it was not received"))
  | answer :: answers, events => do
      match ← getConfirmedPayment answer with
      | some payment => .ok payment
      | none =>
          match ← checkForReceivedPayment paymentHash events with
          | (some payment, _) => .ok payment
          | (none, events) => waitForPayment paymentHash answers events

def waitForNodePayment (node : NodeServices) (paymentHash : String) :
    NotificationHandlingResult Payment :=
  waitForPayment paymentHash (node.paymentByHash paymentHash) node.events

/-! ## The handlers -/

def handlePaymentReceivedNotification (node : NodeServices) (paymentHash : String) :
    Handling Notification := do
  let payment ← lift (waitForNodePayment node paymentHash)
  pure (.bolt11PaymentReceived (payment.amountMsat / 1000) paymentHash)

def handleSwapNotification (node : NodeServices) (address : String)
    (inProgressSwap : InProgressSwap) : Handling Notification := do
  lift (ensure (inProgressSwap.bitcoinAddress = address)
    (.runtimeError .inProgressSwapNotFound
      ("Received an address_txs_confirmed event for an address different from the "
        ++ "current in-progress swap address")))
  issue (.redeemSwap address)
    (toRuntimeError .nodeUnavailable "Failed to start a swap redeem" (node.redeemSwap address))
  let paymentHash := hexEncode inProgressSwap.paymentHash
  let payment ← lift (waitForNodePayment node paymentHash)
  pure (.onchainPaymentSwappedIn (payment.amountMsat / 1000) paymentHash)

def handleReverseSwapNotification (node : NodeServices) (address : String) :
    Handling Notification := do
  issue (.claimReverseSwap address)
    (toRuntimeError .nodeUnavailable "Failed to claim reverse swap"
      (node.claimReverseSwap address))
  pure .onchainPaymentSwappedOut

def handleAddressTxsConfirmedNotification (node : NodeServices) (address : String) :
    Handling Notification := do
  match ← lift (fromLibrary (mapToRuntimeError node.inProgressSwap .nodeUnavailable
      "Failed to get in-progress swap")) with
  | some inProgressSwap => handleSwapNotification node address inProgressSwap
  | none => handleReverseSwapNotification node address

end NotificationHandling

/-- What a notification is handled with: the logger, the start of the runtime, the analytics and
the SDK, the node then started, and the services and the db of LNURL-pay requests. -/
structure NotificationHandler where
  initLogger : Result Unit
  start : NotificationHandlingResult Unit
  node : NodeServices
  lnurlPay : LnurlPayServices
  db : Db
  select : Env

def NotificationToggles.isEnabled (toggles : NotificationToggles) : Payload → Bool
  | .paymentReceived _ => toggles.paymentReceivedIsEnabled
  | .addressTxsConfirmed _ => toggles.addressTxsConfirmedIsEnabled
  | .lnurlPayRequest _ => toggles.lnurlPayRequestIsEnabled

def Payload.name : Payload → String
  | .paymentReceived _ => "PaymentReceived"
  | .addressTxsConfirmed _ => "AddressTxsConfirmed"
  | .lnurlPayRequest _ => "LnurlPayRequest"

namespace NotificationHandling

open Traced

def handlePayload (handler : NotificationHandler) : Payload → Handling Notification
  | .paymentReceived paymentHash => handlePaymentReceivedNotification handler.node paymentHash
  | .addressTxsConfirmed address => handleAddressTxsConfirmedNotification handler.node address
  | .lnurlPayRequest data => do
      let created ← handleLnurlPayRequest handler.db handler.lnurlPay handler.select data
      pure (.lnurlInvoiceCreated created.amountSat)

/-- Handle a notification whose payload was recognized. -/
def handleNotification (handler : NotificationHandler) (toggles : NotificationToggles)
    (payload : Payload) : Handling Notification := do
  lift (fromLibrary handler.initLogger)
  lift (ensure (toggles.isEnabled payload)
    (.runtimeError .notificationDisabledInNotificationToggles (payload.name
      ++ " notification dismissed due to disabled setting in NotificationToggles")))
  lift handler.start
  handlePayload handler payload

/-! ## A confirmed payment -/

theorem getConfirmedPayment_ok {answer : Except String (Option Payment)} {payment : Payment}
    (h : getConfirmedPayment answer = .ok (some payment)) :
    answer = .ok (some payment) ∧ payment.status = .complete := by
  obtain ⟨found, hfound, h⟩ := bind_eq_ok.mp h
  have hanswer := (mapToRuntimeError_eq_ok ..).mp (fromLibrary_eq_ok hfound)
  obtain ⟨rfl, hstatus⟩ := Option.filter_eq_some_iff.mp (Except.ok.inj h)
  exact ⟨hanswer, of_decide_eq_true hstatus⟩

/-! ## Which swap is reached -/

/-- What an address is for: the swap in progress if it has that address, and a reverse swap
otherwise. -/
def swapCommand (inProgressSwap : Option InProgressSwap) (address : String) : Command :=
  if inProgressSwap.any (·.bitcoinAddress = address) then .redeemSwap address
  else .claimReverseSwap address

/-- The handler redeems the swap in progress if the address is its own, and claims a reverse swap
otherwise. -/
def ReachesRightSwap (node : NodeServices) (address : String) : Prop :=
  ∀ inProgressSwap, node.inProgressSwap = .ok inProgressSwap →
    (handleAddressTxsConfirmedNotification node address).commands
      = [swapCommand inProgressSwap address]

/-- Without an answer about the swap in progress, nothing is done. -/
theorem handleAddressTxsConfirmed_error {node : NodeServices} {e : String}
    (h : node.inProgressSwap = .error e) (address : String) :
    handleAddressTxsConfirmedNotification node address
      = fail (.runtimeError .nodeUnavailable "Failed to get in-progress swap") := by
  unfold handleAddressTxsConfirmedNotification
  rw [h]
  rfl

theorem handleAddressTxsConfirmed_some {node : NodeServices} {swap : InProgressSwap}
    (h : node.inProgressSwap = .ok (some swap)) (address : String) :
    handleAddressTxsConfirmedNotification node address
      = handleSwapNotification node address swap := by
  unfold handleAddressTxsConfirmedNotification
  rw [h]
  rfl

theorem handleAddressTxsConfirmed_none {node : NodeServices} (h : node.inProgressSwap = .ok none)
    (address : String) :
    handleAddressTxsConfirmedNotification node address
      = handleReverseSwapNotification node address := by
  unfold handleAddressTxsConfirmedNotification
  rw [h]
  rfl

/-- A swap is redeemed before its payment is waited for. -/
theorem commands_handleSwap {node : NodeServices} {address : String} {swap : InProgressSwap}
    (h : swap.bitcoinAddress = address) :
    (handleSwapNotification node address swap).commands = [.redeemSwap address] := by
  unfold handleSwapNotification
  rw [ensure, if_pos h, lift_ok_bind]
  refine issue_bind_elim (P := fun x => x.commands = _) (fun _ _ => rfl) fun _ _ => ?_
  rw [List.cons_eq_cons]
  exact ⟨rfl, lift_bind_elim (P := fun x => x.commands = []) (fun _ _ => rfl) fun _ _ => rfl⟩

/-- The address of something else is refused while a swap is in progress. -/
theorem handleSwap_of_ne {node : NodeServices} {address : String} {swap : InProgressSwap}
    (h : swap.bitcoinAddress ≠ address) :
    handleSwapNotification node address swap = fail (.runtimeError .inProgressSwapNotFound
      ("Received an address_txs_confirmed event for an address different from the "
        ++ "current in-progress swap address")) := by
  unfold handleSwapNotification
  rw [ensure, if_neg h]
  rfl

theorem commands_handleReverseSwap (node : NodeServices) (address : String) :
    (handleReverseSwapNotification node address).commands = [.claimReverseSwap address] := by
  unfold handleReverseSwapNotification
  exact issue_bind_elim (P := fun x => x.commands = _) (fun _ _ => rfl) fun _ _ => rfl

/-- **When a confirmed address reaches its swap.** For any node and any address, the handler does
what the address is for exactly if the swap in progress, if there is one, has that address. -/
theorem reachesRightSwap_iff (node : NodeServices) (address : String) :
    ReachesRightSwap node address
      ↔ ∀ swap, node.inProgressSwap = .ok (some swap) → swap.bitcoinAddress = address := by
  constructor
  · intro hreaches swap hswap
    by_contra hne
    have hcommands := hreaches (some swap) hswap
    rw [handleAddressTxsConfirmed_some hswap, handleSwap_of_ne hne] at hcommands
    cases hcommands
  · intro haddress inProgressSwap hswap
    cases inProgressSwap with
    | none =>
        rw [handleAddressTxsConfirmed_none hswap]
        exact commands_handleReverseSwap node address
    | some swap =>
        have hown := haddress swap hswap
        have hcommand : swapCommand (some swap) address = .redeemSwap address :=
          if_pos (decide_eq_true hown)
        rw [hcommand, handleAddressTxsConfirmed_some hswap]
        exact commands_handleSwap hown

/-- A node with a swap in progress at the address. -/
def nodeWithSwap (address : String) : NodeServices where
  inProgressSwap := .ok (some ⟨⟨address, 1700000000, 0, 0, 0⟩, [0xf0]⟩)
  redeemSwap := fun _ => .ok ()
  claimReverseSwap := fun _ => .ok ()
  paymentByHash := fun _ => []
  events := []

/-- The lock address of a reverse swap is not claimed while a swap is in progress. -/
theorem swap_hides_reverse_swap :
    ¬ ∀ (node : NodeServices) (address : String), ReachesRightSwap node address := by
  intro h
  have hclaims := h (nodeWithSwap "bc1qswap") "bc1qlock" _ rfl
  have hcommand : swapCommand (some ⟨⟨"bc1qswap", 1700000000, 0, 0, 0⟩, [0xf0]⟩) "bc1qlock"
      = .claimReverseSwap "bc1qlock" := by decide
  rw [hcommand, handleAddressTxsConfirmed_some rfl, handleSwap_of_ne (by decide)] at hclaims
  cases hclaims

/-! ## Which payloads are handled -/

/-- A payload is handled by its handler if it is enabled and the node starts, and not at all
otherwise. -/
theorem handleNotification_cases (handler : NotificationHandler) (toggles : NotificationToggles)
    (payload : Payload) :
    (∃ e, handleNotification handler toggles payload = fail e)
      ∨ toggles.isEnabled payload = true
        ∧ handleNotification handler toggles payload = handlePayload handler payload := by
  unfold handleNotification
  cases fromLibrary handler.initLogger with
  | error e => exact .inl ⟨e, rfl⟩
  | ok _ =>
      rw [lift_ok_bind]
      unfold ensure
      split
      · next henabled =>
        cases handler.start with
        | error e => exact .inl ⟨e, rfl⟩
        | ok _ => exact .inr ⟨henabled, rfl⟩
      · exact .inl ⟨_, rfl⟩

/-- **How an LNURL-pay request is answered.** Whatever the SDK, the backend and the db answer, a
request gets at most one answer. It gets an invoice, over the requested amount and without an
opening fee, only if its recipient is enabled and there is no fee for opening a channel. It is
rejected only if its recipient is enabled and it needs a channel, and then handling it fails with
insufficient liquidity or with the error of the submission. Otherwise it fails unanswered. -/
theorem handleNotification_lnurlPay (handler : NotificationHandler)
    (toggles : NotificationToggles) (data : LnurlPayRequestData) :
    AnsweredSafely handler.db handler.lnurlPay data
      (Notification.lnurlInvoiceCreated (invoiceCreated data).amountSat)
      (handleNotification handler toggles (.lnurlPayRequest data)) := by
  rcases handleNotification_cases handler toggles (.lnurlPayRequest data) with
    ⟨e, hfail⟩ | ⟨-, hhandled⟩
  · rw [hfail]
    exact .silent e
  · rw [hhandled]
    have hanswer := handleLnurlPayRequest_answer handler.db handler.lnurlPay handler.select data
    exact hanswer.map fun created => Notification.lnurlInvoiceCreated created.amountSat

end NotificationHandling

end LipaLightning
