import LipaLightning.Basic.Traced
import LipaLightning.NotificationHandling

set_option autoImplicit false

/-! # Answering an LNURL-pay request

`handle_lnurl_pay_request_notification` again, with the answers it submits: an answer without an
invoice rejects the request. The payment info it stores on the way is left out here, as nothing
it does afterwards reads the db; apart from that, `NotificationHandling` is this handler without
its trace (`result_handleLnurlPayRequest`).

`handleLnurlPayRequest_answer` says which answers there are, and when.
-/

namespace LipaLightning

/-- What the handlers of notifications ask of the SDK and the backend. -/
inductive Command where
  | redeemSwap (address : String)
  | claimReverseSwap (address : String)
  | submitLnurlPayInvoice (id : String) (invoice : Option String)
  deriving DecidableEq, Repr

abbrev Handling (α : Type) := Traced Command (Error NotificationHandlingErrorCode) α

/-- What the handler learns from the SDK, the backend and the configuration. -/
structure LnurlPayServices where
  openChannelFee : UInt64 → Except String (Option UInt64)
  openDataStore : Result Unit
  strongTypedSeed : NotificationHandlingResult Unit
  buildAuth : Except String Unit
  registerWebhookUrl : Result Unit
  receivePayment : ReceivePaymentRequest → Except String ReceivePaymentResponse
  queryAllExchangeRates : Except String (List ExchangeRate)
  timezoneConfig : TzConfig
  buildAsyncAuth : Except String Unit
  submitLnurlPayInvoice : String → Option String → Except (Error String) Unit

namespace NotificationHandling

open Traced

/-- Submit an answer to the request. -/
def submitLnurlPayInvoice (services : LnurlPayServices) (id : String) (invoice : Option String) :
    Handling Unit := do
  lift (toRuntimeError .lipaServiceUnavailable "Failed to authenticate against backend"
    services.buildAsyncAuth)
  issue (.submitLnurlPayInvoice id invoice)
    ((services.submitLnurlPayInvoice id invoice).mapError
      (Error.mapRuntimeErrorTo .lipaServiceUnavailable))

def insufficientInboundLiquidity : Error NotificationHandlingErrorCode :=
  .runtimeError .insufficientInboundLiquidity
    "Rejecting an inbound LNURL-pay payment because of insufficient inbound liquidity"

/-- Report that there is not enough inbound liquidity, and fail. -/
def reportInsuficcientInboundLiquidity {α : Type} (services : LnurlPayServices) (id : String) :
    Handling α := do
  submitLnurlPayInvoice services id none
  fail insufficientInboundLiquidity

/-- The invoice is for the requested amount. -/
def invoiceRequest (data : LnurlPayRequestData) : ReceivePaymentRequest :=
  ⟨data.amountMsat, "", none⟩

def handleLnurlPayRequest (db : Db) (services : LnurlPayServices) (select : Env)
    (data : LnurlPayRequestData) : Handling LnurlInvoiceCreated := do
  let dataStore := DataStore.new db none
  let feeMsat ← lift (toRuntimeError .nodeUnavailable "Failed to query open channel fees"
    (services.openChannelFee data.amountMsat))
  lift (fromLibrary services.openDataStore)
  lift (checkRecipient dataStore data.recipient)
  lift services.strongTypedSeed
  if feeMsat.any (0 < ·) then reportInsuficcientInboundLiquidity services data.id
  else do
    lift (toRuntimeError .lipaServiceUnavailable "Failed to authenticate against backend"
      services.buildAuth)
    lift (fromLibrary services.registerWebhookUrl)
    let response ← lift (toRuntimeError .nodeUnavailable "Failed to create invoice"
      (services.receivePayment (invoiceRequest data)))
    if response.openingFeeMsat.isSome then reportInsuficcientInboundLiquidity services data.id
    else do
      match ← lift (fromLibrary (dataStore.retrieveLastSetFiatCurrency select)) with
      | none => fail (.permanentFailure
          "No fiat currency set. Node must be started before handling notifications")
      | some _ =>
          -- the preferences and the rates are stored with the payment info
          let _ ← lift (toRuntimeError .lipaServiceUnavailable "Failed to get exchange rates"
            services.queryAllExchangeRates)
          submitLnurlPayInvoice services data.id (some response.lnInvoice.bolt11)
          pure (LnurlInvoiceCreated.mk (asMsats data.amountMsat).satsRoundDown.sats)

/-- The services without the trace of what is submitted to them. -/
def untraced (services : LnurlPayServices) (data : LnurlPayRequestData) :
    NotificationServices where
  openChannelFee := services.openChannelFee data.amountMsat
  openDataStore := services.openDataStore
  strongTypedSeed := services.strongTypedSeed
  reportInsufficientInboundLiquidity := (submitLnurlPayInvoice services data.id none).result
  buildAuth := services.buildAuth
  registerWebhookUrl := services.registerWebhookUrl
  receivePayment := services.receivePayment
  queryAllExchangeRates := services.queryAllExchangeRates
  timezoneConfig := services.timezoneConfig
  buildAsyncAuth := services.buildAsyncAuth
  submitInvoice := do
    let response ← toRuntimeError .nodeUnavailable "Failed to create invoice"
      (services.receivePayment (invoiceRequest data))
    (services.submitLnurlPayInvoice data.id (some response.lnInvoice.bolt11)).mapError
      (Error.mapRuntimeErrorTo .lipaServiceUnavailable)

/-- The result of the handler that stores the payment info. -/
theorem handleLnurlPayRequestNotification_fst (db : Db) (services : NotificationServices)
    (envs : NotificationEnvs) (data : LnurlPayRequestData) :
    (handleLnurlPayRequestNotification db services envs data).1
      = (do
        let _ ← prepare (DataStore.new db none) services envs.select data
        toRuntimeError .lipaServiceUnavailable "Failed to authenticate against backend"
          services.buildAsyncAuth
        services.submitInvoice
        .ok (LnurlInvoiceCreated.mk (asMsats data.amountMsat).satsRoundDown.sats)) := by
  unfold handleLnurlPayRequestNotification
  dsimp only
  cases prepare (DataStore.new db none) services envs.select data with
  | error e => rfl
  | ok prepared => rfl

theorem result_reportInsuficcientInboundLiquidity {α : Type} (services : LnurlPayServices)
    (data : LnurlPayRequestData) :
    (reportInsuficcientInboundLiquidity services data.id : Handling α).result
      = rejectForLiquidity (untraced services data) := by
  unfold reportInsuficcientInboundLiquidity
  rw [result_bind]
  rfl

/-- A rejected request is not handled any further. -/
theorem rejectForLiquidity_bind {α β : Type} (services : NotificationServices)
    (f : α → NotificationHandlingResult β) :
    rejectForLiquidity services >>= f = rejectForLiquidity services := by
  unfold rejectForLiquidity
  cases services.reportInsufficientInboundLiquidity with
  | error e => rfl
  | ok u => rfl

/-- The invoice is submitted once it was created. -/
theorem submitInvoice_untraced {services : LnurlPayServices} {data : LnurlPayRequestData}
    {response : ReceivePaymentResponse}
    (hreceive : services.receivePayment (invoiceRequest data) = .ok response) :
    (untraced services data).submitInvoice
      = (services.submitLnurlPayInvoice data.id (some response.lnInvoice.bolt11)).mapError
        (Error.mapRuntimeErrorTo .lipaServiceUnavailable) := by
  unfold untraced
  dsimp only
  rw [hreceive]
  rfl

theorem result_handleLnurlPayRequest (db : Db) (services : LnurlPayServices)
    (envs : NotificationEnvs) (data : LnurlPayRequestData) :
    (handleLnurlPayRequest db services envs.select data).result
      = (handleLnurlPayRequestNotification db (untraced services data) envs data).1 := by
  rw [handleLnurlPayRequestNotification_fst]
  unfold handleLnurlPayRequest prepare
  dsimp only
  simp only [result_bind, result_lift, bind_assoc]
  -- both handlers take the same steps up to the invoice
  refine bind_congr fun feeMsat => ?_
  refine bind_congr fun _ => ?_
  refine bind_congr fun _ => ?_
  refine bind_congr fun _ => ?_
  split
  · rw [result_reportInsuficcientInboundLiquidity, rejectForLiquidity_bind]
  · simp only [result_bind, result_lift, bind_assoc]
    refine bind_congr fun _ => ?_
    refine bind_congr fun _ => ?_
    have huntraced : (untraced services data).receivePayment ⟨data.amountMsat, "", none⟩
        = services.receivePayment (invoiceRequest data) := rfl
    rw [huntraced]
    cases hreceive : services.receivePayment (invoiceRequest data) with
    | error e => rfl
    | ok response =>
        show Traced.result (ite _ _ _) = ite _ _ _ >>= _
        split
        · rw [result_reportInsuficcientInboundLiquidity, rejectForLiquidity_bind]
        · simp only [result_bind, result_lift, bind_assoc]
          refine bind_congr fun fiatCurrency => ?_
          cases fiatCurrency with
          | none => rfl
          | some fiatCurrency =>
              rw [submitInvoice_untraced hreceive]
              unfold submitLnurlPayInvoice
              simp only [result_bind, result_lift, result_issue, bind_assoc]
              rfl

/-! ## The answers -/

/-- The recipient is stored and enabled. -/
def RecipientEnabled (db : Db) (recipient : String) : Prop :=
  ∃ row ∈ db.lightningAddresses.rows,
    row.address = recipient ∧ EnableStatus.tryFrom row.enableStatus = some .enabled

/-- There is a fee for opening a channel for the request, or in the invoice created for it. -/
def NeedsChannelOpening (services : LnurlPayServices) (data : LnurlPayRequestData) : Prop :=
  (∃ feeMsat, services.openChannelFee data.amountMsat = .ok (some feeMsat) ∧ 0 < feeMsat) ∨
    ∃ response, services.receivePayment (invoiceRequest data) = .ok response
      ∧ response.openingFeeMsat.isSome

/-- The submission of the answer failed with the error. -/
def SubmissionError (services : LnurlPayServices) (id : String) (invoice : Option String)
    (error : Error NotificationHandlingErrorCode) : Prop :=
  ∃ e, services.submitLnurlPayInvoice id invoice = .error e
    ∧ error = e.mapRuntimeErrorTo .lipaServiceUnavailable

/-- A request that is answered safely: not at all, with a rejection or with an invoice. Only a
request whose invoice was submitted has the result `created`. -/
inductive AnsweredSafely {α : Type} (db : Db) (services : LnurlPayServices)
    (data : LnurlPayRequestData) (created : α) : Handling α → Prop where
  | silent (error : Error NotificationHandlingErrorCode) :
      AnsweredSafely db services data created ⟨[], .error error⟩
  | rejected (error : Error NotificationHandlingErrorCode)
      (enabled : RecipientEnabled db data.recipient)
      (needs_channel : NeedsChannelOpening services data)
      (is_liquidity : error = insufficientInboundLiquidity
        ∨ SubmissionError services data.id none error) :
      AnsweredSafely db services data created
        ⟨[.submitLnurlPayInvoice data.id none], .error error⟩
  | invoiced (response : ReceivePaymentResponse) (result : NotificationHandlingResult α)
      (enabled : RecipientEnabled db data.recipient)
      (no_fee : services.openChannelFee data.amountMsat = .ok none
        ∨ services.openChannelFee data.amountMsat = .ok (some 0))
      (is_created : services.receivePayment (invoiceRequest data) = .ok response)
      (no_opening_fee : response.openingFeeMsat = none)
      (is_submission : result = .ok created
        ∨ ∃ error, SubmissionError services data.id (some response.lnInvoice.bolt11) error
          ∧ result = .error error) :
      AnsweredSafely db services data created
        ⟨[.submitLnurlPayInvoice data.id (some response.lnInvoice.bolt11)], result⟩

/-- What is made of the result does not change the answer. -/
theorem AnsweredSafely.map {α β : Type} {db : Db} {services : LnurlPayServices}
    {data : LnurlPayRequestData} {created : α} {x : Handling α} (f : α → β)
    (h : AnsweredSafely db services data created x) :
    AnsweredSafely db services data (f created) (x >>= fun a => pure (f a)) := by
  cases h with
  | silent error => exact .silent error
  | rejected error enabled needs_channel is_liquidity =>
      exact .rejected error enabled needs_channel is_liquidity
  | invoiced response result enabled no_fee is_created no_opening_fee is_submission =>
      rcases is_submission with rfl | ⟨error, herror, rfl⟩
      · exact .invoiced response _ enabled no_fee is_created no_opening_fee (.inl rfl)
      · exact .invoiced response _ enabled no_fee is_created no_opening_fee
          (.inr ⟨error, herror, rfl⟩)

theorem toRuntimeError_eq_ok {α : Type} {code : NotificationHandlingErrorCode} {msg : String}
    {r : Except String α} {a : α} (h : toRuntimeError code msg r = .ok a) : r = .ok a := by
  cases r with
  | ok b => exact congrArg Except.ok (Except.ok.inj h)
  | error e => cases h

theorem fromLibrary_eq_ok {α : Type} {r : Result α} {a : α} (h : fromLibrary r = .ok a) :
    r = .ok a := by
  cases r with
  | ok b => exact congrArg Except.ok (Except.ok.inj h)
  | error e => cases h

/-- The check of the recipient. -/
theorem recipientEnabled_of_checkRecipient {db : Db} {recipient : String}
    (h : checkRecipient (DataStore.new db none) recipient = .ok ()) :
    RecipientEnabled db recipient := by
  obtain ⟨addresses, hread, h⟩ := bind_eq_ok.mp h
  have hread := fromLibrary_eq_ok hread
  cases hfind : addresses.find? (fun a => a.1 = recipient) with
  | none =>
      rw [hfind] at h
      cases h
  | some found =>
      obtain ⟨address, status⟩ := found
      have haddress : address = recipient := by simpa using List.find?_some hfind
      rw [hfind] at h
      cases status with
      | featureDisabled => cases h
      | enabled =>
          obtain ⟨row, hrow, hfrom⟩ := (mem_mapM_ok hread).mp (List.mem_of_find?_eq_some hfind)
          refine ⟨row, (List.mem_insertionSort _).mp hrow, ?_⟩
          split at hfrom
          · next status hstatus =>
            obtain ⟨rfl, rfl⟩ := Prod.mk.inj (Except.ok.inj hfrom)
            exact ⟨haddress, hstatus⟩
          · cases hfrom

/-- Submitting an answer fails before the answer is sent, or sends it. -/
theorem submit_bind_elim {β : Type} {P : Handling β → Prop} {services : LnurlPayServices}
    {id : String} {invoice : Option String} {f : Unit → Handling β} (unsent : ∀ e, P (fail e))
    (refused : ∀ e, SubmissionError services id invoice e →
      P ⟨[.submitLnurlPayInvoice id invoice], .error e⟩)
    (sent : P ⟨.submitLnurlPayInvoice id invoice :: (f ()).commands, (f ()).result⟩) :
    P (submitLnurlPayInvoice services id invoice >>= f) := by
  unfold submitLnurlPayInvoice
  cases services.buildAsyncAuth with
  | error e => exact unsent _
  | ok u =>
      show P (issue _ _ >>= f)
      refine issue_bind_elim (fun e he => refused e ?_) fun _ _ => sent
      cases hsubmit : services.submitLnurlPayInvoice id invoice with
      | ok u =>
          rw [hsubmit] at he
          cases he
      | error cause =>
          rw [hsubmit] at he
          exact ⟨cause, hsubmit, (Except.error.inj he).symm⟩

/-- What a request that was answered with an invoice returns. -/
def invoiceCreated (data : LnurlPayRequestData) : LnurlInvoiceCreated :=
  ⟨(asMsats data.amountMsat).satsRoundDown.sats⟩

theorem report_answer {db : Db} {services : LnurlPayServices} {data : LnurlPayRequestData}
    (henabled : RecipientEnabled db data.recipient)
    (hneeds : NeedsChannelOpening services data) :
    AnsweredSafely db services data (invoiceCreated data)
      (reportInsuficcientInboundLiquidity services data.id) := by
  refine submit_bind_elim (fun e => .silent e) (fun e herror => ?_) ?_
  · exact .rejected e henabled hneeds (.inr herror)
  · exact .rejected insufficientInboundLiquidity henabled hneeds (.inl rfl)

theorem invoice_answer {db : Db} {services : LnurlPayServices} {data : LnurlPayRequestData}
    {response : ReceivePaymentResponse} (henabled : RecipientEnabled db data.recipient)
    (hfee : services.openChannelFee data.amountMsat = .ok none
      ∨ services.openChannelFee data.amountMsat = .ok (some 0))
    (hcreated : services.receivePayment (invoiceRequest data) = .ok response)
    (hopening : response.openingFeeMsat = none) :
    AnsweredSafely db services data (invoiceCreated data) (do
      submitLnurlPayInvoice services data.id (some response.lnInvoice.bolt11)
      pure (invoiceCreated data)) := by
  refine submit_bind_elim (fun e => .silent e) (fun e herror => ?_) ?_
  · exact .invoiced response _ henabled hfee hcreated hopening (.inr ⟨e, herror, rfl⟩)
  · exact .invoiced response _ henabled hfee hcreated hopening (.inl rfl)

theorem handleLnurlPayRequest_answer (db : Db) (services : LnurlPayServices) (select : Env)
    (data : LnurlPayRequestData) :
    AnsweredSafely db services data (invoiceCreated data)
      (handleLnurlPayRequest db services select data) := by
  unfold handleLnurlPayRequest
  refine lift_bind_elim (fun e _ => .silent e) fun feeMsat hfeeMsat => ?_
  have hfee := toRuntimeError_eq_ok hfeeMsat
  refine lift_bind_elim (fun e _ => .silent e) fun _ _ => ?_
  refine lift_bind_elim (fun e _ => .silent e) fun _ hrecipient => ?_
  have henabled := recipientEnabled_of_checkRecipient hrecipient
  refine lift_bind_elim (fun e _ => .silent e) fun _ _ => ?_
  split
  · next hpositive =>
    cases feeMsat with
    | none => cases hpositive
    | some fee =>
        have hlt : 0 < fee := by simpa using hpositive
        exact report_answer henabled (.inl ⟨fee, hfee, hlt⟩)
  · next hzero =>
    refine lift_bind_elim (fun e _ => .silent e) fun _ _ => ?_
    refine lift_bind_elim (fun e _ => .silent e) fun _ _ => ?_
    refine lift_bind_elim (fun e _ => .silent e) fun response hresponse => ?_
    have hcreated := toRuntimeError_eq_ok hresponse
    split
    · next hopening => exact report_answer henabled (.inr ⟨response, hcreated, hopening⟩)
    · next hopening =>
      have hopening : response.openingFeeMsat = none := by simpa using hopening
      refine lift_bind_elim (fun e _ => .silent e) fun fiatCurrency _ => ?_
      cases fiatCurrency with
      | none => exact .silent _
      | some _ =>
          refine lift_bind_elim (fun e _ => .silent e) fun _ _ => ?_
          refine invoice_answer henabled ?_ hcreated hopening
          cases feeMsat with
          | none => exact .inl hfee
          | some fee =>
              have hfee0 : fee = 0 := by simpa using hzero
              exact .inr (hfee0 ▸ hfee)

end NotificationHandling

end LipaLightning
