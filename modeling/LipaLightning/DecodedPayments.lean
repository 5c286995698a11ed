import LipaLightning.Basic.Runs
import LipaLightning.Basic.Traced
import LipaLightning.DisplayedLimits
import LipaLightning.Onchain.ReverseSwap

set_option autoImplicit false

/-! # From decoded data to payments

`Util::decode_data` (`util.rs`) tells the user what a text is, and the calls that pay and withdraw
(`lightning/bolt11.rs`, `lightning/lnurl.rs`) take its answers. Here these calls are traced: what
they ask of the SDK, and which failed payments they report to it.

In every run, whatever else happens to the wallet, what is asked of the SDK is what was decoded.
-/

namespace LipaLightning

/-! ## Decoding -/

/-- `breez_sdk_core::Network`. -/
inductive Network where
  | bitcoin
  | testnet
  | signet
  | regtest
  deriving DecidableEq, Repr

/-- Decoded data. -/
inductive DecodedData where
  | bolt11Invoice (invoiceDetails : InvoiceDetails)
  | lnUrlPay (lnurlPayDetails : LnUrlPayDetails)
  | lnUrlWithdraw (lnurlWithdrawDetails : LnUrlWithdrawDetails)
  | onchainAddress (onchainAddressDetails : BitcoinAddressData)
  deriving DecidableEq, Repr

namespace Util

/-- `breez_sdk_core::InputType`, with the data that the library reads. The network of an invoice is
read here only. -/
inductive InputType where
  | bolt11 (invoice : LNInvoice) (network : Network)
  | lnUrlPay (data : LnUrlPayRequestData)
  | bitcoinAddress (address : BitcoinAddressData)
  | lnUrlAuth
  | lnUrlError (reason : String)
  | lnUrlWithdraw (data : LnUrlWithdrawRequestData)
  | nodeId
  | url
  deriving DecidableEq, Repr

/-- What the SDK makes of a text, and its names of the networks. -/
structure SdkParser where
  parse : String → Except String InputType
  networkName : Network → String

/-- Decode a user-provided string. -/
def decodeData (parsers : Parsers) (support : Support) (sdk : SdkParser) (data : String) :
    Except DecodeDataError DecodedData :=
  match sdk.parse data with
  | .ok (.bolt11 invoice network) => do
      ensure (network = .bitcoin) (.unsupported (.network (sdk.networkName network)))
      .ok (.bolt11Invoice (.fromLnInvoice invoice support.getExchangeRate))
  | .ok (.lnUrlPay data) => do
      let details ← LnUrlPayDetails.fromLnurlPayRequestData parsers data support.getExchangeRate
      .ok (.lnUrlPay details)
  | .ok (.bitcoinAddress address) => .ok (.onchainAddress address)
  | .ok .lnUrlAuth => .error (.unsupported .lnUrlAuth)
  | .ok (.lnUrlError reason) => .error (.lnUrlError reason)
  | .ok (.lnUrlWithdraw data) =>
      .ok (.lnUrlWithdraw (.fromLnurlWithdrawRequestData data support.getExchangeRate))
  | .ok .nodeId => .error (.unsupported .nodeId)
  | .ok .url => .error (.unsupported .url)
  | .error e => .error (.unrecognized e)

end Util

/-! ## Paying -/

/-- What a call asks of the SDK. -/
inductive PaymentCommand where
  | sendPayment (request : SendPaymentRequest)
  | lnurlPay (request : LnUrlPayRequest)
  | lnurlWithdraw (request : LnUrlWithdrawRequest)
  /-- `Support::report_send_payment_issue`. -/
  | reportIssue (paymentHash : String)
  deriving DecidableEq, Repr

/-- The errors of an attempt, which are reported. -/
def SendPaymentError.isReported : SendPaymentError → Bool
  | .generic _ | .paymentFailed _ | .paymentTimeout _ | .routeNotFound _ | .routeTooExpensive _
  | .serviceConnectivity _ => true
  | .alreadyPaid | .invalidAmount _ | .invalidInvoice _ | .invoiceExpired _
  | .invalidNetwork _ => false

namespace Bolt11

/-- The request that pays an invoice, of the given amount if it has none itself. -/
def payRequest (invoiceDetails : InvoiceDetails) (amountSat : UInt64) : SendPaymentRequest :=
  ⟨invoiceDetails.invoice, true, if amountSat = 0 then none else some (asSats amountSat).msats⟩

/-- The part of `pay_open_amount` that comes after the payment info was stored. -/
def sendTraced (sdk : Sdk) (invoiceDetails : InvoiceDetails) (amountSat : UInt64) :
    Traced PaymentCommand (Error PayErrorCode) Unit := do
  let nodeState ← Traced.lift (sdk.nodeInfo.mapError fun _ =>
    .runtimeError .nodeUnavailable "Failed to read node info")
  Traced.lift (ensure (nodeState.id ≠ invoiceDetails.payeePubKey)
    (.runtimeError .payingToSelf "A locally issued invoice tried to be paid"))
  let request := payRequest invoiceDetails amountSat
  Traced.issue (.sendPayment request) (.ok ())
  match sdk.sendPayment request with
  | .ok () => return ()
  | .error e =>
      -- a failed attempt is reported before its error is returned
      if e.isReported then Traced.issue (.reportIssue invoiceDetails.paymentHash) (.ok ())
      Traced.fail (mapSendPaymentError e)

/-- The report of what the SDK answers. -/
def reports (invoiceDetails : InvoiceDetails) : Except SendPaymentError Unit → List PaymentCommand
  | .ok () => []
  | .error e => if e.isReported then [.reportIssue invoiceDetails.paymentHash] else []

variable {sdk : Sdk} {nodeState : NodeState} {invoiceDetails : InvoiceDetails}

/-- An invoice of another node is sent, and a failed attempt reported. -/
theorem sendTraced_other (hnode : sdk.nodeInfo = .ok nodeState)
    (hother : nodeState.id ≠ invoiceDetails.payeePubKey) (amountSat : UInt64) :
    sendTraced sdk invoiceDetails amountSat =
      ⟨.sendPayment (payRequest invoiceDetails amountSat)
          :: reports invoiceDetails (sdk.sendPayment (payRequest invoiceDetails amountSat)),
        (sdk.sendPayment (payRequest invoiceDetails amountSat)).mapError mapSendPaymentError⟩ := by
  have hensure : ensure (nodeState.id ≠ invoiceDetails.payeePubKey)
      (Error.runtimeError PayErrorCode.payingToSelf "A locally issued invoice tried to be paid")
      = .ok () := if_pos hother
  unfold sendTraced
  rw [hnode]
  simp only [Except.mapError, Traced.lift_ok_bind, hensure]
  cases sdk.sendPayment (payRequest invoiceDetails amountSat) with
  | ok u => rfl
  | error e =>
      unfold reports
      cases hreported : e.isReported with
      | true =>
          simp only [hreported, if_true]
          rfl
      | false =>
          simp only [hreported, Bool.false_eq_true, if_false]
          rfl

/-- Otherwise nothing is sent. -/
theorem sendTraced_own (hnode : sdk.nodeInfo = .ok nodeState)
    (hown : nodeState.id = invoiceDetails.payeePubKey) (amountSat : UInt64) :
    sendTraced sdk invoiceDetails amountSat = ⟨[], .error (.runtimeError .payingToSelf
      "A locally issued invoice tried to be paid")⟩ := by
  have hensure : ensure (nodeState.id ≠ invoiceDetails.payeePubKey)
      (Error.runtimeError PayErrorCode.payingToSelf "A locally issued invoice tried to be paid")
      = .error (.runtimeError .payingToSelf "A locally issued invoice tried to be paid") :=
    if_neg (not_not.mpr hown)
  unfold sendTraced
  rw [hnode]
  simp only [Except.mapError, Traced.lift_ok_bind, hensure]
  rfl

theorem sendTraced_offline {e : String} (hnode : sdk.nodeInfo = .error e)
    (amountSat : UInt64) :
    sendTraced sdk invoiceDetails amountSat
      = ⟨[], .error (.runtimeError .nodeUnavailable "Failed to read node info")⟩ := by
  unfold sendTraced
  rw [hnode]
  rfl

/-- The trace is that of `pay_open_amount`. -/
theorem result_sendTraced (support : Support) (sdk : Sdk) (env : Env)
    (invoiceDetails : InvoiceDetails) (amountSat : UInt64) :
    payOpenAmount support sdk env invoiceDetails amountSat
      = ((sendTraced sdk invoiceDetails amountSat).result,
        support.storePaymentInfo env invoiceDetails.paymentHash none) := by
  unfold payOpenAmount
  cases hnode : sdk.nodeInfo with
  | error e => rw [sendTraced_offline hnode]
  | ok nodeState =>
      dsimp only
      by_cases hown : nodeState.id = invoiceDetails.payeePubKey
      · rw [if_pos hown, sendTraced_own hnode hown]
      · rw [if_neg hown, sendTraced_other hnode hown, ← payRequest]
        cases sdk.sendPayment (payRequest invoiceDetails amountSat) <;> rfl

end Bolt11

namespace Lnurl

/-- `pay` up to the point where the payment info is stored: the payment hash. -/
def payTraced (sdk : Sdk) (lnurlPayRequestData : LnUrlPayRequestData) (amountSat : UInt64)
    (comment : Option String) : Traced PaymentCommand (Error LnUrlPayErrorCode) String := do
  let commentAllowed := lnurlPayRequestData.commentAllowed
  Traced.lift (ensure (¬ comment.any fun c => c.utf8ByteSize > commentAllowed.toNat)
    (.invalidInput ("The provided comment is longer than the allowed "
      ++ toString commentAllowed ++ " characters")))
  let request : LnUrlPayRequest :=
    ⟨lnurlPayRequestData, (asSats amountSat).msats, true, comment, some false⟩
  let answer ← Traced.issue (.lnurlPay request)
    ((sdk.lnurlPay request).mapError mapLnurlPayError)
  match answer with
  | .endpointSuccess paymentHash => return paymentHash
  | .endpointError reason =>
      Traced.fail (.runtimeError .lnUrlServerError ("LNURL server returned error: " ++ reason))
  | .payError paymentHash reason =>
      Traced.issue (.reportIssue paymentHash) (.error (.runtimeError .paymentFailed
        ("Paying invoice for LNURL pay failed: " ++ reason)))

/-- `withdraw` up to the point where the payment info is stored. -/
def withdrawTraced (sdk : Sdk) (lnurlWithdrawRequestData : LnUrlWithdrawRequestData)
    (amountSat : UInt64) : Traced PaymentCommand (Error LnUrlWithdrawErrorCode) String := do
  let request : LnUrlWithdrawRequest :=
    ⟨lnurlWithdrawRequestData, (asSats amountSat).msats, none⟩
  let answer ← Traced.issue (.lnurlWithdraw request)
    ((sdk.lnurlWithdraw request).mapError mapLnurlWithdrawError)
  match answer with
  | .ok invoice => return invoice.paymentHash
  | .timeout invoice => return invoice.paymentHash
  | .errorStatus reason =>
      Traced.fail (.runtimeError .lnUrlServerError ("LNURL server returned error: " ++ reason))

/-- The support state after a call that stores the payment info of what it has returned. -/
def storeReturned {ε : Type} (support : Support) (env : Env) (result : Except ε String) : Support :=
  match result with
  | .ok paymentHash => support.storePaymentInfo env paymentHash none
  | .error _ => support

theorem result_payTraced (support : Support) (sdk : Sdk) (env : Env)
    (lnurlPayRequestData : LnUrlPayRequestData) (amountSat : UInt64) (comment : Option String) :
    pay support sdk env lnurlPayRequestData amountSat comment
      = ((payTraced sdk lnurlPayRequestData amountSat comment).result,
        storeReturned support env
          (payTraced sdk lnurlPayRequestData amountSat comment).result) := by
  unfold pay payTraced ensure
  dsimp only
  by_cases hlong : (comment.any fun c => c.utf8ByteSize > lnurlPayRequestData.commentAllowed.toNat)
      = true
  · rw [if_pos hlong, if_neg (not_not.mpr hlong)]
    rfl
  · rw [if_neg hlong, if_pos hlong, Traced.lift_ok_bind]
    cases sdk.lnurlPay ⟨lnurlPayRequestData, (asSats amountSat).msats, true, comment,
        some false⟩ with
    | error e => rfl
    | ok answer => cases answer <;> rfl

theorem result_withdrawTraced (support : Support) (sdk : Sdk) (env : Env)
    (lnurlWithdrawRequestData : LnUrlWithdrawRequestData) (amountSat : UInt64) :
    withdraw support sdk env lnurlWithdrawRequestData amountSat
      = ((withdrawTraced sdk lnurlWithdrawRequestData amountSat).result,
        storeReturned support env
          (withdrawTraced sdk lnurlWithdrawRequestData amountSat).result) := by
  unfold withdraw withdrawTraced
  dsimp only
  cases sdk.lnurlWithdraw ⟨lnurlWithdrawRequestData, (asSats amountSat).msats, none⟩ with
  | error e => rfl
  | ok answer => cases answer <;> rfl

end Lnurl

/-! ## Runs -/

/-- The calls of an app, which pays what it was told about a text. The answers it was given are
counted from the first. -/
inductive PayingCall where
  | decode (parser : Util.SdkParser) (data : String)
  | pay (sdk : Sdk) (env : Env) (decoded : ℕ) (amountSat : UInt64)
  | lnurlPay (sdk : Sdk) (env : Env) (decoded : ℕ) (amountSat : UInt64)
      (comment : Option String)
  | lnurlWithdraw (sdk : Sdk) (env : Env) (decoded : ℕ) (amountSat : UInt64)
  /-- Anything else, which may change all that the wallet has. -/
  | other (support : Support)

structure PayingApp where
  support : Support
  decoded : List DecodedData
  commands : List PaymentCommand

namespace PayingApp

def step (parsers : Parsers) (app : PayingApp) : PayingCall → PayingApp
  | .decode parser data =>
      match Util.decodeData parsers app.support parser data with
      | .ok decodedData => { app with decoded := app.decoded ++ [decodedData] }
      | .error _ => app
  | .pay sdk env i amountSat =>
      match app.decoded[i]? with
      | some (.bolt11Invoice details) =>
          { app with
            support := (Bolt11.payOpenAmount app.support sdk env details amountSat).2
            commands := app.commands ++ (Bolt11.sendTraced sdk details amountSat).commands }
      | _ => app
  | .lnurlPay sdk env i amountSat comment =>
      match app.decoded[i]? with
      | some (.lnUrlPay details) =>
          { app with
            support := (Lnurl.pay app.support sdk env details.requestData amountSat comment).2
            commands := app.commands
              ++ (Lnurl.payTraced sdk details.requestData amountSat comment).commands }
      | _ => app
  | .lnurlWithdraw sdk env i amountSat =>
      match app.decoded[i]? with
      | some (.lnUrlWithdraw details) =>
          { app with
            support := (Lnurl.withdraw app.support sdk env details.requestData amountSat).2
            commands := app.commands
              ++ (Lnurl.withdrawTraced sdk details.requestData amountSat).commands }
      | _ => app
  | .other support => { app with support := support }

end PayingApp

/-! ## What is asked for -/

/-- A text was read as the data in one of the calls, an invoice as one of the Bitcoin network. -/
def ReadFrom (parsers : Parsers) (calls : List PayingCall) (decodedData : DecodedData) : Prop :=
  ∃ parser data rate, .decode parser data ∈ calls ∧
    match decodedData with
    | .bolt11Invoice details => ∃ invoice, parser.parse data = .ok (.bolt11 invoice .bitcoin) ∧
        details = .fromLnInvoice invoice rate
    | .lnUrlPay details => ∃ request, parser.parse data = .ok (.lnUrlPay request) ∧
        LnUrlPayDetails.fromLnurlPayRequestData parsers request rate = .ok details ∧
        details.requestData = request
    | .lnUrlWithdraw details => ∃ request, parser.parse data = .ok (.lnUrlWithdraw request) ∧
        details = .fromLnurlWithdrawRequestData request rate
    | .onchainAddress address => parser.parse data = .ok (.bitcoinAddress address)

/-- The report of what the SDK answers to an LNURL-pay. -/
def lnurlReports : Except SdkLnUrlPayError SdkLnUrlPayResult → List PaymentCommand
  | .ok (.payError paymentHash _) => [.reportIssue paymentHash]
  | _ => []

/-- What a call may ask of the SDK, after the calls before it: the payment of an invoice of another
node, the payment or the withdrawal of a request, each as it was read from a text, with the amount
of the call. A payment that was attempted and failed is reported right after it. -/
inductive AsksFor (parsers : Parsers) (before : List PayingCall) :
    PayingCall → List PaymentCommand → Prop
  | nothing (call : PayingCall) : AsksFor parsers before call []
  | pay (sdk : Sdk) (env : Env) (i : ℕ) (amountSat : UInt64) (details : InvoiceDetails)
      (nodeState : NodeState) (read : ReadFrom parsers before (.bolt11Invoice details))
      (node : sdk.nodeInfo = .ok nodeState) (other : nodeState.id ≠ details.payeePubKey) :
      AsksFor parsers before (.pay sdk env i amountSat)
        (.sendPayment (Bolt11.payRequest details amountSat)
          :: Bolt11.reports details (sdk.sendPayment (Bolt11.payRequest details amountSat)))
  | lnurlPay (sdk : Sdk) (env : Env) (i : ℕ) (amountSat : UInt64) (comment : Option String)
      (details : LnUrlPayDetails) (request : LnUrlPayRequest)
      (read : ReadFrom parsers before (.lnUrlPay details))
      (asked : request = ⟨details.requestData, (asSats amountSat).msats, true, comment,
        some false⟩)
      (short : ∀ c ∈ comment, c.utf8ByteSize ≤ details.maxCommentLength.toNat) :
      AsksFor parsers before (.lnurlPay sdk env i amountSat comment)
        (.lnurlPay request :: lnurlReports (sdk.lnurlPay request))
  | lnurlWithdraw (sdk : Sdk) (env : Env) (i : ℕ) (amountSat : UInt64)
      (details : LnUrlWithdrawDetails)
      (read : ReadFrom parsers before (.lnUrlWithdraw details)) :
      AsksFor parsers before (.lnurlWithdraw sdk env i amountSat)
        [.lnurlWithdraw ⟨details.requestData, (asSats amountSat).msats, none⟩]

/-- What the calls have asked for, one after the other. -/
inductive AskedFor (parsers : Parsers) : List PayingCall → List PaymentCommand → Prop
  | nil : AskedFor parsers [] []
  | snoc (calls : List PayingCall) (commands : List PaymentCommand) (call : PayingCall)
      (asked : List PaymentCommand) (before : AskedFor parsers calls commands)
      (last : AsksFor parsers calls call asked) :
      AskedFor parsers (calls ++ [call]) (commands ++ asked)

variable {parsers : Parsers} {calls : List PayingCall}

theorem ReadFrom.append {decodedData : DecodedData} (h : ReadFrom parsers calls decodedData)
    (later : List PayingCall) : ReadFrom parsers (calls ++ later) decodedData := by
  obtain ⟨parser, data, rate, hmem, hread⟩ := h
  exact ⟨parser, data, rate, List.mem_append_left later hmem, hread⟩

/-- What a text is decoded to was read from it. -/
theorem readFrom_of_decodeData {support : Support} {parser : Util.SdkParser} {data : String}
    {decodedData : DecodedData}
    (h : Util.decodeData parsers support parser data = .ok decodedData) :
    ReadFrom parsers (calls ++ [.decode parser data]) decodedData := by
  refine ⟨parser, data, support.getExchangeRate,
    List.mem_append_right calls (List.mem_singleton_self _), ?_⟩
  unfold Util.decodeData at h
  cases hparse : parser.parse data with
  | error e =>
      rw [hparse] at h
      cases h
  | ok input =>
      rw [hparse] at h
      cases input with
      | bolt11 invoice network =>
          obtain ⟨_, hnetwork, hdetails⟩ := bind_eq_ok.mp h
          obtain rfl := (ensure_eq_ok _ _ _).mp hnetwork
          obtain rfl := Except.ok.inj hdetails
          exact ⟨invoice, hparse, rfl⟩
      | lnUrlPay request =>
          obtain ⟨details, hdetails, hok⟩ := bind_eq_ok.mp h
          obtain rfl := Except.ok.inj hok
          refine ⟨request, hparse, hdetails, ?_⟩
          obtain ⟨descriptions, -, hfields⟩ := bind_eq_ok.mp hdetails
          rw [← Except.ok.inj hfields]
      | bitcoinAddress address =>
          obtain rfl := Except.ok.inj h
          exact hparse
      | lnUrlWithdraw request =>
          obtain rfl := Except.ok.inj h
          exact ⟨request, hparse, rfl⟩
      | lnUrlAuth => cases h
      | lnUrlError reason => cases h
      | nodeId => cases h
      | url => cases h

/-- What an LNURL-pay is allowed to send as a comment is shown. -/
theorem ReadFrom.commentAllowed {details : LnUrlPayDetails}
    (h : ReadFrom parsers calls (.lnUrlPay details)) :
    details.requestData.commentAllowed = details.maxCommentLength := by
  obtain ⟨parser, data, rate, -, request, -, hdetails, -⟩ := h
  obtain ⟨descriptions, -, hfields⟩ := bind_eq_ok.mp hdetails
  rw [← Except.ok.inj hfields]

/-! ## One call -/

theorem asksFor_pay {details : InvoiceDetails}
    (hread : ReadFrom parsers calls (.bolt11Invoice details)) (sdk : Sdk) (env : Env) (i : ℕ)
    (amountSat : UInt64) :
    AsksFor parsers calls (.pay sdk env i amountSat)
      (Bolt11.sendTraced sdk details amountSat).commands := by
  cases hnode : sdk.nodeInfo with
  | error e =>
      rw [Bolt11.sendTraced_offline hnode]
      exact .nothing _
  | ok nodeState =>
      by_cases hown : nodeState.id = details.payeePubKey
      · rw [Bolt11.sendTraced_own hnode hown]
        exact .nothing _
      · rw [Bolt11.sendTraced_other hnode hown]
        exact .pay sdk env i amountSat details nodeState hread hnode hown

theorem asksFor_lnurlPay {details : LnUrlPayDetails}
    (hread : ReadFrom parsers calls (.lnUrlPay details)) (sdk : Sdk) (env : Env) (i : ℕ)
    (amountSat : UInt64) (comment : Option String) :
    AsksFor parsers calls (.lnurlPay sdk env i amountSat comment)
      (Lnurl.payTraced sdk details.requestData amountSat comment).commands := by
  let P : Traced PaymentCommand (Error LnUrlPayErrorCode) String → Prop := fun call =>
    AsksFor parsers calls (.lnurlPay sdk env i amountSat comment) call.commands
  suffices hP : P (Lnurl.payTraced sdk details.requestData amountSat comment) from hP
  unfold Lnurl.payTraced
  refine Traced.lift_bind_elim (fun e _ => .nothing _) fun _ hshort => ?_
  rw [ensure_eq_ok, Option.any_eq_true] at hshort
  have hcomment : ∀ c ∈ comment, c.utf8ByteSize ≤ details.maxCommentLength.toNat := by
    intro c hc
    rw [← hread.commentAllowed]
    by_contra hlong
    exact hshort ⟨c, hc, decide_eq_true (Nat.lt_of_not_le hlong)⟩
  have hpay := AsksFor.lnurlPay sdk env i amountSat comment details _ hread rfl hcomment
  dsimp only
  cases hanswer : sdk.lnurlPay ⟨details.requestData, (asSats amountSat).msats, true, comment,
      some false⟩ with
  | error e =>
      rw [hanswer] at hpay
      exact hpay
  | ok answer =>
      rw [hanswer] at hpay
      cases answer <;> exact hpay

theorem asksFor_lnurlWithdraw {details : LnUrlWithdrawDetails}
    (hread : ReadFrom parsers calls (.lnUrlWithdraw details)) (sdk : Sdk) (env : Env) (i : ℕ)
    (amountSat : UInt64) :
    AsksFor parsers calls (.lnurlWithdraw sdk env i amountSat)
      (Lnurl.withdrawTraced sdk details.requestData amountSat).commands := by
  have hwithdraw := AsksFor.lnurlWithdraw sdk env i amountSat details hread
  unfold Lnurl.withdrawTraced
  dsimp only
  cases sdk.lnurlWithdraw ⟨details.requestData, (asSats amountSat).msats, none⟩ with
  | error e => exact hwithdraw
  | ok answer => cases answer <;> exact hwithdraw

/-! ## All calls -/

namespace PayingApp

/-- What the app was told was read from texts, and what it has asked for is that. -/
structure Faithful (parsers : Parsers) (calls : List PayingCall) (app : PayingApp) : Prop where
  decoded : ∀ decodedData ∈ app.decoded, ReadFrom parsers calls decodedData
  commands : AskedFor parsers calls app.commands

variable {app : PayingApp}

/-- A call that asks for something, and leaves what the app was told. -/
theorem Faithful.asks (h : Faithful parsers calls app) {call : PayingCall}
    {asked : List PaymentCommand} (hasks : AsksFor parsers calls call asked) {app' : PayingApp}
    (hdecoded : app'.decoded = app.decoded) (hcommands : app'.commands = app.commands ++ asked) :
    Faithful parsers (calls ++ [call]) app' where
  decoded decodedData hmem := by
    rw [hdecoded] at hmem
    exact (h.decoded decodedData hmem).append [call]
  commands := by
    rw [hcommands]
    exact .snoc calls app.commands call asked h.commands hasks

theorem faithful_step (h : Faithful parsers calls app) (call : PayingCall) :
    Faithful parsers (calls ++ [call]) (app.step parsers call) := by
  have hnothing : ∀ app' : PayingApp, app'.decoded = app.decoded →
      app'.commands = app.commands → Faithful parsers (calls ++ [call]) app' := by
    intro app' hdecoded hcommands
    exact h.asks (.nothing call) hdecoded (hcommands.trans (List.append_nil _).symm)
  cases call with
  | decode parser data =>
      cases hdecode : Util.decodeData parsers app.support parser data with
      | error e =>
          rw [step, hdecode]
          exact hnothing app rfl rfl
      | ok decodedData =>
          rw [step, hdecode]
          refine ⟨fun new hnew => ?_, (hnothing app rfl rfl).commands⟩
          rcases List.mem_append.mp hnew with hold | hlast
          · exact (h.decoded new hold).append _
          · obtain rfl := List.mem_singleton.mp hlast
            exact readFrom_of_decodeData hdecode
  | pay sdk env i amountSat =>
      unfold step
      dsimp only
      split
      · next details hget =>
        have hread := h.decoded _ (List.mem_of_getElem? hget)
        exact h.asks (asksFor_pay hread sdk env i amountSat) rfl rfl
      · exact hnothing app rfl rfl
  | lnurlPay sdk env i amountSat comment =>
      unfold step
      dsimp only
      split
      · next details hget =>
        have hread := h.decoded _ (List.mem_of_getElem? hget)
        exact h.asks (asksFor_lnurlPay hread sdk env i amountSat comment) rfl rfl
      · exact hnothing app rfl rfl
  | lnurlWithdraw sdk env i amountSat =>
      unfold step
      dsimp only
      split
      · next details hget =>
        have hread := h.decoded _ (List.mem_of_getElem? hget)
        exact h.asks (asksFor_lnurlWithdraw hread sdk env i amountSat) rfl rfl
      · exact hnothing app rfl rfl
  | other support => exact hnothing _ rfl rfl

end PayingApp

end LipaLightning
