import LipaLightning.Basic.Interleaving
import LipaLightning.NotificationHandling.Dispatch
import Mathlib.Data.List.ReduceOption

set_option autoImplicit false

/-! # Waiting for a payment while the SDK is running

`wait_for_payment` (`notification_handling.rs`) is one of two parties. The SDK records what becomes
of the payment and sends its events to a channel, from the moment it is started; the handler looks
at the clock, asks the SDK for the payment, and takes an event from the channel. Between any two
steps of the handler the SDK can do anything, or stop.

`run_finish` says that in every interleaving the handler returns what `waitForPayment` makes of the
answers and the events it happened to get. `notification_truthful` is what a notification tells: a
payment that is reported was complete or was announced, and one that is complete when the handler
looks at the clock in time is not missed.
-/

namespace LipaLightning

open Transitions

/-! ## The parties -/

/-- Where the handler is. -/
inductive WaitPhase where
  | starting
  | checkingTime
  | asking
  | receiving
  | waitingForSynced (payment : Option Payment)
  | returned (result : NotificationHandlingResult Payment)

structure Waiting where
  phase : WaitPhase
  /-- What the SDK knows of the payment. -/
  known : Option Payment
  /-- The events that are sent but not received. -/
  channel : List ReceivedEvent
  sdkRunning : Bool
  timedOut : Bool

inductive WaitEvent where
  | timeOut
  | record (payment : Option Payment)
  | send (event : ReceivedEvent)
  | stopSdk
  | beginWait
  | checkTime
  | answer (answer : Except String (Option Payment))
  | receive (event : Option ReceivedEvent)
  | disconnect

namespace WaitPhase

/-- The handler is in `recv_timeout`. -/
def InReceive : WaitPhase → Prop
  | .receiving => True
  | .waitingForSynced _ => True
  | _ => False

/-- Where an answer of the SDK leads. -/
def answered (answer : Except String (Option Payment)) : WaitPhase :=
  match NotificationHandling.getConfirmedPayment answer with
  | .error e => .returned (.error e)
  | .ok (some payment) => .returned (.ok payment)
  | .ok none => .receiving

/-- Where an event leads, or none within the time of `recv_timeout`. -/
def received (paymentHash : String) : WaitPhase → Option ReceivedEvent → WaitPhase
  | .receiving, some (.invoicePaid details) =>
      if details.paymentHash = paymentHash then .waitingForSynced details.payment
      else .checkingTime
  | .receiving, _ => .checkingTime
  | .waitingForSynced (some payment), some .synced => .returned (.ok payment)
  | .waitingForSynced none, some .synced => .checkingTime
  | phase, _ => phase

end WaitPhase

namespace Waiting

variable {paymentHash : String}

/-- The SDK is started, and the handler is about to be. -/
def start (known : Option Payment) : Waiting where
  phase := .starting
  known := known
  channel := []
  sdkRunning := true
  timedOut := false

variable (paymentHash) in
inductive Step : Waiting → WaitEvent → Waiting → Prop
  | timeOut (s : Waiting) : Step s .timeOut { s with timedOut := true }
  | record (s : Waiting) (payment : Option Payment) (running : s.sdkRunning = true) :
      Step s (.record payment) { s with known := payment }
  | send (s : Waiting) (event : ReceivedEvent) (running : s.sdkRunning = true) :
      Step s (.send event) { s with channel := s.channel ++ [event] }
  | stopSdk (s : Waiting) : Step s .stopSdk { s with sdkRunning := false }
  -- a swap is redeemed between the start of the SDK and the wait
  | beginWait (s : Waiting) (starting : s.phase = .starting) :
      Step s .beginWait { s with phase := .checkingTime }
  | inTime (s : Waiting) (checking : s.phase = .checkingTime) (early : s.timedOut = false) :
      Step s .checkTime { s with phase := .asking }
  | expired (s : Waiting) (checking : s.phase = .checkingTime) (late : s.timedOut = true) :
      Step s .checkTime { s with phase := .returned (.error
        (.runtimeError .expectedPaymentNotReceived
          ("Expected incoming payment with hash " ++ paymentHash ++ " but it was not received"))) }
  | answer (s : Waiting) (asking : s.phase = .asking) :
      Step s (.answer (.ok s.known)) { s with phase := .answered (.ok s.known) }
  | answerError (s : Waiting) (e : String) (asking : s.phase = .asking) :
      Step s (.answer (.error e)) { s with phase := .answered (.error e) }
  | receive (s : Waiting) (event : ReceivedEvent) (rest : List ReceivedEvent)
      (inReceive : s.phase.InReceive) (first : s.channel = event :: rest) :
      Step s (.receive (some event))
        { s with phase := s.phase.received paymentHash (some event), channel := rest }
  | receiveTimeout (s : Waiting) (inReceive : s.phase.InReceive) (empty : s.channel = [])
      (running : s.sdkRunning = true) :
      Step s (.receive none) { s with phase := s.phase.received paymentHash none }
  -- what was sent before the SDK stopped is still received
  | disconnect (s : Waiting) (inReceive : s.phase.InReceive) (empty : s.channel = [])
      (stopped : s.sdkRunning = false) :
      Step s .disconnect { s with phase := .returned (.error
        (.permanentFailure "The SDK stopped running unexpectedly")) }

/-! ## What the handler sees of a run -/

def sentBy : WaitEvent → Option ReceivedEvent
  | .send event => some event
  | _ => none

def answerBy : WaitEvent → Option (Except String (Option Payment))
  | .answer answer => some answer
  | _ => none

def receivedBy : WaitEvent → Option (Option ReceivedEvent)
  | .receive event => some event
  | _ => none

def sent (es : List WaitEvent) : List ReceivedEvent := es.filterMap sentBy

/-- The answers of the SDK in the order of the questions. -/
def answers (es : List WaitEvent) : List (Except String (Option Payment)) :=
  es.filterMap answerBy

/-- What the calls of `recv_timeout` have returned. -/
def received (es : List WaitEvent) : List (Option ReceivedEvent) := es.filterMap receivedBy

/-- The node answers the handler as the SDK does in the run. -/
structure ObservedAs (node : NodeServices) (paymentHash : String) (es : List WaitEvent) :
    Prop where
  answers_eq : node.paymentByHash paymentHash = answers es
  events_eq : node.events = received es

/-- The SDK has recorded the payment. -/
def Recorded (known : Option Payment) (es : List WaitEvent) (payment : Payment) : Prop :=
  known = some payment ∨ .record (some payment) ∈ es

/-- The SDK has announced the payment, and was in sync after that. -/
def AnnouncedThenSynced (paymentHash : String) (payment : Payment)
    (sent : List ReceivedEvent) : Prop :=
  ∃ before details after, sent = before ++ .invoicePaid details :: after
    ∧ details.paymentHash = paymentHash ∧ details.payment = some payment ∧ .synced ∈ after

section

variable {s s' : Waiting} {e : WaitEvent} {es : List WaitEvent} {known : Option Payment}

@[simp] theorem sent_append (es fs : List WaitEvent) : sent (es ++ fs) = sent es ++ sent fs :=
  List.filterMap_append

@[simp] theorem answers_append (es fs : List WaitEvent) :
    answers (es ++ fs) = answers es ++ answers fs := List.filterMap_append

@[simp] theorem received_append (es fs : List WaitEvent) :
    received (es ++ fs) = received es ++ received fs := List.filterMap_append

/-! ## The channel and what the SDK knows -/

/-- What a step adds to the channel or takes from it. -/
theorem channel_step (step : Step paymentHash s e s') :
    s.channel ++ sent [e] = (received [e]).reduceOption ++ s'.channel := by
  cases step with
  | send event running => rfl
  | receive event rest inReceive first =>
      show s.channel ++ [] = [event] ++ rest
      rw [first, List.append_nil]
      rfl
  | _ => exact List.append_nil s.channel

/-- No event is lost or overtaken: what was sent is what was received, and then what is still in
the channel. -/
theorem sent_eq (run : Run (Step paymentHash) (start known) es s) :
    sent es = (received es).reduceOption ++ s.channel := by
  refine Run.invariant (I := fun s es => sent es = (received es).reduceOption ++ s.channel)
    ?_ run rfl
  intro es s e s' hsent step
  calc sent (es ++ [e])
      = (received es).reduceOption ++ (s.channel ++ sent [e]) := by
        rw [sent_append, hsent, List.append_assoc]
    _ = (received es).reduceOption ++ ((received [e]).reduceOption ++ s'.channel) := by
        rw [channel_step step]
    _ = (received (es ++ [e])).reduceOption ++ s'.channel := by
        rw [received_append, List.reduceOption_append, List.append_assoc]

/-- What the SDK knows after a step. -/
theorem known_step (step : Step paymentHash s e s') :
    s'.known = s.known ∨ ∃ payment, e = .record payment ∧ s'.known = payment := by
  cases step with
  | record payment running => exact .inr ⟨payment, rfl, rfl⟩
  | _ => exact .inl rfl

theorem Recorded.append {payment : Payment} (h : Recorded known es payment) (fs : List WaitEvent) :
    Recorded known (es ++ fs) payment :=
  h.imp id fun hmem => List.mem_append_left fs hmem

/-- An answer tells what the SDK has recorded. -/
theorem recorded_of_run (run : Run (Step paymentHash) (start known) es s) :
    (∀ payment, s.known = some payment → Recorded known es payment)
      ∧ ∀ payment, .ok (some payment) ∈ answers es → Recorded known es payment := by
  refine Run.invariant (I := fun s es =>
    (∀ payment, s.known = some payment → Recorded known es payment)
      ∧ ∀ payment, .ok (some payment) ∈ answers es → Recorded known es payment) ?_ run
    ⟨fun payment h => .inl h, fun payment h => absurd h List.not_mem_nil⟩
  rintro es s e s' ⟨hknown, hanswers⟩ step
  refine ⟨fun payment hpayment => ?_, fun payment hmem => ?_⟩
  · rcases known_step step with hsame | ⟨recorded, rfl, hrecorded⟩
    · exact (hknown payment (hsame ▸ hpayment)).append [e]
    · obtain rfl : recorded = some payment := hrecorded.symm.trans hpayment
      exact .inr (List.mem_append_right es List.mem_cons_self)
  · rw [answers_append, List.mem_append] at hmem
    rcases hmem with hmem | hmem
    · exact (hanswers payment hmem).append [e]
    · cases step with
      | answer asking =>
          have hanswer : s.known = some payment := by
            simpa [answers, answerBy, eq_comm] using hmem
          exact (hknown payment hanswer).append _
      | _ => simp [answers, answerBy] at hmem

/-! ## What the handler makes of it -/

open NotificationHandling in
variable (paymentHash) in
/-- What the handler returns from where it is, given the answers and the events to come. -/
def finish : WaitPhase → List (Except String (Option Payment)) → List (Option ReceivedEvent) →
    NotificationHandlingResult Payment
  | .receiving, answers, events => do
      match ← checkForReceivedPayment paymentHash events with
      | (some payment, _) => .ok payment
      | (none, events) => waitForPayment paymentHash answers events
  | .waitingForSynced payment, answers, events => do
      let events ← waitForSyncedEvent events
      match payment with
      | some payment => .ok payment
      | none => waitForPayment paymentHash answers events
  | .returned result, _, _ => result
  | _, answers, events => waitForPayment paymentHash answers events

variable {as : List (Except String (Option Payment))} {rs : List (Option ReceivedEvent)}
  {result : NotificationHandlingResult Payment}

theorem finish_answered (answer : Except String (Option Payment)) :
    finish paymentHash (.answered answer) as rs
      = NotificationHandling.waitForPayment paymentHash (answer :: as) rs := by
  unfold NotificationHandling.waitForPayment WaitPhase.answered
  cases NotificationHandling.getConfirmedPayment answer with
  | error e => rfl
  | ok confirmed =>
      cases confirmed with
      | some payment => rfl
      | none => rfl

theorem finish_received {phase : WaitPhase} (inReceive : phase.InReceive)
    (event : Option ReceivedEvent) :
    finish paymentHash (phase.received paymentHash event) as rs
      = finish paymentHash phase as (event :: rs) := by
  cases phase with
  | receiving =>
      cases event with
      | none => rfl
      | some event =>
          cases event with
          | invoicePaid details =>
              by_cases hhash : details.paymentHash = paymentHash
              · have hphase : WaitPhase.received paymentHash .receiving
                    (some (.invoicePaid details)) = .waitingForSynced details.payment :=
                  if_pos hhash
                rw [hphase]
                simp only [finish, NotificationHandling.checkForReceivedPayment, if_pos hhash]
                cases NotificationHandling.waitForSyncedEvent rs with
                | error e => rfl
                | ok synced =>
                    cases details.payment with
                    | none => rfl
                    | some payment => rfl
              · have hphase : WaitPhase.received paymentHash .receiving
                    (some (.invoicePaid details)) = .checkingTime := if_neg hhash
                rw [hphase]
                simp only [finish, NotificationHandling.checkForReceivedPayment, if_neg hhash]
                rfl
          | synced => rfl
          | other => rfl
  | waitingForSynced payment =>
      cases event with
      | none => cases payment <;> rfl
      | some event =>
          cases event with
          | synced => cases payment <;> rfl
          | invoicePaid details => cases payment <;> rfl
          | other => cases payment <;> rfl
  | _ => exact inReceive.elim

theorem finish_disconnected {phase : WaitPhase} (inReceive : phase.InReceive) :
    finish paymentHash phase as []
      = .error (.permanentFailure "The SDK stopped running unexpectedly") := by
  cases phase with
  | receiving => rfl
  | waitingForSynced payment => rfl
  | _ => exact inReceive.elim

/-- A step of the handler uses up what it sees, and the others are not seen. -/
theorem finish_step (step : Step paymentHash s e s')
    (hlast : ∀ r, s'.phase = .returned r → as = [] ∧ rs = []) :
    finish paymentHash s.phase (answers [e] ++ as) (received [e] ++ rs)
      = finish paymentHash s'.phase as rs := by
  cases step with
  | beginWait starting =>
      rw [starting]
      rfl
  | inTime checking early =>
      rw [checking]
      rfl
  | expired checking late =>
      obtain ⟨rfl, rfl⟩ := hlast _ rfl
      rw [checking]
      rfl
  | answer asking =>
      rw [asking]
      exact (finish_answered _).symm
  | answerError e asking =>
      rw [asking]
      exact (finish_answered _).symm
  | receive event rest inReceive first => exact (finish_received inReceive _).symm
  | receiveTimeout inReceive empty running => exact (finish_received inReceive _).symm
  | disconnect inReceive empty stopped =>
      obtain ⟨rfl, rfl⟩ := hlast _ rfl
      exact finish_disconnected inReceive
  | _ => rfl

/-- A handler that has returned sees nothing more. -/
theorem quiet_of_returned (run : Run (Step paymentHash) s es s')
    (returned : s.phase = .returned result) :
    s'.phase = .returned result ∧ answers es = [] ∧ received es = [] := by
  have hclosed := Run.closed (P := fun s => s.phase = .returned result)
    (Q := fun e => answerBy e = none ∧ receivedBy e = none) ?_ run returned
  · obtain ⟨hphase, hevents⟩ := hclosed
    refine ⟨hphase, ?_, ?_⟩
    · exact List.filterMap_eq_nil_iff.mpr fun e he => (hevents e he).1
    · exact List.filterMap_eq_nil_iff.mpr fun e he => (hevents e he).2
  · intro s e s' hs step
    cases step with
    | timeOut => exact ⟨hs, rfl, rfl⟩
    | record payment running => exact ⟨hs, rfl, rfl⟩
    | send event running => exact ⟨hs, rfl, rfl⟩
    | stopSdk => exact ⟨hs, rfl, rfl⟩
    | beginWait starting => exact nomatch hs.symm.trans starting
    | inTime checking early => exact nomatch hs.symm.trans checking
    | expired checking late => exact nomatch hs.symm.trans checking
    | answer asking => exact nomatch hs.symm.trans asking
    | answerError e asking => exact nomatch hs.symm.trans asking
    | receive event rest inReceive first =>
        rw [hs] at inReceive
        exact inReceive.elim
    | receiveTimeout inReceive empty running =>
        rw [hs] at inReceive
        exact inReceive.elim
    | disconnect inReceive empty stopped =>
        rw [hs] at inReceive
        exact inReceive.elim

/-- **The two parties refine the wait.** In every interleaving the handler returns what
`waitForPayment` makes of the answers and the events it got. -/
theorem run_finish (run : Run (Step paymentHash) s es s')
    (returned : s'.phase = .returned result) :
    finish paymentHash s.phase (answers es) (received es) = result := by
  induction run with
  | nil s =>
      rw [returned]
      rfl
  | @cons s₀ s₁ s₂ e es step run ih =>
      have hrest := ih returned
      have hlast : ∀ r, s₁.phase = .returned r → answers es = [] ∧ received es = [] :=
        fun r hr => (quiet_of_returned run hr).2
      have hstep := finish_step step hlast
      rw [← List.singleton_append, answers_append, received_append, hstep]
      exact hrest

end

/-! ## Announced payments -/

section

open NotificationHandling

variable {as : List (Except String (Option Payment))} {events rest : List (Option ReceivedEvent)}

theorem synced_of_waitForSyncedEvent (h : waitForSyncedEvent events = .ok rest) :
    ∃ skipped, events = skipped ++ some .synced :: rest := by
  induction events with
  | nil => cases h
  | cons event events ih =>
      unfold waitForSyncedEvent at h
      split at h
      · next hnil => cases hnil
      · next hcons =>
        obtain ⟨rfl, rfl⟩ := List.cons.inj hcons
        obtain rfl := Except.ok.inj h
        exact ⟨[], rfl⟩
      · next hcons =>
        obtain ⟨rfl, rfl⟩ := List.cons.inj hcons
        obtain ⟨skipped, hskipped⟩ := ih h
        exact ⟨event :: skipped, by rw [hskipped, List.cons_append]⟩

/-- What a check takes from the channel. A payment comes with an event and with the synced event
after it. -/
theorem taken_of_checkForReceivedPayment {payment : Option Payment}
    (h : checkForReceivedPayment paymentHash events = .ok (payment, rest)) :
    ∃ taken, events = taken ++ rest ∧ ∀ p, payment = some p →
      ∃ details after, taken = some (.invoicePaid details) :: after
        ∧ details.paymentHash = paymentHash ∧ details.payment = some p ∧ some .synced ∈ after := by
  unfold checkForReceivedPayment at h
  split at h
  · cases h
  · next details later =>
    split at h
    · next hhash =>
      obtain ⟨synced, hsynced, h⟩ := bind_eq_ok.mp h
      obtain ⟨rfl, rfl⟩ := Prod.mk.inj (Except.ok.inj h)
      obtain ⟨skipped, rfl⟩ := synced_of_waitForSyncedEvent hsynced
      refine ⟨some (.invoicePaid details) :: (skipped ++ [some .synced]), by simp, fun p hp => ?_⟩
      exact ⟨details, _, rfl, hhash, hp, by simp⟩
    · obtain ⟨rfl, rfl⟩ := Prod.mk.inj (Except.ok.inj h)
      exact ⟨[_], rfl, fun p hp => nomatch hp⟩
  · next event later _ =>
    obtain ⟨rfl, rfl⟩ := Prod.mk.inj (Except.ok.inj h)
    exact ⟨[event], rfl, fun p hp => nomatch hp⟩

/-- A payment that was waited for is complete, or was announced before the SDK was in sync. -/
theorem announced_of_waitForPayment {payment : Payment}
    (h : waitForPayment paymentHash as events = .ok payment) :
    (.ok (some payment) ∈ as ∧ payment.status = .complete)
      ∨ ∃ before details after, events = before ++ some (.invoicePaid details) :: after
        ∧ details.paymentHash = paymentHash ∧ details.payment = some payment
        ∧ some .synced ∈ after := by
  induction as generalizing events with
  | nil => cases h
  | cons answer as ih =>
      rw [waitForPayment] at h
      obtain ⟨confirmed, hconfirmed, h⟩ := bind_eq_ok.mp h
      cases confirmed with
      | some found =>
          obtain rfl := Except.ok.inj h
          obtain ⟨rfl, hstatus⟩ := getConfirmedPayment_ok hconfirmed
          exact .inl ⟨List.mem_cons_self, hstatus⟩
      | none =>
          obtain ⟨⟨found, later⟩, hfound, h⟩ := bind_eq_ok.mp h
          obtain ⟨taken, rfl, htaken⟩ := taken_of_checkForReceivedPayment hfound
          cases found with
          | some found =>
              obtain rfl := Except.ok.inj h
              obtain ⟨details, after, rfl, hhash, hpayment, hsynced⟩ := htaken found rfl
              exact .inr ⟨[], details, after ++ later, rfl, hhash, hpayment,
                List.mem_append_left later hsynced⟩
          | none =>
              rcases ih h with ⟨hanswer, hstatus⟩ | ⟨before, details, after, rfl, hrest⟩
              · exact .inl ⟨List.mem_cons_of_mem answer hanswer, hstatus⟩
              · exact .inr ⟨taken ++ before, details, after, by rw [List.append_assoc], hrest⟩

end

/-! ## Payments that are not missed -/

section

variable {s s' : Waiting} {e : WaitEvent} {es : List WaitEvent} {known : Option Payment}
  {payment : Payment} {result : NotificationHandlingResult Payment}

/-- The SDK could not be asked. -/
def nodeUnavailable : NotificationHandlingResult Payment :=
  .error (.runtimeError .nodeUnavailable "Failed to get payment by hash")

theorem answered_complete (complete : payment.status = .complete) :
    WaitPhase.answered (.ok (some payment)) = .returned (.ok payment) := by
  have hconfirmed : NotificationHandling.getConfirmedPayment (.ok (some payment))
      = .ok (some payment) := by
    show Except.ok ((some payment).filter fun p => decide (p.status = .complete)) = _
    rw [Option.filter_some, if_pos (decide_eq_true complete)]
  unfold WaitPhase.answered
  rw [hconfirmed]

/-- An answer does not end the wait as the timeout does. -/
theorem answered_ne_notReceived {answer : Except String (Option Payment)} {msg : String}
    (h : WaitPhase.answered answer
      = .returned (.error (.runtimeError .expectedPaymentNotReceived msg))) : False := by
  cases answer with
  | error e => cases h
  | ok found =>
      have hconfirmed : NotificationHandling.getConfirmedPayment (.ok found)
          = .ok (found.filter fun p => p.status = .complete) := rfl
      unfold WaitPhase.answered at h
      rw [hconfirmed] at h
      cases hfilter : found.filter fun p => p.status = .complete with
      | none =>
          rw [hfilter] at h
          cases h
      | some p =>
          rw [hfilter] at h
          cases h

/-- Nor does an event. -/
theorem received_ne_error {phase : WaitPhase} (inReceive : phase.InReceive)
    {event : Option ReceivedEvent} {error : Error NotificationHandlingErrorCode}
    (h : phase.received paymentHash event = .returned (.error error)) : False := by
  unfold WaitPhase.received at h
  split at h
  · split at h
    · cases h
    · cases h
  · cases h
  · cases h
  · cases h
  · rw [h] at inReceive
    exact inReceive.elim

/-- The SDK is about to be asked for a payment it knows as complete, or it has answered. -/
def AboutToReport (payment : Payment) (s : Waiting) : Prop :=
  (s.phase = .asking ∧ s.known = some payment) ∨ s.phase = .returned (.ok payment)
    ∨ s.phase = .returned nodeUnavailable

theorem aboutToReport_step (complete : payment.status = .complete) (h : AboutToReport payment s)
    (step : Step paymentHash s e s') (hrecord : ∀ p, e ≠ .record p) :
    AboutToReport payment s' := by
  rcases h with ⟨hasking, hknown⟩ | hreturned
  · cases step with
    | timeOut => exact .inl ⟨hasking, hknown⟩
    | record p running => exact absurd rfl (hrecord p)
    | send event running => exact .inl ⟨hasking, hknown⟩
    | stopSdk => exact .inl ⟨hasking, hknown⟩
    | answer asking =>
        refine .inr (.inl ?_)
        show WaitPhase.answered (.ok s.known) = _
        rw [hknown, answered_complete complete]
    | answerError e asking => exact .inr (.inr rfl)
    | beginWait starting => exact nomatch hasking.symm.trans starting
    | inTime checking early => exact nomatch hasking.symm.trans checking
    | expired checking late => exact nomatch hasking.symm.trans checking
    | receive event rest inReceive first =>
        rw [hasking] at inReceive
        exact inReceive.elim
    | receiveTimeout inReceive empty running =>
        rw [hasking] at inReceive
        exact inReceive.elim
    | disconnect inReceive empty stopped =>
        rw [hasking] at inReceive
        exact inReceive.elim
  · have hrun : Run (Step paymentHash) s [e] s' := .cons step (.nil s')
    exact .inr (hreturned.imp (fun h => (quiet_of_returned hrun h).1)
      fun h => (quiet_of_returned hrun h).1)

/-- A payment that is complete when the handler looks at the clock in time is reported, unless the
SDK cannot be asked. -/
theorem not_missed (run : Run (Step paymentHash) s (.checkTime :: es) s')
    (early : s.timedOut = false) (hknown : s.known = some payment)
    (complete : payment.status = .complete) (hrecord : ∀ p, .record p ∉ es)
    (returned : s'.phase = .returned result) : result = .ok payment ∨ result = nodeUnavailable := by
  cases run with
  | cons step run =>
      cases step with
      | expired checking late => exact nomatch early.symm.trans late
      | inTime checking _ =>
          have habout : AboutToReport payment s' := by
            refine Run.invariant
              (I := fun s es => (∀ p, WaitEvent.record p ∉ es) → AboutToReport payment s)
              ?_ run (fun _ => .inl ⟨rfl, hknown⟩) hrecord
            intro es s e s' hs step hnone
            have hbefore := hs fun p hp => hnone p (List.mem_append_left _ hp)
            refine aboutToReport_step complete hbefore step fun p hp => hnone p ?_
            exact List.mem_append_right _ (List.mem_singleton.mpr hp.symm)
          rcases habout with ⟨hasking, -⟩ | hok | herror
          · exact nomatch hasking.symm.trans returned
          · exact .inl (WaitPhase.returned.inj (returned.symm.trans hok))
          · exact .inr (WaitPhase.returned.inj (returned.symm.trans herror))

/-- The handler has given up waiting. -/
def GivenUp (s : Waiting) : Prop :=
  ∃ msg, s.phase = .returned (.error (.runtimeError .expectedPaymentNotReceived msg))

/-- A payment is given up only after the timeout. -/
theorem timeOut_of_notReceived (run : Run (Step paymentHash) (start known) es s) {msg : String}
    (returned : s.phase = .returned (.error (.runtimeError .expectedPaymentNotReceived msg))) :
    .timeOut ∈ es := by
  have hinvariant := Run.invariant (I := fun s es =>
    (s.timedOut = true → WaitEvent.timeOut ∈ es) ∧ (GivenUp s → WaitEvent.timeOut ∈ es)) ?_ run
    ⟨(fun h => nomatch h), (fun ⟨_, h⟩ => nomatch h)⟩
  · exact hinvariant.2 ⟨msg, returned⟩
  rintro es s e s' ⟨hlate, hgivenUp⟩ step
  have hkeep : WaitEvent.timeOut ∈ es → WaitEvent.timeOut ∈ es ++ [e] :=
    List.mem_append_left [e]
  cases step with
  | timeOut =>
      have hmem : WaitEvent.timeOut ∈ es ++ [.timeOut] :=
        List.mem_append_right es List.mem_cons_self
      exact ⟨fun _ => hmem, fun _ => hmem⟩
  | expired checking late => exact ⟨fun _ => hkeep (hlate late), fun _ => hkeep (hlate late)⟩
  | answer asking =>
      refine ⟨fun h => hkeep (hlate h), fun ⟨msg, h⟩ => ?_⟩
      exact (answered_ne_notReceived h).elim
  | answerError error asking =>
      exact ⟨fun h => hkeep (hlate h), (fun ⟨msg, h⟩ => nomatch h)⟩
  | receive event rest inReceive first =>
      refine ⟨fun h => hkeep (hlate h), fun ⟨msg, h⟩ => ?_⟩
      exact (received_ne_error inReceive h).elim
  | receiveTimeout inReceive empty running =>
      refine ⟨fun h => hkeep (hlate h), fun ⟨msg, h⟩ => ?_⟩
      exact (received_ne_error inReceive h).elim
  | beginWait starting => exact ⟨fun h => hkeep (hlate h), (fun ⟨msg, h⟩ => nomatch h)⟩
  | inTime checking early => exact ⟨fun h => hkeep (hlate h), (fun ⟨msg, h⟩ => nomatch h)⟩
  | disconnect inReceive empty stopped =>
      exact ⟨fun h => hkeep (hlate h), (fun ⟨msg, h⟩ => nomatch h)⟩
  | record p running => exact ⟨fun h => hkeep (hlate h), fun h => hkeep (hgivenUp h)⟩
  | send event running => exact ⟨fun h => hkeep (hlate h), fun h => hkeep (hgivenUp h)⟩
  | stopSdk => exact ⟨fun h => hkeep (hlate h), fun h => hkeep (hgivenUp h)⟩

/-! ## What a notification tells -/

variable {node : NodeServices}

/-- The wait of a handler that is answered as in a run ends as in the run. -/
theorem waitForNodePayment_run (run : Run (Step paymentHash) (start known) es s)
    (returned : s.phase = .returned result) (observed : ObservedAs node paymentHash es) :
    NotificationHandling.waitForNodePayment node paymentHash = result := by
  have hfinish := run_finish run returned
  unfold NotificationHandling.waitForNodePayment
  rw [observed.answers_eq, observed.events_eq]
  exact hfinish

/-- A payment that is reported was complete or announced. -/
theorem reported_of_run (run : Run (Step paymentHash) (start known) es s)
    (returned : s.phase = .returned (.ok payment)) :
    (payment.status = .complete ∧ Recorded known es payment)
      ∨ AnnouncedThenSynced paymentHash payment (sent es) := by
  have hfinish : NotificationHandling.waitForPayment paymentHash (answers es) (received es)
      = .ok payment := run_finish run returned
  rcases announced_of_waitForPayment hfinish with ⟨hanswer, hstatus⟩ |
    ⟨before, details, after, hreceived, hhash, hpayment, hsynced⟩
  · exact .inl ⟨hstatus, (recorded_of_run run).2 payment hanswer⟩
  · refine .inr ⟨before.reduceOption, details, after.reduceOption ++ s.channel, ?_, hhash,
      hpayment, List.mem_append_left _ (List.reduceOption_mem_iff.mpr hsynced)⟩
    rw [sent_eq run, hreceived, List.reduceOption_append, List.reduceOption_cons_of_some,
      List.append_assoc, List.cons_append]

/-- **What a notification tells.** In every interleaving of the SDK, the clock and the handler, the
handlers of received payments and of swaps report the payment the wait ends with. It was recorded
as complete, or it was announced and the SDK in sync after that. A payment that the SDK knows as
complete when the handler looks at the clock in time, and of which nothing else becomes, is
reported unless the SDK cannot be asked. A payment is given up only after the timeout. -/
theorem notification_truthful (run : Run (Step paymentHash) (start known) es s)
    (returned : s.phase = .returned result) (observed : ObservedAs node paymentHash es) :
    (NotificationHandling.handlePaymentReceivedNotification node paymentHash).result
        = result.map (fun p => .bolt11PaymentReceived (p.amountMsat / 1000) paymentHash)
      ∧ (∀ swap address, swap.bitcoinAddress = address → node.redeemSwap address = .ok () →
          hexEncode swap.paymentHash = paymentHash →
          (NotificationHandling.handleSwapNotification node address swap).result
            = result.map (fun p => .onchainPaymentSwappedIn (p.amountMsat / 1000) paymentHash))
      ∧ (∀ p, result = .ok p →
          (p.status = .complete ∧ Recorded known es p)
            ∨ AnnouncedThenSynced paymentHash p (sent es))
      ∧ (∀ before after s₁ p, Run (Step paymentHash) (start known) before s₁ →
          Run (Step paymentHash) s₁ (.checkTime :: after) s → s₁.timedOut = false →
          s₁.known = some p → p.status = .complete → (∀ p', .record p' ∉ after) →
          result = .ok p ∨ result = nodeUnavailable)
      ∧ (∀ msg, result = .error (.runtimeError .expectedPaymentNotReceived msg) →
          .timeOut ∈ es) := by
  have hwait := waitForNodePayment_run run returned observed
  refine ⟨?_, ?_, ?_, ?_, ?_⟩
  · unfold NotificationHandling.handlePaymentReceivedNotification
    rw [hwait]
    cases result with
    | ok p => rfl
    | error e => rfl
  · intro swap address haddress hredeemed hhash
    unfold NotificationHandling.handleSwapNotification
    simp only [ensure, if_pos haddress, hredeemed, hhash, hwait]
    cases result with
    | ok p => rfl
    | error e => rfl
  · intro p hp
    rw [hp] at returned
    exact reported_of_run run returned
  · intro before after s₁ p _ hafter hearly hknown hcomplete hrecord
    exact not_missed hafter hearly hknown hcomplete hrecord returned
  · intro msg hmsg
    rw [hmsg] at returned
    exact timeOut_of_notReceived run returned

/-- A payment that the SDK announces with the hash `f0`. -/
def announced : Payment := ⟨.received, 1700000060, 5000000, 0, .complete,
  .ln ⟨"f0", "", "lnbc50u", none, none, none, none, none, none⟩⟩

def announcedDetails : InvoicePaidDetails := ⟨"f0", "lnbc50u", some announced⟩

/-- The payment is announced after the SDK did not know it. -/
def announcedRun : List WaitEvent :=
  [.beginWait, .checkTime, .answer (.ok none), .send (.invoicePaid announcedDetails),
    .receive (some (.invoicePaid announcedDetails)), .send .synced, .receive (some .synced)]

theorem announcedRun_run : Run (Step "f0") (start none) announcedRun
    ⟨.returned (.ok announced), none, [], true, false⟩ :=
  .cons (.beginWait _ rfl) <| .cons (.inTime _ rfl rfl) <| .cons (.answer _ rfl) <|
    .cons (.send _ (.invoicePaid announcedDetails) rfl) <|
    .cons (.receive _ (.invoicePaid announcedDetails) [] trivial rfl) <|
    .cons (.send _ .synced rfl) <| .cons (.receive _ .synced [] trivial rfl) (.nil _)

/-- The node of that run, with a swap in progress. -/
def announcingNode : NodeServices where
  inProgressSwap := .ok (some ⟨⟨"bc1qswap", 1700000000, 0, 0, 0⟩, [0xf0]⟩)
  redeemSwap := fun _ => .ok ()
  claimReverseSwap := fun _ => .ok ()
  paymentByHash := fun _ => answers announcedRun
  events := received announcedRun

theorem notification_truthful_announced :
    (NotificationHandling.handlePaymentReceivedNotification announcingNode "f0").result
      = .ok (.bolt11PaymentReceived 5000 "f0") :=
  (notification_truthful announcedRun_run rfl ⟨rfl, rfl⟩).1

end

end Waiting

end LipaLightning
