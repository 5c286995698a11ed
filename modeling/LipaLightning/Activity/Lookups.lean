import LipaLightning.Activity.Agreement
import LipaLightning.UncompletedOffers

set_option autoImplicit false

/-! # Looking up payments

`get_incoming_payment`, `get_outgoing_payment` and `get_by_reverse_swap` (`activities.rs`). The
first two are views of `get`, of which each payment has exactly one; the third looks for a reverse
swap among the latest payments that were sent, and what it finds is what `get` returns for the hash.
-/

namespace LipaLightning

/-! ## The lookups -/

namespace Activities

def leewayForReverseSwaps : UInt32 := 30

def reverseSwapRequest : ListPaymentsRequest where
  filters := some [.sent]
  includeFailures := some false
  limit := some leewayForReverseSwaps

def isSwapWithId (reverseSwapId : String) (p : Payment) : Bool :=
  match p.details with
  | .ln data => data.reverseSwapInfo.any fun swapInfo => swapInfo.id == reverseSwapId
  | .closedChannel _ => false

/-- Get a reverse swap activity by reverse swap id. -/
def getByReverseSwap (self : Activities) (sdk : PaymentsSdk) (reverseSwapId : String) :
    Result (Option Activity) := do
  let payments ← mapToRuntimeError (sdk.listPayments reverseSwapRequest) .nodeUnavailable
    "Failed to list payments"
  match payments.find? (isSwapWithId reverseSwapId) with
  | none => .ok none
  | some p => (self.activityFromBreezPayment p).map some

/-- Get an incoming payment by its payment hash. -/
def getIncomingPayment (self : Activities) (sdk : PaymentsSdk) (now : SystemTime)
    (hash : String) : Result IncomingPaymentInfo := do
  match ← self.get sdk now hash with
  | .incomingPayment info => .ok info
  | .offerClaim info _ => .ok info
  | .swap (some info) _ => .ok info
  | .swap none _ => .error (.invalidInput "Swap activity without incoming payment info")
  | .reverseSwap _ _ | .outgoingPayment _ | .channelClose _ =>
      .error (.invalidInput "Activity not incoming payment")

/-- Get an outgoing payment by its payment hash. -/
def getOutgoingPayment (self : Activities) (sdk : PaymentsSdk) (now : SystemTime)
    (hash : String) : Result OutgoingPaymentInfo := do
  match ← self.get sdk now hash with
  | .outgoingPayment info => .ok info
  | .reverseSwap info _ => .ok info
  -- the text is that of `get_incoming_payment` in the source
  | .offerClaim _ _ | .incomingPayment _ | .channelClose _ | .swap _ _ =>
      .error (.invalidInput "Activity not incoming payment")

end Activities

/-! ## The types of payments -/

/-- What the SDK documents about its payments: a swap is received, a reverse swap is sent, and a
closed channel is no lightning payment. -/
structure PaymentHistory.Consistent (history : PaymentHistory) : Prop where
  lightning : ∀ p ∈ history.payments, ∀ data, p.details = .ln data → p.paymentType ≠ .closedChannel
  swaps : ∀ p ∈ history.payments, ∀ data, p.details = .ln data →
    data.swapInfo.isSome → p.paymentType = .received
  reverseSwaps : ∀ p ∈ history.payments, ∀ data, p.details = .ln data →
    data.reverseSwapInfo.isSome → p.paymentType = .sent

/-- The SDK that answers from the history, respecting the filters of a request. -/
def PaymentHistory.answering (self : PaymentHistory)
    (inProgressSwap : Except String (Option SdkSwapInfo)) : PaymentsSdk where
  listPayments := fun request => .ok (self.answer request)
  paymentByHash := fun hash => .ok (self.payments.find? fun p => p.hash = some hash)
  inProgressSwap := inProgressSwap

/-- The type of payment an activity is shown as. -/
def Activity.paymentType : Activity → PaymentType
  | .incomingPayment _ | .offerClaim _ _ | .swap _ _ => .received
  | .outgoingPayment _ | .reverseSwap _ _ => .sent
  | .channelClose _ => .closedChannel

/-- Offers are stored for no payment that is sent. -/
def Activities.OffersReceived (self : Activities) (history : PaymentHistory) : Prop :=
  ∀ p ∈ history.payments, p.paymentType = .sent → ∀ hash, p.hash = some hash →
    recordedOffer hash self.support = none

namespace Activities

section

variable {self : Activities} {history : PaymentHistory}
  {swap : Except String (Option SdkSwapInfo)} {now : SystemTime} {hash : String}

/-- A lightning payment is shown as the type of payment it is. -/
theorem paymentType_of_ln (hconsistent : history.Consistent) (hoffers : self.OffersReceived history)
    {p : Payment} (hp : p ∈ history.payments) (hhash : p.hash = some hash) {a : Activity}
    (ha : self.activityFromBreezPayment p = .ok a) : a.paymentType = p.paymentType := by
  unfold activityFromBreezPayment at ha
  unfold Payment.hash at hhash
  cases hdetails : p.details with
  | closedChannel data =>
      rw [hdetails] at hhash
      cases hhash
  | ln data =>
      have hnotClosed := hconsistent.lightning p hp data hdetails
      have hswap := hconsistent.swaps p hp data hdetails
      have hreverse := hconsistent.reverseSwaps p hp data hdetails
      simp only [hdetails, activityFromBreezLnPayment] at ha
      split at ha
      · -- an offer is stored, so the payment is not sent
        rename_i offer hoffer
        obtain ⟨info, -, ha⟩ := bind_eq_ok.mp ha
        cases ha
        show PaymentType.received = p.paymentType
        cases htype : p.paymentType with
        | received => rfl
        | closedChannel => exact absurd htype hnotClosed
        | sent =>
            have hnone := hoffers p hp htype data.paymentHash (by rw [Payment.hash, hdetails])
            rw [recordedOffer] at hnone
            rw [hnone] at hoffer
            cases hoffer
      · rename_i s _ hs
        obtain ⟨info, -, ha⟩ := bind_eq_ok.mp ha
        cases ha
        exact (hswap (by rw [hs]; rfl)).symm
      · rename_i s _ _ hs
        obtain ⟨info, -, ha⟩ := bind_eq_ok.mp ha
        cases ha
        exact (hreverse (by rw [hs]; rfl)).symm
      · split at ha
        · rename_i htype
          obtain ⟨info, -, ha⟩ := bind_eq_ok.mp ha
          cases ha
          exact htype.symm
        · rename_i htype
          obtain ⟨info, -, ha⟩ := bind_eq_ok.mp ha
          cases ha
          exact htype.symm
        · cases ha

/-- What `get` returns is a lightning payment, or an invoice that is received. -/
theorem paymentType_of_get (hconsistent : history.Consistent)
    (hoffers : self.OffersReceived history) {a : Activity}
    (hget : self.get (history.answering swap) now hash = .ok a) :
    a.paymentType = .received ∧ (∀ p ∈ history.payments, p.hash = some hash →
        p.paymentType = .received) ∨
      a.paymentType = .sent ∧ ∃ p ∈ history.payments, p.hash = some hash ∧
        p.paymentType = .sent := by
  unfold get PaymentHistory.answering at hget
  dsimp only at hget
  cases hfind : history.payments.find? fun p => p.hash = some hash with
  | none =>
      rw [hfind] at hget
      have habsent := List.find?_eq_none.mp hfind
      left
      constructor
      · cases hinvoice : self.support.dataStore.retrieveCreatedInvoiceByHash hash with
        | none =>
            simp only [hinvoice] at hget
            cases hget
        | some invoice =>
            simp only [hinvoice] at hget
            cases hinfo : self.paymentFromCreatedInvoice now invoice with
            | error e =>
                rw [hinfo] at hget
                cases hget
            | ok info =>
                rw [hinfo] at hget
                cases hget
                rfl
      · intro p hp hhash
        exact absurd (by simpa using hhash) (habsent p hp)
  | some p =>
      rw [hfind] at hget
      have hp : p ∈ history.payments := List.mem_of_find?_eq_some hfind
      have hhash : p.hash = some hash := by simpa using List.find?_some hfind
      have htype := paymentType_of_ln hconsistent hoffers hp hhash hget
      -- the hash is that of this payment alone
      have hunique : ∀ q ∈ history.payments, q.hash = some hash → q = p := by
        intro q hq hqhash
        have hfindq := PaymentHistory.find_hash history.uniqueHashes hq hqhash
        exact Option.some.inj (hfindq.symm.trans hfind)
      cases hpt : p.paymentType with
      | received =>
          left
          refine ⟨htype.trans hpt, fun q hq hqhash => ?_⟩
          rw [hunique q hq hqhash, hpt]
      | sent => exact .inr ⟨htype.trans hpt, p, hp, hhash, hpt⟩
      | closedChannel =>
          unfold Payment.hash at hhash
          cases hdetails : p.details with
          | ln data => exact absurd hpt (hconsistent.lightning p hp data hdetails)
          | closedChannel data =>
              rw [hdetails] at hhash
              cases hhash

/-! ## The views of get -/

/-- The error of both lookups for a payment of the other type. -/
def notOfType : Error RuntimeErrorCode := .invalidInput "Activity not incoming payment"

theorem views_of_received {sdk : PaymentsSdk} {a : Activity}
    (hget : self.get sdk now hash = .ok a) (htype : a.paymentType = .received)
    (hinfo : a.getPaymentInfo.isSome) :
    (∃ info, self.getIncomingPayment sdk now hash = .ok info ∧
      a.getPaymentInfo = some info.paymentInfo) ∧
    self.getOutgoingPayment sdk now hash = .error notOfType := by
  unfold getIncomingPayment getOutgoingPayment
  rw [hget]
  cases a with
  | incomingPayment info => exact ⟨⟨info, rfl, rfl⟩, rfl⟩
  | offerClaim info offer => exact ⟨⟨info, rfl, rfl⟩, rfl⟩
  | swap info swapInfo =>
      cases info with
      | none => cases hinfo
      | some info => exact ⟨⟨info, rfl, rfl⟩, rfl⟩
  | outgoingPayment info => cases htype
  | reverseSwap info reverseSwapInfo => cases htype
  | channelClose info => cases htype

theorem views_of_sent {sdk : PaymentsSdk} {a : Activity} (hget : self.get sdk now hash = .ok a)
    (htype : a.paymentType = .sent) :
    (∃ info, self.getOutgoingPayment sdk now hash = .ok info ∧
      a.getPaymentInfo = some info.paymentInfo) ∧
    self.getIncomingPayment sdk now hash = .error notOfType := by
  unfold getIncomingPayment getOutgoingPayment
  rw [hget]
  cases a with
  | outgoingPayment info => exact ⟨⟨info, rfl, rfl⟩, rfl⟩
  | reverseSwap info reverseSwapInfo => exact ⟨⟨info, rfl, rfl⟩, rfl⟩
  | incomingPayment info => cases htype
  | offerClaim info offer => cases htype
  | swap info swapInfo => cases htype
  | channelClose info => cases htype

/-- What `get` returns is no swap in progress. -/
theorem isSome_of_get {sdk : PaymentsSdk} {a : Activity}
    (hget : self.get sdk now hash = .ok a) (hnotClose : a.paymentType ≠ .closedChannel) :
    a.getPaymentInfo.isSome := by
  unfold get at hget
  split at hget
  · cases hget
  · cases presentedAs hget with
    | incomingPayment hinfo => rfl
    | offerClaim offer hinfo => rfl
    | swap swapInfo hinfo => rfl
    | outgoingPayment hinfo => rfl
    | reverseSwap reverseSwapInfo hinfo => rfl
    | channelClose hhash info => exact absurd rfl hnotClose
  · split at hget
    · rename_i invoice _
      cases hinfo : self.paymentFromCreatedInvoice now invoice with
      | error e =>
          rw [hinfo] at hget
          cases hget
      | ok info =>
          rw [hinfo] at hget
          cases hget
          rfl
    · cases hget

/-! ## Reverse swaps -/

theorem mem_of_answer {request : ListPaymentsRequest} {p : Payment}
    (hp : p ∈ history.answer request) : p ∈ history.payments := by
  unfold PaymentHistory.answer at hp
  dsimp only at hp
  split at hp
  · exact List.mem_of_mem_filter (List.mem_of_mem_take hp)
  · exact List.mem_of_mem_filter hp

theorem getByReverseSwap_eq {sdk : PaymentsSdk} {payments : List Payment}
    (hlisted : sdk.listPayments reverseSwapRequest = .ok payments) (reverseSwapId : String) :
    self.getByReverseSwap sdk reverseSwapId
      = match payments.find? (isSwapWithId reverseSwapId) with
        | none => .ok none
        | some p => (self.activityFromBreezPayment p).map some := by
  unfold getByReverseSwap
  rw [hlisted]
  rfl

/-- A payment of a reverse swap has a hash, and is shown as a reverse swap. -/
theorem shown_of_isSwapWithId (hconsistent : history.Consistent)
    (hoffers : self.OffersReceived history) {p : Payment} (hp : p ∈ history.payments)
    {reverseSwapId : String} (hid : isSwapWithId reverseSwapId p = true) :
    ∃ hash, p.hash = some hash ∧ ∀ a, self.activityFromBreezPayment p = .ok a →
      ∃ info reverseSwapInfo, a = .reverseSwap info reverseSwapInfo := by
  unfold isSwapWithId at hid
  cases hdetails : p.details with
  | closedChannel data =>
      rw [hdetails] at hid
      cases hid
  | ln data =>
      simp only [hdetails] at hid
      obtain ⟨s, hs, -⟩ := (Option.any_eq_true _ _).mp hid
      have hhash : p.hash = some data.paymentHash := by rw [Payment.hash, hdetails]
      have hsent : p.paymentType = .sent :=
        hconsistent.reverseSwaps p hp data hdetails (by rw [hs]; rfl)
      refine ⟨data.paymentHash, hhash, fun a ha => ?_⟩
      have htype := paymentType_of_ln hconsistent hoffers hp hhash ha
      rw [hsent] at htype
      unfold activityFromBreezPayment at ha
      simp only [hdetails, activityFromBreezLnPayment] at ha
      split at ha
      · obtain ⟨info, -, ha⟩ := bind_eq_ok.mp ha
        cases ha
        cases htype
      · obtain ⟨info, -, ha⟩ := bind_eq_ok.mp ha
        cases ha
        cases htype
      · obtain ⟨info, -, ha⟩ := bind_eq_ok.mp ha
        cases ha
        exact ⟨_, _, rfl⟩
      · rename_i hnone
        rw [hs] at hnone
        cases hnone

/-- Each hash `get` knows is looked up by one of the two lookups: by the outgoing one if the SDK
knows it as a payment that was sent, else by the incoming one, and the other says that it is not of
its type. Where `get` fails, both fail with its error. What is found for a reverse swap is what the
other lookups return for its hash. -/
theorem lookups_agree (hconsistent : history.Consistent) (hoffers : self.OffersReceived history) :
    (∀ hash e, self.get (history.answering swap) now hash = .error e →
      self.getIncomingPayment (history.answering swap) now hash = .error e ∧
      self.getOutgoingPayment (history.answering swap) now hash = .error e) ∧
    (∀ hash a, self.get (history.answering swap) now hash = .ok a →
      if ∃ p ∈ history.payments, p.hash = some hash ∧ p.paymentType = .sent then
        (∃ info, self.getOutgoingPayment (history.answering swap) now hash = .ok info ∧
          a.getPaymentInfo = some info.paymentInfo) ∧
        self.getIncomingPayment (history.answering swap) now hash = .error notOfType
      else
        (∃ info, self.getIncomingPayment (history.answering swap) now hash = .ok info ∧
          a.getPaymentInfo = some info.paymentInfo) ∧
        self.getOutgoingPayment (history.answering swap) now hash = .error notOfType) ∧
    ∀ reverseSwapId,
      match (history.answer reverseSwapRequest).find? (isSwapWithId reverseSwapId) with
      | none => self.getByReverseSwap (history.answering swap) reverseSwapId = .ok none
      | some p => ∃ hash, p.hash = some hash ∧
          self.getByReverseSwap (history.answering swap) reverseSwapId
            = (self.get (history.answering swap) now hash).map some ∧
          ∀ a, self.getByReverseSwap (history.answering swap) reverseSwapId = .ok (some a) →
            ∃ info reverseSwapInfo, a = .reverseSwap info reverseSwapInfo ∧
              self.getOutgoingPayment (history.answering swap) now hash = .ok info := by
  refine ⟨fun hash e hget => ?_, fun hash a hget => ?_, fun reverseSwapId => ?_⟩
  · unfold getIncomingPayment getOutgoingPayment
    rw [hget]
    exact ⟨rfl, rfl⟩
  · rcases paymentType_of_get hconsistent hoffers hget with ⟨htype, hreceived⟩ | ⟨htype, hsent⟩
    · have hinfo := isSome_of_get hget (by rw [htype]; decide)
      rw [if_neg]
      · exact views_of_received hget htype hinfo
      · rintro ⟨p, hp, hhash, hsent⟩
        rw [hreceived p hp hhash] at hsent
        cases hsent
    · rw [if_pos hsent]
      exact views_of_sent hget htype
  · rw [getByReverseSwap_eq rfl]
    cases hfind : (history.answer reverseSwapRequest).find? (isSwapWithId reverseSwapId) with
    | none => rfl
    | some p =>
        have hp : p ∈ history.payments := mem_of_answer (List.mem_of_find?_eq_some hfind)
        have hid : isSwapWithId reverseSwapId p = true := List.find?_some hfind
        obtain ⟨hash, hhash, hshown⟩ := shown_of_isSwapWithId hconsistent hoffers hp hid
        have hget : self.get (history.answering swap) now hash
            = self.activityFromBreezPayment p := by
          have hbyHash := PaymentHistory.find_hash history.uniqueHashes hp hhash
          simp only [get, PaymentHistory.answering, hbyHash]
        refine ⟨hash, hhash, by rw [hget], fun a ha => ?_⟩
        dsimp only at ha
        cases hactivity : self.activityFromBreezPayment p with
        | error e =>
            rw [hactivity] at ha
            cases ha
        | ok b =>
            rw [hactivity] at ha
            cases ha
            obtain ⟨info, reverseSwapInfo, rfl⟩ := hshown a hactivity
            refine ⟨info, reverseSwapInfo, rfl, ?_⟩
            unfold getOutgoingPayment
            rw [hget, hactivity]
            rfl

end

/-- A payment into a reverse swap that is in progress. -/
def reverseSwapPayment : Payment where
  paymentType := .sent
  paymentTime := 1700000000
  amountMsat := 60000000
  feeMsat := 20000
  status := .complete
  details := .ln ⟨"f0", "ab", "lnbc1", none, none, none, none, none,
    some ⟨"swap-1", none, 59000, .inProgress⟩⟩

def reverseSwapHistory : PaymentHistory :=
  ⟨[reverseSwapPayment], List.pairwise_singleton _ _, by decide⟩

def reverseSwapActivities : Activities where
  support := ⟨⟨"CHF", ⟨"Europe/Zurich", 60⟩⟩, ⟨[], none, none⟩, .new .migrated none⟩
  parsers := ⟨fun _ => .ok ⟨"lnbc1", "02aa", "f0", none, some 60000000, 1700000000, 3600⟩,
    fun _ => .ok []⟩
  lipaLightningDomain := "lipa.swiss"

theorem lookups_agree_reverseSwap :
    ∃ info, reverseSwapActivities.getOutgoingPayment
        (reverseSwapHistory.answering (.ok none)) 1700000060000000000 "f0" = .ok info ∧
      reverseSwapActivities.getIncomingPayment
        (reverseSwapHistory.answering (.ok none)) 1700000060000000000 "f0"
          = .error notOfType := by
  have hconsistent : reverseSwapHistory.Consistent := by
    refine ⟨?_, ?_, ?_⟩
    all_goals
      intro p hp data hdetails
      obtain rfl := List.mem_singleton.mp hp
      cases hdetails
      decide
  have hoffers : reverseSwapActivities.OffersReceived reverseSwapHistory := fun _ _ _ _ _ => rfl
  obtain ⟨a, hget⟩ : ∃ a, reverseSwapActivities.get (reverseSwapHistory.answering (.ok none))
      1700000060000000000 "f0" = .ok a := ⟨_, rfl⟩
  have hviews := (lookups_agree hconsistent hoffers).2.1 "f0" a hget
  rw [if_pos ⟨reverseSwapPayment, List.mem_singleton.mpr rfl, rfl, rfl⟩] at hviews
  obtain ⟨⟨info, houtgoing, -⟩, hincoming⟩ := hviews
  exact ⟨info, houtgoing, hincoming⟩

end Activities

end LipaLightning
