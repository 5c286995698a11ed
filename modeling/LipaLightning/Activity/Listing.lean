import LipaLightning.Activity.Activities

set_option autoImplicit false

/-! # What is listed

A listing over a history of payments: which activities are merged, and which of them are shown.
An activity is shown if few enough others precede it.
-/

namespace LipaLightning

/-! ## The history of the SDK -/

/-- The payments the SDK knows, the latest first. -/
structure PaymentHistory where
  payments : List Payment
  latestFirst : payments.Pairwise fun p q => q.paymentTime ≤ p.paymentTime
  uniqueHashes : (payments.filterMap Payment.hash).Nodup

namespace PaymentHistory

/-- The latest payments of the history, as many as a request asks for. -/
def window (self : PaymentHistory) (request : ListPaymentsRequest) : List Payment :=
  match request.limit with
  | some limit => self.payments.take limit.toNat
  | none => self.payments

/-- The SDK that answers from the history. All types of payments are asked for here. -/
def sdk (self : PaymentHistory) (inProgressSwap : Except String (Option SdkSwapInfo)) :
    PaymentsSdk where
  listPayments := fun request => .ok (self.window request)
  paymentByHash := fun hash => .ok (self.payments.find? fun p => p.hash = some hash)
  inProgressSwap := inProgressSwap

/-- A payment is found under its hash. -/
theorem find_hash {payments : List Payment} (hnodup : (payments.filterMap Payment.hash).Nodup)
    {p : Payment} {hash : String} (hp : p ∈ payments) (hhash : p.hash = some hash) :
    payments.find? (fun p => p.hash = some hash) = some p := by
  induction payments with
  | nil => cases hp
  | cons q payments ih =>
      -- another payment with the hash would be a duplicate
      by_cases hq : q.hash = some hash
      · rw [List.filterMap_cons_some hq] at hnodup
        rw [List.find?_cons_of_pos (by simpa using hq)]
        rcases List.mem_cons.mp hp with rfl | hp
        · rfl
        · exact absurd (List.mem_filterMap.mpr ⟨p, hp, hhash⟩) (List.nodup_cons.mp hnodup).1
      · rw [List.find?_cons_of_neg (by simpa using hq)]
        refine ih ?_ ((List.mem_cons.mp hp).resolve_left (by rintro rfl; exact hq hhash))
        cases hqh : q.hash with
        | none => rwa [List.filterMap_cons_none hqh] at hnodup
        | some h =>
            rw [List.filterMap_cons_some hqh] at hnodup
            exact (List.nodup_cons.mp hnodup).2

/-- Thirty payments that were sent one after the other, the last one at the given time. -/
def thirtySent (time : Int64) : List Payment :=
  (List.range 30).map fun i =>
    { paymentType := .sent
      paymentTime := time - Int64.ofNat i
      amountMsat := 21000
      feeMsat := 0
      status := .complete
      details := .ln
        { paymentHash := String.ofList (List.replicate (i + 1) 'a')
          paymentPreimage := "cd"
          bolt11 := "lnbc2"
          lnurlPayDomain := none
          lnurlPayComment := none
          lnurlMetadata := none
          lnAddress := none
          swapInfo := none
          reverseSwapInfo := none } }

end PaymentHistory

namespace Activities

/-! ## The hash of an activity -/

theorem hash_paymentInfo {parsers : Parsers} {p : Payment} {rate : Option ExchangeRate}
    {tzConfig : TzConfig} {note : Option String} {info : PaymentInfo}
    (h : PaymentInfo.new parsers p rate tzConfig note = .ok info) : some info.hash = p.hash := by
  unfold PaymentInfo.new at h
  unfold Payment.hash
  split at h
  · cases h
  · rename_i data hdata
    split at h
    · cases h
    · obtain ⟨time, -, h⟩ := bind_eq_ok.mp h
      obtain ⟨amount, -, h⟩ := bind_eq_ok.mp h
      cases h
      rw [hdata]

theorem hash_incoming {parsers : Parsers} {p : Payment} {rate : Option ExchangeRate}
    {tzConfig : TzConfig} {note receivedOn comment : Option String} {domain : String}
    {info : IncomingPaymentInfo}
    (h : IncomingPaymentInfo.new parsers p rate tzConfig note receivedOn comment domain
      = .ok info) : some info.paymentInfo.hash = p.hash := by
  obtain ⟨paymentInfo, hinfo, h⟩ := bind_eq_ok.mp h
  cases h
  exact hash_paymentInfo hinfo

theorem hash_outgoing {parsers : Parsers} {p : Payment} {rate : Option ExchangeRate}
    {tzConfig : TzConfig} {note : Option String} {domain : String} {info : OutgoingPaymentInfo}
    (h : OutgoingPaymentInfo.new parsers p rate tzConfig note domain = .ok info) :
    some info.paymentInfo.hash = p.hash := by
  unfold OutgoingPaymentInfo.new at h
  split at h
  · cases h
  · obtain ⟨paymentInfo, hinfo, h⟩ := bind_eq_ok.mp h
    cases h
    exact hash_paymentInfo hinfo

/-- What the activity of a payment of the SDK can be. -/
inductive PresentedAs (self : Activities) (p : Payment) : Activity → Prop where
  | incomingPayment {rate : Option ExchangeRate} {tzConfig : TzConfig}
      {note receivedOn comment : Option String} {info : IncomingPaymentInfo}
      (hinfo : IncomingPaymentInfo.new self.parsers p rate tzConfig note receivedOn comment
        self.lipaLightningDomain = .ok info) : PresentedAs self p (.incomingPayment info)
  | offerClaim {rate : Option ExchangeRate} {tzConfig : TzConfig}
      {note receivedOn comment : Option String} {info : IncomingPaymentInfo} (offer : Offer)
      (hinfo : IncomingPaymentInfo.new self.parsers p rate tzConfig note receivedOn comment
        self.lipaLightningDomain = .ok info) : PresentedAs self p (.offerClaim info offer)
  | swap {rate : Option ExchangeRate} {tzConfig : TzConfig}
      {note receivedOn comment : Option String} {info : IncomingPaymentInfo} (swapInfo : SwapInfo)
      (hinfo : IncomingPaymentInfo.new self.parsers p rate tzConfig note receivedOn comment
        self.lipaLightningDomain = .ok info) : PresentedAs self p (.swap (some info) swapInfo)
  | outgoingPayment {rate : Option ExchangeRate} {tzConfig : TzConfig} {note : Option String}
      {info : OutgoingPaymentInfo}
      (hinfo : OutgoingPaymentInfo.new self.parsers p rate tzConfig note self.lipaLightningDomain
        = .ok info) : PresentedAs self p (.outgoingPayment info)
  | reverseSwap {rate : Option ExchangeRate} {tzConfig : TzConfig} {note : Option String}
      {info : OutgoingPaymentInfo} (reverseSwapInfo : ReverseSwapInfo)
      (hinfo : OutgoingPaymentInfo.new self.parsers p rate tzConfig note self.lipaLightningDomain
        = .ok info) : PresentedAs self p (.reverseSwap info reverseSwapInfo)
  | channelClose (hhash : p.hash = none) (info : ChannelCloseInfo) :
      PresentedAs self p (.channelClose info)

theorem presentedAs {self : Activities} {p : Payment} {a : Activity}
    (h : self.activityFromBreezPayment p = .ok a) : PresentedAs self p a := by
  unfold activityFromBreezPayment at h
  cases hdetails : p.details with
  | closedChannel data =>
      have hhash : p.hash = none := by rw [Payment.hash, hdetails]
      simp only [hdetails, activityFromBreezClosedChannelPayment] at h
      cases hstatus : p.status with
      | pending =>
          simp only [hstatus] at h
          cases h
          exact .channelClose hhash _
      | complete =>
          simp only [hstatus] at h
          cases h
          exact .channelClose hhash _
      | failed =>
          simp only [hstatus] at h
          cases h
  | ln data =>
      simp only [hdetails, activityFromBreezLnPayment] at h
      split at h
      · obtain ⟨info, hinfo, h⟩ := bind_eq_ok.mp h
        cases h
        exact .offerClaim _ hinfo
      · obtain ⟨info, hinfo, h⟩ := bind_eq_ok.mp h
        cases h
        exact .swap _ hinfo
      · obtain ⟨info, hinfo, h⟩ := bind_eq_ok.mp h
        cases h
        exact .reverseSwap _ hinfo
      · -- neither an offer nor a swap was found: the type of the payment decides
        split at h
        · obtain ⟨info, hinfo, h⟩ := bind_eq_ok.mp h
          cases h
          exact .incomingPayment hinfo
        · obtain ⟨info, hinfo, h⟩ := bind_eq_ok.mp h
          cases h
          exact .outgoingPayment hinfo
        · cases h

/-- The activity of a payment carries the hash of the payment. -/
theorem hash_activityFromBreezPayment {self : Activities} {p : Payment} {a : Activity}
    (h : self.activityFromBreezPayment p = .ok a) : a.hash = p.hash := by
  cases presentedAs h with
  | incomingPayment hinfo => exact hash_incoming hinfo
  | offerClaim offer hinfo => exact hash_incoming hinfo
  | swap swapInfo hinfo => exact hash_incoming hinfo
  | outgoingPayment hinfo => exact hash_outgoing hinfo
  | reverseSwap reverseSwapInfo hinfo => exact hash_outgoing hinfo
  | channelClose hhash info => exact hhash.symm

/-- What is shown of a created invoice has the hash of the parsed invoice. -/
theorem hash_paymentFromCreatedInvoice {self : Activities} {now : SystemTime}
    {i : CreatedInvoice} {info : IncomingPaymentInfo}
    (h : self.paymentFromCreatedInvoice now i = .ok info) :
    ∃ invoice, self.parsers.parseInvoice i.invoice = .ok invoice ∧
      info.paymentInfo.hash = invoice.paymentHash := by
  unfold paymentFromCreatedInvoice at h
  split at h
  · cases h
  · rename_i invoice hparse
    refine ⟨invoice, hparse, ?_⟩
    split at h
    · cases h
    · unfold paymentFromInvoice at h
      dsimp only at h
      split at h
      · cases h
      · cases h
        rfl

/-! ## The merged activities -/

/-- The activities of the payments of the SDK. -/
def breezActivities (self : Activities) (payments : List Payment) : List Activity :=
  payments.filterMap fun p => filterOutCorrupted (self.activityFromBreezPayment p)

/-- What `list` merges: the retrieved invoices and the payments in the window of the request. -/
def merged (self : Activities) (history : PaymentHistory) (now : SystemTime)
    (createdInvoices : List CreatedInvoice) (n : UInt32) : List Activity :=
  self.multiplexActivities now
    (self.breezActivities (history.window (listPaymentsRequest n))) createdInvoices

theorem filterOutCorrupted_eq_some {α : Type} {r : Result α} {a : α} :
    filterOutCorrupted r = some a ↔ r = .ok a := by
  cases r with
  | ok b => simp [filterOutCorrupted]
  | error e => simp [filterOutCorrupted]

theorem mem_breezActivities {self : Activities} {payments : List Payment} {a : Activity} :
    a ∈ self.breezActivities payments ↔
      ∃ p ∈ payments, self.activityFromBreezPayment p = .ok a := by
  simp only [breezActivities, List.mem_filterMap, filterOutCorrupted_eq_some]

theorem mem_multiplexActivities {self : Activities} {now : SystemTime}
    {breezActivities : List Activity} {createdInvoices : List CreatedInvoice} {a : Activity} :
    a ∈ self.multiplexActivities now breezActivities createdInvoices ↔
      (∃ i ∈ createdInvoices, i.hash ∉ breezActivities.filterMap Activity.hash ∧
        ∃ info, self.paymentFromCreatedInvoice now i = .ok info ∧ a = .incomingPayment info) ∨
      a ∈ breezActivities := by
  simp only [multiplexActivities, List.mem_append, List.mem_filterMap, List.mem_filter,
    Option.map_eq_some_iff, filterOutCorrupted_eq_some, decide_eq_true_eq]
  refine or_congr_left ⟨?_, ?_⟩
  · rintro ⟨i, ⟨hi, hhash⟩, info, hinfo, rfl⟩
    exact ⟨i, hi, hhash, info, hinfo, rfl⟩
  · rintro ⟨i, hi, hhash, info, hinfo, rfl⟩
    exact ⟨i, ⟨hi, hhash⟩, info, hinfo, rfl⟩

theorem length_multiplexActivities_le (self : Activities) (now : SystemTime)
    (payments : List Payment) (createdInvoices : List CreatedInvoice) :
    (self.multiplexActivities now (self.breezActivities payments) createdInvoices).length
      ≤ createdInvoices.length + payments.length := by
  unfold multiplexActivities breezActivities
  rw [List.length_append]
  apply Nat.add_le_add
  · exact (List.length_filterMap_le _ _).trans (List.length_filter_le _ _)
  · exact List.length_filterMap_le _ _

/-! ## The shown activities -/

/-- The number of the retrieved invoices raises the limit for pending activities. -/
def lookForPending (createdInvoices : List CreatedInvoice) : Nat :=
  leewayForPendingPayments.toNat + createdInvoices.length

theorem select_fst (limit n : Nat) (activities : List Activity) :
    (select limit n activities).1 = (activities.take limit).filter Activity.isPending := by
  simp [select, List.partition_eq_filter_filter]

theorem select_snd (limit n : Nat) (activities : List Activity) :
    (select limit n activities).2 = (activities.filter (!·.isPending)).take n := by
  -- the completed ones of the head come before those of the tail
  have happend : activities.filter (!·.isPending) = (activities.take limit).filter (!·.isPending)
      ++ (activities.drop limit).filter (!·.isPending) := by
    rw [← List.filter_append, List.take_append_drop]
  rw [happend]
  simp only [select, List.partition_eq_filter_filter]
  rfl

/-- The activity is within the limits of a listing: a pending one if fewer than `limit`
activities precede it, and a completed one if fewer than `n` completed ones do. -/
def WithinLimits (now : SystemTime) (limit n : Nat) (activities : List Activity) (a : Activity) :
    Prop :=
  ∃ i, (a, i) ∈ activities.zipIdx ∧
    if a.isPending then Latest.rank (Activity.getTime now) (fun _ => true) activities (a, i) < limit
    else Latest.rank (Activity.getTime now) (!·.isPending) activities (a, i) < n

/-- A pending activity is within the limits of a list that is no longer than these. -/
theorem withinLimits_of_pending {now : SystemTime} {limit n : Nat} {activities : List Activity}
    {a : Activity} (ha : a ∈ activities) (hpending : a.isPending = true)
    (hlength : activities.length ≤ limit) : WithinLimits now limit n activities a := by
  obtain ⟨i, hi⟩ : ∃ i, (a, i) ∈ activities.zipIdx := by
    obtain ⟨i, hlt, rfl⟩ := List.mem_iff_getElem.mp ha
    exact ⟨i, List.mem_zipIdx_iff_getElem?.mpr (List.getElem?_eq_getElem hlt)⟩
  -- the activity does not precede itself
  have hself : ∃ v ∈ activities.zipIdx,
      (true && decide (Latest.Precedes (Activity.getTime now) v (a, i))) = false :=
    ⟨(a, i), hi, by simp [Latest.Precedes]⟩
  have hrank := List.countP_lt_length_iff.mpr hself
  rw [List.length_zipIdx] at hrank
  refine ⟨i, hi, ?_⟩
  rw [if_pos hpending]
  exact Nat.lt_of_lt_of_le hrank hlength

/-- The activities that are selected are those within the limits. -/
theorem mem_select {now : SystemTime} {limit n : Nat} {activities : List Activity}
    {a : Activity} :
    a ∈ (select limit n (sortByTime now activities)).1 ∨
        a ∈ (select limit n (sortByTime now activities)).2 ↔
      WithinLimits now limit n activities a := by
  have hlatest : a ∈ (sortByTime now activities).take limit ↔
      ∃ i, (a, i) ∈ activities.zipIdx ∧
        Latest.rank (Activity.getTime now) (fun _ => true) activities (a, i) < limit := by
    rw [← List.filter_true (sortByTime now activities), sortByTime,
      Latest.mem_take_filter_latestFirst]
    simp
  have hcompleted : a ∈ ((sortByTime now activities).filter (!·.isPending)).take n ↔
      (!a.isPending) = true ∧ ∃ i, (a, i) ∈ activities.zipIdx ∧
        Latest.rank (Activity.getTime now) (!·.isPending) activities (a, i) < n :=
    Latest.mem_take_filter_latestFirst
  rw [select_fst, select_snd, List.mem_filter, hlatest, hcompleted]
  unfold WithinLimits
  cases hpending : a.isPending with
  | true => simp
  | false => simp

/-! ## The response -/

/-- The activity is in a response of `list`. -/
def Listed (response : ListActivitiesResponse) (a : Activity) : Prop :=
  a ∈ response.pendingActivities ∨ a ∈ response.completedActivities

theorem listed_select_iff {now : SystemTime} {limit n : Nat} {activities swap : List Activity}
    {a : Activity} :
    Listed
        { pendingActivities :=
            sortByTime now ((select limit n (sortByTime now activities)).1 ++ swap)
          completedActivities := (select limit n (sortByTime now activities)).2 } a
      ↔ WithinLimits now limit n activities a ∨ a ∈ swap := by
  rw [← mem_select, Listed, sortByTime, Latest.mem_latestFirst, List.mem_append]
  tauto

/-- With answers of the SDK and of the db there is a response: the merged activities within the
limits and the swap in progress. -/
theorem list_ok (self : Activities) (sdk : PaymentsSdk) {now : SystemTime} {n : UInt32}
    {payments : List Payment} {createdInvoices : List CreatedInvoice} {swap : Option SdkSwapInfo}
    (hpayments : sdk.listPayments (listPaymentsRequest n) = .ok payments)
    (hretrieve : self.support.dataStore.retrieveCreatedInvoices now n = .ok createdInvoices)
    (hswap : sdk.inProgressSwap = .ok swap) :
    ∃ response, self.list sdk now n = .ok response ∧ ∀ a, Listed response a ↔
      WithinLimits now (lookForPending createdInvoices) n.toNat
          (self.multiplexActivities now (self.breezActivities payments) createdInvoices) a
        ∨ a ∈ (swap.map self.swapActivity).toList := by
  refine ⟨_, ?_, fun a => listed_select_iff⟩
  unfold list
  rw [hpayments]
  dsimp only
  rw [hretrieve, hswap]
  rfl

theorem list_eq_ok {self : Activities} {history : PaymentHistory}
    {swap : Except String (Option SdkSwapInfo)} {now : SystemTime} {n : UInt32}
    {response : ListActivitiesResponse} :
    self.list (history.sdk swap) now n = .ok response ↔
      ∃ createdInvoices inProgress,
        self.support.dataStore.retrieveCreatedInvoices now n = .ok createdInvoices ∧
        swap = .ok inProgress ∧
        response =
          let selected := select (lookForPending createdInvoices) n.toNat
            (sortByTime now (self.merged history now createdInvoices n))
          { pendingActivities :=
              sortByTime now (selected.1 ++ (inProgress.map self.swapActivity).toList)
            completedActivities := selected.2 } := by
  unfold list
  simp only [PaymentHistory.sdk]
  cases hretrieve : self.support.dataStore.retrieveCreatedInvoices now n with
  | error e => simp
  | ok createdInvoices =>
      cases swap with
      | error e => simp
      | ok inProgress =>
          simp only [Except.ok.injEq, exists_and_left, ↓existsAndEq, true_and]
          rw [eq_comm]
          rfl

end Activities

end LipaLightning
