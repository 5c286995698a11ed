import LipaLightning.Activity.Listing
import LipaLightning.CollectionRecords
import LipaLightning.PayoutFee

set_option autoImplicit false

/-! # Uncompleted offers

`FiatTopup::query_uncompleted_offers` (`fiat_topup.rs`) asks the backend for the topups that were
not completed. A topup that was collected a moment ago can still be among them, so those whose
claim is one of the latest succeeded payments are left out.
-/

namespace LipaLightning

/-- The filter that asks for the payments of a type. -/
def PaymentTypeFilter.of : PaymentType → PaymentTypeFilter
  | .sent => .sent
  | .received => .received
  | .closedChannel => .closedChannel

/-- The answer of the SDK to a request, from its history: the latest payments of the types that
are asked for, without the failed ones unless they are asked for. -/
def PaymentHistory.answer (self : PaymentHistory) (request : ListPaymentsRequest) : List Payment :=
  let payments := self.payments.filter fun p =>
    request.filters.all (fun filters => filters.contains (.of p.paymentType)) &&
      (request.includeFailures == some true || p.status != .failed)
  match request.limit with
  | some limit => payments.take limit.toNat
  | none => payments

namespace FiatTopup

/-- The offer an activity is the claim of. -/
def pocketId : Activity → Option String
  | .offerClaim _ offer => some offer.id
  | _ => none

def filterOutRecentlyClaimedTopups (topups : List TopupInfo) (latestActivities : List Activity) :
    List TopupInfo :=
  let latestSucceededPaymentOfferIds := (latestActivities.filter fun a =>
    a.getPaymentInfo.map PaymentInfo.paymentState = some .succeeded).filterMap pocketId
  topups.filter fun o => o.id ∉ latestSucceededPaymentOfferIds

def latestReceivedRequest : ListPaymentsRequest where
  filters := some [.received]
  includeFailures := some false
  limit := some 5

/-- The topups that are not completed, as offers. -/
def queryUncompletedOffers (activities : Activities)
    (queryUncompletedTopups : Except (Error String) (List TopupInfo))
    (listPayments : ListPaymentsRequest → Except String (List Payment)) :
    Result (List OfferInfo) := do
  let topupInfos ← queryUncompletedTopups.mapError
    (Error.mapRuntimeErrorTo .offerServiceUnavailable)
  let rate := activities.support.getExchangeRate
  let payments ← mapToRuntimeError (listPayments latestReceivedRequest) .nodeUnavailable
    "Failed to list payments"
  let latestActivities := (payments.filter fun p => p.status = .complete).filterMap fun p =>
    Activities.filterOutCorrupted (activities.activityFromBreezPayment p)
  .ok ((filterOutRecentlyClaimedTopups topupInfos latestActivities).map (OfferInfo.from · rate))

end FiatTopup

/-! ## Claims -/

/-- The claim of an offer is an activity that rests on what links its payment to the offer. -/
theorem pocketId_eq_some_iff {activities : Activities} {payment : Payment}
    {details : LnPaymentDetails} {a : Activity} (offer : Offer)
    (hdetails : payment.details = .ln details)
    (ha : activities.activityFromBreezPayment payment = .ok a) :
    FiatTopup.pocketId a = some offer.id ↔
      LinkedTo activities.support.dataStore.conn details.paymentHash offer := by
  have hln : activities.activityFromBreezLnPayment payment = .ok a := by
    simpa only [Activities.activityFromBreezPayment, hdetails] using ha
  constructor
  · intro hid
    simp only [Activities.activityFromBreezLnPayment, hdetails] at hln
    cases hoffer : (activities.support.dataStore.retrievePaymentInfo details.paymentHash).bind
        LocalPaymentData.offer with
    | none =>
        -- without a stored offer the activity is of another kind
        simp only [hoffer] at hln
        cases hswap : details.swapInfo with
        | some s =>
            simp only [hswap] at hln
            obtain ⟨info, -, hln⟩ := bind_eq_ok.mp hln
            cases hln
            cases hid
        | none =>
            cases hreverse : details.reverseSwapInfo with
            | some s =>
                simp only [hswap, hreverse] at hln
                obtain ⟨info, -, hln⟩ := bind_eq_ok.mp hln
                cases hln
                cases hid
            | none =>
                simp only [hswap, hreverse] at hln
                cases htype : payment.paymentType with
                | received =>
                    simp only [htype] at hln
                    obtain ⟨info, -, hln⟩ := bind_eq_ok.mp hln
                    cases hln
                    cases hid
                | sent =>
                    simp only [htype] at hln
                    obtain ⟨info, -, hln⟩ := bind_eq_ok.mp hln
                    cases hln
                    cases hid
                | closedChannel =>
                    simp only [htype] at hln
                    cases hln
    | some stored =>
        simp only [hoffer] at hln
        obtain ⟨info, -, hln⟩ := bind_eq_ok.mp hln
        cases hln
        have hstored : stored.id = offer.id := Option.some.inj hid
        unfold DataStore.retrievePaymentInfo at hoffer
        obtain ⟨local_, hlocal, hoffer⟩ := Option.bind_eq_some_iff.mp hoffer
        obtain ⟨row, hrow, rfl⟩ := Option.map_eq_some_iff.mp hlocal
        have hkey : row.hash = details.paymentHash := KeyedTable.lookup_key hrow
        refine ⟨Option.isSome_iff_exists.mpr ⟨row, hrow⟩, ?_⟩
        unfold DataStore.localPaymentDataFromRow at hoffer
        rw [hkey] at hoffer
        obtain ⟨offerRow, hofferRow, hfrom⟩ := Option.map_eq_some_iff.mp hoffer
        rw [hofferRow, Option.map_some, ← hstored, ← hfrom]
        rfl
  · intro hlinked
    obtain ⟨info, claimed, rfl, hid⟩ := hlinked.shown hdetails hln
    exact congrArg some hid

/-- A payment is shown in the state the SDK has it in. -/
theorem paymentState_of_ok {parsers : Parsers} {p : Payment} {rate : Option ExchangeRate}
    {tzConfig : TzConfig} {note : Option String} {info : PaymentInfo}
    (h : PaymentInfo.new parsers p rate tzConfig note = .ok info) :
    info.paymentState = .from p.status := by
  unfold PaymentInfo.new at h
  split at h
  · cases h
  · split at h
    · cases h
    · obtain ⟨time, -, h⟩ := bind_eq_ok.mp h
      obtain ⟨amount, -, h⟩ := bind_eq_ok.mp h
      cases h
      rfl

/-- The claim of an offer has succeeded if its payment is complete. -/
theorem succeeded_iff_complete {activities : Activities} {payment : Payment} {a : Activity}
    {id : String} (ha : activities.activityFromBreezPayment payment = .ok a)
    (hid : FiatTopup.pocketId a = some id) :
    a.getPaymentInfo.map PaymentInfo.paymentState = some .succeeded ↔
      payment.status = .complete := by
  cases Activities.presentedAs ha with
  | offerClaim offer hinfo =>
      obtain ⟨paymentInfo, hpaymentInfo, h⟩ := bind_eq_ok.mp hinfo
      cases h
      show some paymentInfo.paymentState = some .succeeded ↔ _
      rw [paymentState_of_ok hpaymentInfo]
      cases payment.status with
      | pending => exact iff_of_false (fun h => nomatch h) (fun h => nomatch h)
      | complete => exact iff_of_true rfl rfl
      | failed => exact iff_of_false (fun h => nomatch h) (fun h => nomatch h)
  | incomingPayment | swap | outgoingPayment | reverseSwap | channelClose => cases hid

/-- Among the payments is a complete one that is linked to the offer and can be presented. -/
def ClaimedAmong (activities : Activities) (payments : List Payment) (offer : Offer) : Prop :=
  ∃ p ∈ payments, p.status = .complete ∧ (∃ a, activities.activityFromBreezPayment p = .ok a) ∧
    ∃ details, p.details = .ln details ∧
      LinkedTo activities.support.dataStore.conn details.paymentHash offer

namespace FiatTopup

/-- The activities of the complete payments. -/
def latestActivities (activities : Activities) (payments : List Payment) : List Activity :=
  (payments.filter fun p => p.status = .complete).filterMap fun p =>
    Activities.filterOutCorrupted (activities.activityFromBreezPayment p)

theorem mem_claimed_iff (activities : Activities) (payments : List Payment) (offer : Offer) :
    offer.id ∈ ((latestActivities activities payments).filter fun a =>
        a.getPaymentInfo.map PaymentInfo.paymentState = some .succeeded).filterMap pocketId ↔
      ClaimedAmong activities payments offer := by
  simp only [latestActivities, List.mem_filterMap, List.mem_filter, decide_eq_true_eq,
    Activities.filterOutCorrupted_eq_some]
  constructor
  · rintro ⟨a, ⟨⟨p, ⟨hp, hcomplete⟩, ha⟩, -⟩, hid⟩
    refine ⟨p, hp, hcomplete, ⟨a, ha⟩, ?_⟩
    cases hdetails : p.details with
    | ln details => exact ⟨details, rfl, (pocketId_eq_some_iff offer hdetails ha).mp hid⟩
    | closedChannel data =>
        -- the activity of a channel close is no claim
        have hhash := Activities.hash_activityFromBreezPayment ha
        cases a with
        | offerClaim info claimed => simp [Payment.hash, hdetails, Activity.hash,
            Activity.getPaymentInfo] at hhash
        | _ => cases hid
  · rintro ⟨p, hp, hcomplete, ⟨a, ha⟩, details, hdetails, hlinked⟩
    have hid := (pocketId_eq_some_iff offer hdetails ha).mpr hlinked
    exact ⟨a, ⟨⟨p, ⟨hp, hcomplete⟩, ha⟩, (succeeded_iff_complete ha hid).mpr hcomplete⟩, hid⟩

open Classical in
/-- The offers are the topups that are not claimed among the latest payments, in their order. -/
theorem queryUncompletedOffers_eq (activities : Activities) (topups : List TopupInfo)
    (payments : List Payment) :
    queryUncompletedOffers activities (.ok topups) (fun _ => .ok payments) =
      .ok ((topups.map (OfferInfo.from · activities.support.getExchangeRate)).filter fun o =>
        ¬ ClaimedAmong activities payments o.offer) := by
  show Except.ok ((filterOutRecentlyClaimedTopups topups
    (latestActivities activities payments)).map _) = _
  congr 1
  rw [filterOutRecentlyClaimedTopups, List.filter_map]
  congr 1
  apply List.filter_congr
  intro topup _
  show decide (topup.id ∉ _)
    = decide ¬ ClaimedAmong activities payments (OfferInfo.from topup _).offer
  rw [decide_eq_decide, ← mem_claimed_iff]
  rfl

end FiatTopup

/-! ## After a collection -/

/-- A link to an offer is what is recorded about it. -/
theorem linkedTo_iff_recordedOffer (support : Support) (hash : String) (offer : Offer) :
    LinkedTo support.dataStore.conn hash offer ↔
      (recordedOffer hash support).map Offer.id = some offer.id := by
  rw [recordedOffer_eq, LinkedTo, storedOffer]
  cases hrow : support.dataStore.conn.payments.lookup hash with
  | none =>
      refine iff_of_false ?_ ?_
      · rintro ⟨h, -⟩
        cases h
      · rintro ⟨⟩
  | some row =>
      rw [Option.isSome_some, if_pos rfl, Option.map_map]
      exact and_iff_right rfl

/-- An action that stores no offer with the payment keeps its link. -/
theorem linkedTo_step {support : Support} {a : LibraryAction} {hash : String} {offer : Offer}
    (h : LinkedTo support.dataStore.conn hash offer)
    (hkeeps : ¬ Supplies (suppliesOffer hash) support a) :
    LinkedTo (a.step support).dataStore.conn hash offer := by
  rw [linkedTo_iff_recordedOffer] at h ⊢
  obtain ⟨stored, hstored, hid⟩ := Option.map_eq_some_iff.mp h
  rw [recordedOffer_step hash support a stored hkeeps hstored]
  exact congrArg some hid

theorem linkedTo_run {support : Support} {hash : String} {offer : Offer}
    (h : LinkedTo support.dataStore.conn hash offer) (as : List LibraryAction)
    (hkeeps : Runs.AllSteps LibraryAction.step
      (fun s a => ¬ Supplies (suppliesOffer hash) s a) support as) :
    LinkedTo (Runs.run LibraryAction.step support as).dataStore.conn hash offer :=
  Runs.Throughout.last LibraryAction.step as support <|
    Runs.throughout_of_allSteps LibraryAction.step
      (I := fun s => LinkedTo s.dataStore.conn hash offer) (fun _ _ => linkedTo_step) as support h
      hkeeps

/-- The wallet after a run of library actions. -/
def Activities.after (self : Activities) (as : List LibraryAction) : Activities :=
  { self with support := Runs.run LibraryAction.step self.support as }

/-- The wallet after it has collected a topup. -/
def collectingWallet : Activities where
  support := (FiatTopup.requestCollection newSupport withdrawingSdk
    { unreachableServices with hideTopup := fun _ => .ok () }
    ⟨⟨0, fun _ => false⟩, ⟨0, fun _ => false⟩, ⟨0, fun _ => false⟩⟩ collectedOffer).2
  parsers := ⟨fun _ => .ok withdrawnInvoice, fun _ => .error ""⟩
  lipaLightningDomain := "lipa.swiss"

/-- The payment of the collected topup. -/
def paidOutPayment : Payment := ⟨.received, 1700000060, 5000000, 0, .complete,
  .ln ⟨"f0", "", "lnbc", none, none, none, none, none, none⟩⟩

def paidOut : PaymentHistory where
  payments := [paidOutPayment]
  latestFirst := List.pairwise_singleton ..
  uniqueHashes := List.nodup_singleton _

end LipaLightning
