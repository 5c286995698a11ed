import LipaLightning.Activity.Activities
import LipaLightning.Basic.FirstOfEach
import LipaLightning.PhoneAddresses

set_option autoImplicit false

/-! # Recent recipients

`LightningNode::list_recipients` (`lib.rs`): the lightning addresses that payments were sent to,
the ones used last first. The addresses are sorted with the negated times of the payments, so
that the first entry of an address is its latest payment. The negation of an `i64` wraps at its
least value, which no clock shows.
-/

namespace LipaLightning

/-- The lightning address that a payment was made to. -/
def Payment.lnAddress (p : Payment) : Option String :=
  match p.details with
  | .ln data => data.lnAddress
  | .closedChannel _ => none

namespace LightningNode

def listSentRequest : ListPaymentsRequest where
  filters := some [.sent]
  includeFailures := some true
  limit := none

def toLightningAddress (p : Payment) : Option (String × Int) :=
  match p.details with
  | .ln data =>
      match data.lnAddress with
      | some lightningAddress => some (lightningAddress, (-p.paymentTime).toInt)
      | none => none
  | .closedChannel _ => none

/-- List recipients from the most recent used. -/
def listRecipients (sdk : PaymentsSdk) (lipaLightningDomain : String) :
    Result (List Recipient) := do
  let payments ← mapToRuntimeError (sdk.listPayments listSentRequest) .nodeUnavailable
    "Failed to list payments"
  let lightningAddresses := payments.filterMap toLightningAddress
  let lightningAddresses := lightningAddresses.insertionSort FirstOfEach.Before
  let lightningAddresses := lightningAddresses.destutter fun a b => a.1 ≠ b.1
  let lightningAddresses := lightningAddresses.insertionSort fun a b => a.2 ≤ b.2
  .ok (lightningAddresses.map fun p => Recipient.fromLightningAddress p.1 lipaLightningDomain)

/-! ## The addresses -/

/-- The addresses in the order of the recipients. -/
def recentAddresses (payments : List Payment) : List String :=
  (FirstOfEach.firstByValue (payments.filterMap toLightningAddress)).map Prod.fst

theorem listRecipients_eq {sdk : PaymentsSdk} {payments : List Payment}
    (hpayments : sdk.listPayments listSentRequest = .ok payments) (lipaLightningDomain : String) :
    listRecipients sdk lipaLightningDomain = .ok ((recentAddresses payments).map
      (Recipient.fromLightningAddress · lipaLightningDomain)) := by
  unfold listRecipients
  rw [hpayments, recentAddresses, List.map_map]
  rfl

theorem toLightningAddress_eq (p : Payment) :
    toLightningAddress p = p.lnAddress.map fun address => (address, (-p.paymentTime).toInt) := by
  unfold toLightningAddress Payment.lnAddress
  cases p.details with
  | ln data =>
      dsimp only
      cases data.lnAddress with
      | none => rfl
      | some address => rfl
  | closedChannel data => rfl

theorem mem_entries_iff (payments : List Payment) (entry : String × Int) :
    entry ∈ payments.filterMap toLightningAddress ↔
      ∃ p ∈ payments, p.lnAddress = some entry.1 ∧ (-p.paymentTime).toInt = entry.2 := by
  simp only [List.mem_filterMap, toLightningAddress_eq, Option.map_eq_some_iff, Prod.ext_iff]
  constructor
  · rintro ⟨p, hp, address, haddress, rfl, htime⟩
    exact ⟨p, hp, haddress, htime⟩
  · rintro ⟨p, hp, haddress, htime⟩
    exact ⟨p, hp, entry.1, haddress, rfl, htime⟩

theorem mem_recentAddresses_iff (payments : List Payment) (address : String) :
    address ∈ recentAddresses payments ↔ ∃ p ∈ payments, p.lnAddress = some address := by
  rw [recentAddresses, FirstOfEach.mem_keys_firstByValue_iff, List.mem_map]
  simp only [mem_entries_iff]
  constructor
  · rintro ⟨entry, ⟨p, hp, haddress, -⟩, rfl⟩
    exact ⟨p, hp, haddress⟩
  · rintro ⟨p, hp, haddress⟩
    exact ⟨(address, _), ⟨p, hp, haddress, rfl⟩, rfl⟩

/-- Only the least time has no opposite. -/
theorem toInt_neg_of_ne_minValue {time : Int64} (htime : time ≠ Int64.minValue) :
    (-time).toInt = -time.toInt := by
  have hlow := Int64.le_toInt time
  have hhigh := Int64.toInt_lt time
  have hne : time.toInt ≠ -2 ^ 63 := by
    intro h
    apply htime
    apply Int64.toInt_inj.mp
    rw [h]
    rfl
  rw [Int64.toInt_neg]
  exact Int.bmod_eq_of_le (by omega) (by omega)

/-- The latest time of a payment to the address. -/
structure IsLatestTime (payments : List Payment) (address : String) (time : Int) : Prop where
  paid : ∃ p ∈ payments, p.lnAddress = some address ∧ p.paymentTime.toInt = time
  latest : ∀ p ∈ payments, p.lnAddress = some address → p.paymentTime.toInt ≤ time

theorem IsLatestTime.unique {payments : List Payment} {address : String} {ta tb : Int}
    (ha : IsLatestTime payments address ta) (hb : IsLatestTime payments address tb) : ta = tb := by
  obtain ⟨p, hp, hpaddress, hptime⟩ := ha.paid
  obtain ⟨q, hq, hqaddress, hqtime⟩ := hb.paid
  have hle := ha.latest q hq hqaddress
  have hge := hb.latest p hp hpaddress
  omega

/-- No payment to the address was made at the least time, which has no opposite. -/
def TimesAreNegated (payments : List Payment) (address : String) : Prop :=
  ∀ p ∈ payments, p.lnAddress = some address → p.paymentTime ≠ Int64.minValue

/-- The first entry of an address has its latest time. -/
theorem isLatestTime_of_isFirst {payments : List Payment} {entry : String × Int}
    (htimes : TimesAreNegated payments entry.1)
    (hfirst : FirstOfEach.IsFirst (payments.filterMap toLightningAddress) entry) :
    IsLatestTime payments entry.1 (-entry.2) := by
  have hneg : ∀ p ∈ payments, p.lnAddress = some entry.1 →
      (-p.paymentTime).toInt = -p.paymentTime.toInt := by
    intro p hp haddress
    exact toInt_neg_of_ne_minValue (htimes p hp haddress)
  obtain ⟨hmem, hleast⟩ := hfirst
  obtain ⟨q, hq, hqaddress, hqtime⟩ := (mem_entries_iff payments entry).mp hmem
  rw [hneg q hq hqaddress] at hqtime
  constructor
  · exact ⟨q, hq, hqaddress, by omega⟩
  · intro p hp haddress
    have hle : entry.2 ≤ (-p.paymentTime).toInt :=
      hleast (entry.1, _) ((mem_entries_iff ..).mpr ⟨p, hp, haddress, rfl⟩) rfl
    rw [hneg p hp haddress] at hle
    omega

/-- The first address was paid last. -/
def PaidNoEarlier (payments : List Payment) (a b : String) : Prop :=
  ∃ ta tb, IsLatestTime payments a ta ∧ IsLatestTime payments b tb ∧ tb ≤ ta

/-- The addresses are in the order of their latest payments, as far as the times of these are
negated. -/
theorem pairwise_recentAddresses (payments : List Payment) :
    (recentAddresses payments).Pairwise fun a b =>
      TimesAreNegated payments a → TimesAreNegated payments b → PaidNoEarlier payments a b := by
  refine List.pairwise_map.mpr ?_
  have hsorted := FirstOfEach.pairwise_firstByValue (payments.filterMap toLightningAddress)
  refine hsorted.imp_of_mem fun {a b} ha hb hab => ?_
  rw [FirstOfEach.mem_firstByValue_iff] at ha hb
  intro hatimes hbtimes
  exact ⟨-a.2, -b.2, isLatestTime_of_isFirst hatimes ha, isLatestTime_of_isFirst hbtimes hb,
    by omega⟩

/-- The order in which the payments are listed makes no difference. -/
theorem recentAddresses_perm {payments payments' : List Payment} (h : payments.Perm payments') :
    recentAddresses payments = recentAddresses payments' := by
  rw [recentAddresses, recentAddresses, FirstOfEach.firstByValue_perm (h.filterMap _)]

end LightningNode

/-- Different addresses are shown as different recipients. -/
theorem Recipient.fromLightningAddress_injective (lipaLightningDomain : String) :
    Function.Injective (Recipient.fromLightningAddress · lipaLightningDomain) := by
  intro a b h
  dsimp only at h
  cases ha : lightningAddressToPhoneNumber a lipaLightningDomain with
  | some e164 =>
      have hb : lightningAddressToPhoneNumber b lipaLightningDomain = some e164 := by
        rw [← fromLightningAddress_eq_phoneNumber_iff] at ha ⊢
        exact h.symm.trans ha
      -- both addresses are written with the digits of the number
      rw [lightningAddressToPhoneNumber_eq_some_iff_digits] at ha hb
      obtain ⟨digits, -, haddress, hdigits⟩ := ha
      obtain ⟨digits', -, haddress', hdigits'⟩ := hb
      have hlist := String.ofList_injective (hdigits.symm.trans hdigits')
      rw [haddress, haddress', (List.cons.inj hlist).2]
  | none =>
      cases hb : lightningAddressToPhoneNumber b lipaLightningDomain with
      | some e164 => simp [Recipient.fromLightningAddress, ha, hb] at h
      | none => simpa [Recipient.fromLightningAddress, ha, hb] using h

namespace LightningNode

/-- The recipients are those of the addresses, and the addresses are the ones paid to, each once. -/
structure AreRecipientsOf (lipaLightningDomain : String) (payments : List Payment)
    (recipients : List Recipient) (addresses : List String) : Prop where
  recipients_eq : recipients = addresses.map (Recipient.fromLightningAddress · lipaLightningDomain)
  nodup : recipients.Nodup
  mem_iff : ∀ address, address ∈ addresses ↔ ∃ p ∈ payments, p.lnAddress = some address

/-- **Each address that was paid to is listed once**, and no other, whatever the order in which
the payments are listed. Of two addresses that no payment was made to at the least time there is,
the one that is listed first has been paid no earlier. -/
theorem listRecipients_lists (sdk : PaymentsSdk) (lipaLightningDomain : String)
    (payments : List Payment) (hpayments : sdk.listPayments listSentRequest = .ok payments) :
    ∃ recipients addresses, listRecipients sdk lipaLightningDomain = .ok recipients ∧
      AreRecipientsOf lipaLightningDomain payments recipients addresses ∧
      (addresses.Pairwise fun a b =>
        TimesAreNegated payments a → TimesAreNegated payments b → PaidNoEarlier payments a b) ∧
      ∀ (sdk' : PaymentsSdk) (payments' : List Payment), payments'.Perm payments →
        sdk'.listPayments listSentRequest = .ok payments' →
        listRecipients sdk' lipaLightningDomain = .ok recipients := by
  refine ⟨_, recentAddresses payments, listRecipients_eq hpayments lipaLightningDomain,
    ⟨rfl, ?_, mem_recentAddresses_iff payments⟩, pairwise_recentAddresses payments, ?_⟩
  · have hnodup : (recentAddresses payments).Nodup := FirstOfEach.nodup_keys_firstByValue _
    exact hnodup.map (Recipient.fromLightningAddress_injective lipaLightningDomain)
  · intro sdk' payments' hperm hpayments'
    rw [listRecipients_eq hpayments', recentAddresses_perm hperm]

/-- A sent payment to the address. -/
def paymentTo (address : String) (paymentTime : Int64) : Payment where
  paymentType := .sent
  paymentTime := paymentTime
  amountMsat := 1000
  feeMsat := 0
  status := .complete
  details := .ln
    { paymentHash := "", paymentPreimage := "", bolt11 := "", lnurlPayDomain := none
      lnurlPayComment := none, lnurlMetadata := none, lnAddress := some address
      swapInfo := none, reverseSwapInfo := none }

/-- A node that lists the payments. -/
def sdkListing (payments : List Payment) : PaymentsSdk where
  listPayments _ := .ok payments
  paymentByHash _ := .ok none
  inProgressSwap := .ok none

/-- Four payments to three addresses, one of them at the least time. -/
def fourPayments : List Payment :=
  [paymentTo "ann" 3, paymentTo "bob" 7, paymentTo "ann" 5, paymentTo "eve" Int64.minValue]

/-- The payment at the least time does not disturb the order of the other two addresses. -/
theorem listRecipients_lists_four :
    (sdkListing fourPayments).listPayments listSentRequest = .ok fourPayments ∧
    ∃ recipients addresses,
      listRecipients (sdkListing fourPayments) "@lipa.swiss" = .ok recipients ∧
      AreRecipientsOf "@lipa.swiss" fourPayments recipients addresses ∧
      (addresses.Pairwise fun a b => TimesAreNegated fourPayments a →
        TimesAreNegated fourPayments b → PaidNoEarlier fourPayments a b) ∧
      ∀ (sdk' : PaymentsSdk) (payments' : List Payment), payments'.Perm fourPayments →
        sdk'.listPayments listSentRequest = .ok payments' →
        listRecipients sdk' "@lipa.swiss" = .ok recipients :=
  ⟨rfl, listRecipients_lists (sdkListing fourPayments) "@lipa.swiss" fourPayments rfl⟩

/-- The address that was paid to at the least time is listed before one paid to later. -/
theorem least_time_listed_first :
    ¬ ∀ (sdk : PaymentsSdk) (lipaLightningDomain : String) (payments : List Payment),
      sdk.listPayments listSentRequest = .ok payments →
      ∃ recipients addresses, listRecipients sdk lipaLightningDomain = .ok recipients ∧
        AreRecipientsOf lipaLightningDomain payments recipients addresses ∧
        addresses.Pairwise (PaidNoEarlier payments) := by
  intro h
  obtain ⟨recipients, addresses, hlisted, hrecipients, hordered⟩ :=
    h (sdkListing [paymentTo "ann" Int64.minValue, paymentTo "bob" 7]) "@lipa.swiss" _ rfl
  have hsorted : recentAddresses [paymentTo "ann" Int64.minValue, paymentTo "bob" 7]
      = ["ann", "bob"] := by decide
  rw [listRecipients_eq rfl, hsorted, hrecipients.recipients_eq] at hlisted
  have haddresses : addresses = ["ann", "bob"] :=
    (List.map_injective_iff.mpr (Recipient.fromLightningAddress_injective "@lipa.swiss")
      (Except.ok.inj hlisted)).symm
  rw [haddresses] at hordered
  obtain ⟨ta, tb, ha, hb, hle⟩ := (List.pairwise_pair.mp hordered)
  have hann : ta = Int64.minValue.toInt := ha.unique ⟨⟨_, List.mem_cons_self, rfl, rfl⟩, by decide⟩
  have hbob : tb = 7 := hb.unique ⟨⟨paymentTo "bob" 7, by simp, rfl, rfl⟩, by decide⟩
  have hmin : Int64.minValue.toInt = -9223372036854775808 := rfl
  omega

end LightningNode

end LipaLightning
