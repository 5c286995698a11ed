import LipaLightning.Activity.Listing

set_option autoImplicit false

/-! # List and get

When the activities that `list` returns are those that `get` returns for their hashes. `list`
recognises that an invoice is paid by the payments in the window of its request; `get` asks the
SDK for the payment. They disagree about an invoice whose payment lies outside of the window, or
cannot be presented.
-/

namespace LipaLightning

namespace Activities

/-- Every listed activity is what `get` returns for its hash. -/
def ListAgreesWithGet (self : Activities) (sdk : PaymentsSdk) (now : SystemTime) (n : UInt32) :
    Prop :=
  ∀ response, self.list sdk now n = .ok response →
    ∀ a hash, Listed response a → a.hash = some hash → self.get sdk now hash = .ok a

/-- The payments of the window of a request, the `n + 30` latest ones. -/
def latestPayments (history : PaymentHistory) (n : UInt32) : List Payment :=
  history.payments.take (n + leewayForPendingPayments).toNat

/-- No payment is recognised for the hash: the SDK has none, or it lies outside of the window, or
it cannot be presented. -/
def Overlooked (self : Activities) (history : PaymentHistory) (n : UInt32) (hash : String) :
    Prop :=
  ∀ p ∈ history.payments, p.hash = some hash →
    p ∉ latestPayments history n ∨ filterOutCorrupted (self.activityFromBreezPayment p) = none

instance (self : Activities) (history : PaymentHistory) (n : UInt32) (hash : String) :
    Decidable (self.Overlooked history n hash) :=
  inferInstanceAs (Decidable (∀ p ∈ history.payments, p.hash = some hash →
    p ∉ latestPayments history n ∨ filterOutCorrupted (self.activityFromBreezPayment p) = none))

/-- What is listed of an invoice if its payment is overlooked. -/
def overlookedInvoice (self : Activities) (history : PaymentHistory) (now : SystemTime)
    (n : UInt32) (i : CreatedInvoice) : Option Activity :=
  if self.Overlooked history n i.hash then
    (filterOutCorrupted (self.paymentFromCreatedInvoice now i)).map .incomingPayment
  else none

def overlookedInvoices (self : Activities) (history : PaymentHistory) (now : SystemTime)
    (n : UInt32) (createdInvoices : List CreatedInvoice) : List Activity :=
  createdInvoices.filterMap (self.overlookedInvoice history now n)

/-- How many activities of those that `q` selects are listed before the one of an overlooked
invoice: other overlooked invoices and payments in the window. -/
def listedBefore (self : Activities) (history : PaymentHistory) (now : SystemTime) (n : UInt32)
    (q : Activity → Bool) (before after : List CreatedInvoice) (a : Activity) : Nat :=
  Latest.rankBetween (Activity.getTime now) q (self.overlookedInvoices history now n before)
    (self.overlookedInvoices history now n after
      ++ self.breezActivities (latestPayments history n)) a

/-- The invoice between the others is listed: fewer than 30 and the number of retrieved invoices
are listed before it if it is pending, and fewer than `n` completed ones if it is expired. -/
def IsListed (self : Activities) (history : PaymentHistory) (now : SystemTime) (n : UInt32)
    (before : List CreatedInvoice) (i : CreatedInvoice) (after : List CreatedInvoice)
    (a : Activity) : Prop :=
  if a.isPending then self.listedBefore history now n (fun _ => true) before after a
    < lookForPending (before ++ i :: after)
  else self.listedBefore history now n (!·.isPending) before after a < n.toNat

/-! ## What get returns -/

section

variable {self : Activities} {history : PaymentHistory}
  {swap : Except String (Option SdkSwapInfo)} {now : SystemTime}

/-- The SDK's payments agree with `get`, because it finds each by its hash. -/
theorem get_of_breezPayment {p : Payment} {a : Activity} {hash : String}
    (hp : p ∈ history.payments) (ha : self.activityFromBreezPayment p = .ok a)
    (hhash : a.hash = some hash) : self.get (history.sdk swap) now hash = .ok a := by
  rw [hash_activityFromBreezPayment ha] at hhash
  have hfind := PaymentHistory.find_hash history.uniqueHashes hp hhash
  simp only [get, PaymentHistory.sdk, hfind, ha]

/-- The state of a payment that is received is the one of the SDK. -/
theorem state_of_incoming {p : Payment} {rate : Option ExchangeRate} {tzConfig : TzConfig}
    {note receivedOn comment : Option String} {domain : String} {info : IncomingPaymentInfo}
    (h : IncomingPaymentInfo.new self.parsers p rate tzConfig note receivedOn comment domain
      = .ok info) : info.paymentInfo.paymentState = .from p.status := by
  obtain ⟨paymentInfo, hinfo, h⟩ := bind_eq_ok.mp h
  cases h
  unfold PaymentInfo.new at hinfo
  split at hinfo
  · cases hinfo
  · split at hinfo
    · cases hinfo
    · obtain ⟨time, -, hinfo⟩ := bind_eq_ok.mp hinfo
      obtain ⟨amount, -, hinfo⟩ := bind_eq_ok.mp hinfo
      cases hinfo
      rfl

theorem state_of_breezPayment {p : Payment} {info : IncomingPaymentInfo}
    (h : self.activityFromBreezPayment p = .ok (.incomingPayment info)) :
    info.paymentInfo.paymentState = .from p.status := by
  cases presentedAs h with
  | incomingPayment hinfo => exact state_of_incoming hinfo

/-- What is shown of a created invoice is never settled. -/
theorem state_of_createdInvoice {i : CreatedInvoice} {info : IncomingPaymentInfo}
    (h : self.paymentFromCreatedInvoice now i = .ok info) :
    info.paymentInfo.paymentState = .created ∨ info.paymentInfo.paymentState = .invoiceExpired := by
  unfold paymentFromCreatedInvoice at h
  split at h
  · cases h
  · split at h
    · cases h
    · unfold paymentFromInvoice at h
      dsimp only at h
      split at h
      · cases h
      · cases h
        dsimp only
        split
        · exact .inr rfl
        · exact .inl rfl

/-- A payment that is presented like an invoice is still pending. -/
theorem pending_of_createdInvoice {i : CreatedInvoice} {info : IncomingPaymentInfo} {p : Payment}
    (hi : self.paymentFromCreatedInvoice now i = .ok info)
    (hp : self.activityFromBreezPayment p = .ok (.incomingPayment info)) :
    p.status = .pending := by
  have hunsettled := state_of_createdInvoice hi
  rw [state_of_breezPayment hp] at hunsettled
  cases hstatus : p.status with
  | pending => rfl
  | complete => simp [PaymentState.from, hstatus] at hunsettled
  | failed => simp [PaymentState.from, hstatus] at hunsettled

/-- `get` returns what is shown of an invoice if the SDK's payment is still pending and presented
the same, or if there is none and the first invoice with the hash is presented the same. -/
theorem get_createdInvoice_iff {i : CreatedInvoice} {info : IncomingPaymentInfo}
    (hi : self.paymentFromCreatedInvoice now i = .ok info) :
    self.get (history.sdk swap) now info.paymentInfo.hash = .ok (.incomingPayment info) ↔
      (∀ p ∈ history.payments, p.hash = some info.paymentInfo.hash →
        p.status = .pending ∧ self.activityFromBreezPayment p = .ok (.incomingPayment info)) ∧
      ((∀ p ∈ history.payments, p.hash ≠ some info.paymentInfo.hash) → ∃ j,
        self.support.dataStore.retrieveCreatedInvoiceByHash info.paymentInfo.hash = some j ∧
        self.paymentFromCreatedInvoice now j = .ok info) := by
  simp only [get, PaymentHistory.sdk]
  cases hfind : history.payments.find? fun p => p.hash = some info.paymentInfo.hash with
  | some p =>
      have hp := List.mem_of_find?_eq_some hfind
      have hhash : p.hash = some info.paymentInfo.hash := by simpa using List.find?_some hfind
      -- it is the only payment with the hash
      have honly : ∀ q ∈ history.payments, q.hash = some info.paymentInfo.hash → q = p := by
        intro q hq hqhash
        have hfound := PaymentHistory.find_hash history.uniqueHashes hq hqhash
        exact Option.some.inj (hfound.symm.trans hfind)
      constructor
      · intro h
        refine ⟨fun q hq hqhash => ?_, fun hnone => absurd hhash (hnone p hp)⟩
        obtain rfl := honly q hq hqhash
        exact ⟨pending_of_createdInvoice hi h, h⟩
      · intro h
        exact (h.1 p hp hhash).2
  | none =>
      have hnone : ∀ p ∈ history.payments, p.hash ≠ some info.paymentInfo.hash := by
        intro p hp
        simpa using List.find?_eq_none.mp hfind p hp
      have hvacuous : ∀ p ∈ history.payments, p.hash = some info.paymentInfo.hash →
          p.status = .pending ∧ self.activityFromBreezPayment p = .ok (.incomingPayment info) :=
        fun p hp hhash => absurd hhash (hnone p hp)
      rw [and_iff_right hvacuous, imp_iff_right hnone]
      dsimp only
      cases self.support.dataStore.retrieveCreatedInvoiceByHash info.paymentInfo.hash with
      | none => simp
      | some j =>
          cases hj : self.paymentFromCreatedInvoice now j with
          | error e => simp [hj, Except.map]
          | ok info' => simp [hj, Except.map]

end

/-! ## What list returns -/

/-- The hash of an invoice is recognised by a payment in the window that can be presented. -/
theorem overlooked_iff {self : Activities} {history : PaymentHistory} {n : UInt32}
    {hash : String} :
    self.Overlooked history n hash ↔
      hash ∉ (self.breezActivities (latestPayments history n)).filterMap Activity.hash := by
  simp only [List.mem_filterMap, mem_breezActivities, not_exists, not_and]
  constructor
  · rintro h a ⟨p, hp, ha⟩ hhash
    rw [hash_activityFromBreezPayment ha] at hhash
    rcases h p (List.mem_of_mem_take hp) hhash with hout | hnone
    · exact hout hp
    · rw [filterOutCorrupted_eq_some.mpr ha] at hnone
      cases hnone
  · intro h p _ hhash
    by_cases hp : p ∈ latestPayments history n
    · cases ha : self.activityFromBreezPayment p with
      | error e => exact .inr rfl
      | ok a =>
          rw [← hash_activityFromBreezPayment ha] at hhash
          exact absurd hhash (h a ⟨p, hp, ha⟩)
    · exact .inl hp

theorem overlookedInvoice_eq_some {self : Activities} {history : PaymentHistory}
    {now : SystemTime} {n : UInt32} {i : CreatedInvoice} {a : Activity} :
    self.overlookedInvoice history now n i = some a ↔ self.Overlooked history n i.hash ∧
      ∃ info, self.paymentFromCreatedInvoice now i = .ok info ∧ a = .incomingPayment info := by
  unfold overlookedInvoice
  by_cases h : self.Overlooked history n i.hash
  · rw [if_pos h, and_iff_right h, Option.map_eq_some_iff]
    refine exists_congr fun info => and_congr filterOutCorrupted_eq_some ?_
    exact eq_comm
  · simp [h]

/-- What is merged are the overlooked invoices and the payments in the window. -/
theorem merged_eq_overlooked (self : Activities) (history : PaymentHistory) (now : SystemTime)
    (createdInvoices : List CreatedInvoice) (n : UInt32) :
    self.merged history now createdInvoices n
      = self.overlookedInvoices history now n createdInvoices
        ++ self.breezActivities (latestPayments history n) := by
  have hwindow : history.window (listPaymentsRequest n) = latestPayments history n := rfl
  rw [merged, multiplexActivities, hwindow, overlookedInvoices, List.filterMap_filter]
  congr 1
  refine List.filterMap_congr fun i _ => ?_
  unfold overlookedInvoice
  by_cases h : self.Overlooked history n i.hash
  · rw [if_pos h, if_pos (decide_eq_true (overlooked_iff.mp h))]
  · rw [if_neg h, if_neg (by simpa using mt overlooked_iff.mpr h)]

/-- The activities with a hash in a response are the merged ones within the limits. -/
theorem listed_iff {self : Activities} {history : PaymentHistory} {now : SystemTime} {n : UInt32}
    {createdInvoices : List CreatedInvoice} {inProgress : Option SdkSwapInfo}
    {swap : Except String (Option SdkSwapInfo)} {response : ListActivitiesResponse}
    (hretrieve : self.support.dataStore.retrieveCreatedInvoices now n = .ok createdInvoices)
    (hswap : swap = .ok inProgress)
    (h : self.list (history.sdk swap) now n = .ok response) {a : Activity} {hash : String}
    (hhash : a.hash = some hash) :
    Listed response a ↔
      WithinLimits now (lookForPending createdInvoices) n.toNat
        (self.merged history now createdInvoices n) a := by
  obtain ⟨response', hlist, hlisted⟩ := list_ok self (history.sdk swap) rfl hretrieve hswap
  obtain rfl := Except.ok.inj (h.symm.trans hlist)
  -- the swap in progress has no hash
  have hno : a ∉ (inProgress.map self.swapActivity).toList := by
    intro hmem
    simp only [Option.mem_toList, Option.map_eq_some_iff] at hmem
    obtain ⟨s, -, rfl⟩ := hmem
    cases hhash
  exact (hlisted a).trans (or_iff_left hno)

/-- An activity is within the limits where few enough others precede it. -/
theorem withinLimits_iff_append {now : SystemTime} {limit n : Nat} {activities : List Activity}
    {a : Activity} :
    WithinLimits now limit n activities a ↔ ∃ before after, activities = before ++ a :: after ∧
      if a.isPending then
        Latest.rankBetween (Activity.getTime now) (fun _ => true) before after a < limit
      else Latest.rankBetween (Activity.getTime now) (!·.isPending) before after a < n := by
  unfold WithinLimits
  simp only [Latest.mem_zipIdx_iff_append]
  constructor
  · rintro ⟨i, ⟨before, after, rfl, rfl⟩, h⟩
    refine ⟨before, after, rfl, ?_⟩
    simpa only [Latest.rank_append_cons] using h
  · rintro ⟨before, after, rfl, h⟩
    refine ⟨before.length, ⟨before, after, rfl, rfl⟩, ?_⟩
    simpa only [Latest.rank_append_cons] using h

/-- An image between others is that of an entry between theirs. -/
theorem split_of_filterMap {α β : Type} {f : α → Option β} {l : List α} {b : β}
    {pre post : List β} (h : l.filterMap f = pre ++ b :: post) :
    ∃ before a after, l = before ++ a :: after ∧ pre = before.filterMap f ∧ f a = some b ∧
      post = after.filterMap f := by
  obtain ⟨front, rest, rfl, rfl, hrest⟩ := List.filterMap_eq_append_iff.mp h
  obtain ⟨skipped, a, after, rfl, hskipped, ha, rfl⟩ := List.filterMap_eq_cons_iff.mp hrest
  refine ⟨front ++ skipped, a, after, by rw [List.append_assoc], ?_, ha, rfl⟩
  rw [List.filterMap_append, List.filterMap_eq_nil_iff.mpr hskipped, List.append_nil]

/-- A merged activity within the limits is that of a payment in the window, or of an overlooked
invoice that is listed. -/
theorem withinLimits_merged_iff {self : Activities} {history : PaymentHistory}
    {now : SystemTime} {n : UInt32} {createdInvoices : List CreatedInvoice} {a : Activity}
    (hno : a ∉ self.breezActivities (latestPayments history n)) :
    WithinLimits now (lookForPending createdInvoices) n.toNat
        (self.merged history now createdInvoices n) a ↔
      ∃ before i after, createdInvoices = before ++ i :: after ∧
        self.Overlooked history n i.hash ∧
        (∃ info, self.paymentFromCreatedInvoice now i = .ok info ∧ a = .incomingPayment info) ∧
        self.IsListed history now n before i after a := by
  rw [withinLimits_iff_append, merged_eq_overlooked]
  constructor
  · rintro ⟨pre, post, hsplit, hlimit⟩
    rcases List.append_eq_append_iff.mp hsplit with ⟨l, -, hl⟩ | ⟨l, hl, hpost⟩
    -- the activity is that of a payment
    · exact absurd (hl ▸ List.mem_append_right l List.mem_cons_self) hno
    · cases l with
      | nil =>
          rw [List.nil_append] at hpost
          exact absurd (hpost ▸ List.mem_cons_self) hno
      | cons b l =>
          obtain ⟨rfl, rfl⟩ := List.cons.inj hpost
          obtain ⟨before, i, after, rfl, rfl, hi, rfl⟩ := split_of_filterMap hl
          obtain ⟨hover, hinfo⟩ := overlookedInvoice_eq_some.mp hi
          exact ⟨before, i, after, rfl, hover, hinfo, hlimit⟩
  · rintro ⟨before, i, after, rfl, hover, hinfo, hlisted⟩
    refine ⟨self.overlookedInvoices history now n before,
      self.overlookedInvoices history now n after
        ++ self.breezActivities (latestPayments history n), ?_, hlisted⟩
    rw [overlookedInvoices, List.filterMap_append, List.filterMap_cons_some
      (overlookedInvoice_eq_some.mpr ⟨hover, hinfo⟩), List.append_assoc]
    rfl

/-- **When list agrees with get**: the payment of each listed invoice whose payment is outside of
the window, or cannot be presented, is still pending and presented the same; and where the SDK has
no payment, the first invoice with the hash is presented the same. -/
theorem listAgreesWithGet_iff (self : Activities) (history : PaymentHistory)
    (swap : Except String (Option SdkSwapInfo)) (now : SystemTime) (n : UInt32) :
    self.ListAgreesWithGet (history.sdk swap) now n ↔
      ∀ before i after inProgress,
        self.support.dataStore.retrieveCreatedInvoices now n = .ok (before ++ i :: after) →
        swap = .ok inProgress →
        self.Overlooked history n i.hash →
        ∀ info, self.paymentFromCreatedInvoice now i = .ok info →
          self.IsListed history now n before i after (.incomingPayment info) →
          (∀ p ∈ history.payments, p.hash = some info.paymentInfo.hash →
            p.status = .pending ∧ self.activityFromBreezPayment p = .ok (.incomingPayment info)) ∧
          ((∀ p ∈ history.payments, p.hash ≠ some info.paymentInfo.hash) → ∃ j,
            self.support.dataStore.retrieveCreatedInvoiceByHash info.paymentInfo.hash = some j ∧
            self.paymentFromCreatedInvoice now j = .ok info) := by
  have hbreez : ∀ a ∈ self.breezActivities (latestPayments history n), ∀ hash,
      a.hash = some hash → self.get (history.sdk swap) now hash = .ok a := by
    intro a ha hash hhash
    obtain ⟨p, hp, hactivity⟩ := mem_breezActivities.mp ha
    exact get_of_breezPayment (List.mem_of_mem_take hp) hactivity hhash
  constructor
  · intro h before i after inProgress hretrieve hswap hover info hinfo hisListed
    apply (get_createdInvoice_iff hinfo).mp
    show self.get (history.sdk swap) now _ = _
    by_cases hmem : .incomingPayment info ∈ self.breezActivities (latestPayments history n)
    · exact hbreez _ hmem _ rfl
    · obtain ⟨response, hlist, -⟩ := list_ok self (history.sdk swap) rfl hretrieve hswap
      have hlimits := (withinLimits_merged_iff hmem).mpr
        ⟨before, i, after, rfl, hover, ⟨info, hinfo, rfl⟩, hisListed⟩
      exact h response hlist _ _ ((listed_iff hretrieve hswap hlist rfl).mpr hlimits) rfl
  · intro h response hlist a hash hlisted hhash
    obtain ⟨createdInvoices, inProgress, hretrieve, hswap, -⟩ := list_eq_ok.mp hlist
    by_cases hmem : a ∈ self.breezActivities (latestPayments history n)
    -- a payment in the window: `get` finds the same payment
    · exact hbreez a hmem hash hhash
    -- an invoice without a payment in the window
    · obtain ⟨before, i, after, rfl, hover, ⟨info, hinfo, rfl⟩, hisListed⟩ :=
        (withinLimits_merged_iff hmem).mp ((listed_iff hretrieve hswap hlist hhash).mp hlisted)
      obtain rfl : info.paymentInfo.hash = hash := by
        simpa [Activity.hash, Activity.getPaymentInfo] using hhash
      exact (get_createdInvoice_iff hinfo).mpr
        (h before i after inProgress hretrieve hswap hover info hinfo hisListed)

/-- An invoice is paid, and thirty payments are sent after it: its payment is no longer in the
window of a request for no completed activities, and the invoice is listed as pending. -/
theorem paid_invoice_listed_pending :
    ¬ ∀ (self : Activities) (history : PaymentHistory) (swap : Except String (Option SdkSwapInfo))
      (now : SystemTime) (n : UInt32), n.toNat + 30 < 2 ^ 32 →
      self.ListAgreesWithGet (history.sdk swap) now n := by
  intro h
  let env : Env := ⟨1700000000000000000, fun _ => false⟩
  let preferences : UserPreferences := ⟨"CHF", ⟨"Europe/Zurich", 60⟩⟩
  let invoice : LNInvoice := ⟨"lnbc1", "02aa", "f0", none, some 21000, 1700000000, 86400⟩
  let stored := ((DataStore.new .migrated none).storePaymentInfo env "f0" preferences [] none none
    none).2
  let dataStore := (stored.storeCreatedInvoice env "f0" "lnbc1" none 1700086400).2
  let self : Activities :=
    ⟨⟨preferences, ⟨[], none, none⟩, dataStore⟩, ⟨fun _ => .ok invoice, fun _ => .ok []⟩,
      "lipa.swiss"⟩
  let paid : Payment :=
    ⟨.received, 1700000060, 21000, 0, .complete,
      .ln ⟨"f0", "ab", "lnbc1", none, none, none, none, none, none⟩⟩
  let history : PaymentHistory :=
    ⟨PaymentHistory.thirtySent 1700003600 ++ [paid], by decide +kernel, by decide +kernel⟩
  let now : SystemTime := 1700007200000000000
  have hlisted : (self.list (history.sdk (.ok none)) now 0).toOption.any (fun response =>
      response.pendingActivities.any fun a => a.hash = some "f0" && a.isPending) = true := by
    decide +kernel
  have hgot : (self.get (history.sdk (.ok none)) now "f0").toOption.any Activity.isPending
      = false := by decide +kernel
  cases hlist : self.list (history.sdk (.ok none)) now 0 with
  | error e => simp [hlist, Except.toOption] at hlisted
  | ok response =>
      simp only [hlist, Except.toOption, Option.any_some, List.any_eq_true, Bool.and_eq_true,
        decide_eq_true_eq] at hlisted
      obtain ⟨a, ha, hhash, hpending⟩ := hlisted
      have hget := h self history (.ok none) now 0 (by decide) response hlist a "f0" (.inl ha) hhash
      simp [hget, Except.toOption, hpending] at hgot

/-- Where list agrees with get, a payment that is complete is not listed as created or expired. -/
theorem complete_listed_succeeded {self : Activities} {history : PaymentHistory}
    {swap : Except String (Option SdkSwapInfo)} {now : SystemTime} {n : UInt32}
    (h : self.ListAgreesWithGet (history.sdk swap) now n) {response : ListActivitiesResponse}
    (hlist : self.list (history.sdk swap) now n = .ok response) {p : Payment}
    (hp : p ∈ history.payments) (hcomplete : p.status = .complete) {info : IncomingPaymentInfo}
    (hhash : p.hash = some info.paymentInfo.hash)
    (hlisted : Listed response (.incomingPayment info)) :
    info.paymentInfo.paymentState = .succeeded := by
  have hget := h response hlist _ _ hlisted rfl
  have hfind := PaymentHistory.find_hash history.uniqueHashes hp hhash
  simp only [get, PaymentHistory.sdk, hfind] at hget
  rw [state_of_breezPayment hget, hcomplete]
  rfl

end Activities

end LipaLightning
