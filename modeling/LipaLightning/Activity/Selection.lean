import LipaLightning.Activity.Listing
import LipaLightning.CreatedInvoices

set_option autoImplicit false

/-! # The selection of a listing

`Activities::list` sorts the merged activities, takes them apart and puts them together again
(`activities.rs`). What it returns is the first completed ones of the sorted list, and the
pending ones among its first entries with the swap that is in progress. No payment hash is in
the response twice: an invoice is merged only if its payment is not, and it is stored under the
hash of its payment (`storedUnderOwnHash_run`).
-/

namespace LipaLightning

/-! ## The hash of a created invoice -/

/-- Every created invoice is stored under the hash it has. -/
def StoredUnderOwnHash (parsers : Parsers) (db : Db) : Prop :=
  ∀ row ∈ db.createdInvoices, ∃ invoice, parsers.parseInvoice row.invoice = .ok invoice ∧
    row.hash = integerAffinity invoice.paymentHash

/-- Every action of the library stores invoices under their own hash. -/
theorem storedUnderOwnHash_step {parsers : Parsers} {support : Support}
    (a : ParsedAction parsers) (h : StoredUnderOwnHash parsers support.dataStore.conn) :
    StoredUnderOwnHash parsers (a.step support).dataStore.conn := by
  intro row hrow
  have hrow : row ∈ (a.action.step support).dataStore.conn.createdInvoices := hrow
  rw [ParsedAction.createdInvoices_action] at hrow
  rcases List.mem_append.mp hrow with hrow | hrow
  · exact h row hrow
  · obtain ⟨call, hcall, hnew⟩ := List.mem_flatMap.mp hrow
    obtain ⟨invoice, -, hhash, hbolt11, hparses⟩ :=
      newRows_creates (calls_cases support a.action hcall) hnew
    rw [hbolt11]
    exact ⟨invoice, hparses parsers a.parses, hhash⟩

/-- In every state that a new wallet reaches, invoices are stored under their own hash. -/
theorem storedUnderOwnHash_run (parsers : Parsers) (userPreferences : UserPreferences)
    (taskManager : TaskManager) (backupFile : Option Db) (as : List (ParsedAction parsers)) :
    StoredUnderOwnHash parsers
      (Runs.run ParsedAction.step (newWallet userPreferences taskManager backupFile)
        as).dataStore.conn := by
  have hinvariant : ∀ (as : List (ParsedAction parsers)) (support : Support),
      StoredUnderOwnHash parsers support.dataStore.conn →
      StoredUnderOwnHash parsers (Runs.run ParsedAction.step support as).dataStore.conn := by
    intro as
    induction as with
    | nil => exact fun support h => h
    | cons a as ih => exact fun support h => ih _ (storedUnderOwnHash_step a h)
  exact hinvariant as _ (fun row hrow => nomatch hrow)

namespace Activities

variable {self : Activities} {now : SystemTime}

/-- The hash of a retrieved invoice is that of its activity. -/
theorem hash_retrieved {n : UInt32} {createdInvoices : List CreatedInvoice}
    (hstored : StoredUnderOwnHash self.parsers self.support.dataStore.conn)
    (hretrieved : self.support.dataStore.retrieveCreatedInvoices now n = .ok createdInvoices)
    {i : CreatedInvoice} (hi : i ∈ createdInvoices) {info : IncomingPaymentInfo}
    (hinfo : self.paymentFromCreatedInvoice now i = .ok info) : info.paymentInfo.hash = i.hash := by
  obtain ⟨row, hrow, hfrom⟩ := retrieveCreatedInvoices_mem hretrieved hi
  obtain ⟨invoice, hparse, hhash⟩ := hstored row hrow
  obtain ⟨invoice', hparse', hinfoHash⟩ := hash_paymentFromCreatedInvoice hinfo
  rw [createdInvoiceFromRow_invoice hfrom] at hparse'
  obtain rfl := Except.ok.inj (hparse.symm.trans hparse')
  have htext : (integerAffinity invoice.paymentHash).asText = some i.hash := by
    unfold DataStore.createdInvoiceFromRow at hfrom
    rw [← hhash]
    split at hfrom
    · rename_i hash htext
      obtain rfl := Except.ok.inj hfrom
      exact htext
    · cases hfrom
  rw [hinfoHash, (asText_integerAffinity htext).2]

/-! ## Distinct hashes -/

/-- The hashes of activities, of those that have one. -/
def hashes (activities : List Activity) : List String := activities.filterMap Activity.hash

theorem hashes_breezActivities_sublist (payments : List Payment) :
    (hashes (self.breezActivities payments)).Sublist (payments.filterMap Payment.hash) := by
  induction payments with
  | nil => exact .slnil
  | cons p payments ih =>
      have hcons : self.breezActivities (p :: payments)
          = (filterOutCorrupted (self.activityFromBreezPayment p)).toList
            ++ self.breezActivities payments := by
        unfold breezActivities
        rw [List.filterMap_cons]
        cases filterOutCorrupted (self.activityFromBreezPayment p) <;> rfl
      have htail : (p :: payments).filterMap Payment.hash
          = p.hash.toList ++ payments.filterMap Payment.hash := by
        rw [List.filterMap_cons]
        cases p.hash <;> rfl
      rw [hcons, htail, hashes, List.filterMap_append]
      refine List.Sublist.append ?_ ih
      cases ha : self.activityFromBreezPayment p with
      | error e => exact List.nil_sublist _
      | ok a =>
          show ([a].filterMap Activity.hash).Sublist _
          rw [← hash_activityFromBreezPayment ha]
          cases ha : a.hash <;> simp [ha]

/-- The activities of the invoices have the hashes these are stored under. -/
theorem hashes_createdInvoices_sublist (self : Activities) (now : SystemTime)
    {createdInvoices : List CreatedInvoice}
    (hhash : ∀ i ∈ createdInvoices, ∀ info, self.paymentFromCreatedInvoice now i = .ok info →
      info.paymentInfo.hash = i.hash) :
    (hashes (createdInvoices.filterMap fun i =>
        (filterOutCorrupted (self.paymentFromCreatedInvoice now i)).map .incomingPayment)).Sublist
      (createdInvoices.map CreatedInvoice.hash) := by
  induction createdInvoices with
  | nil => exact .slnil
  | cons i createdInvoices ih =>
      have ih := ih fun j hj => hhash j (List.mem_cons_of_mem i hj)
      rw [List.map_cons, List.filterMap_cons]
      cases hinfo : self.paymentFromCreatedInvoice now i with
      | error e => exact ih.cons i.hash
      | ok info =>
          have hi := hhash i List.mem_cons_self info hinfo
          show (info.paymentInfo.hash :: hashes _).Sublist _
          rw [hi]
          exact ih.cons_cons i.hash

/-- The merged activities have distinct hashes if the payments and the invoices do. -/
theorem nodup_hashes_multiplexActivities {payments : List Payment}
    {createdInvoices : List CreatedInvoice}
    (hpayments : (payments.filterMap Payment.hash).Nodup)
    (hcreated : (createdInvoices.map CreatedInvoice.hash).Nodup)
    (hhash : ∀ i ∈ createdInvoices, ∀ info, self.paymentFromCreatedInvoice now i = .ok info →
      info.paymentInfo.hash = i.hash) :
    (hashes (self.multiplexActivities now (self.breezActivities payments)
      createdInvoices)).Nodup := by
  unfold multiplexActivities
  dsimp only
  have hunpaid : (createdInvoices.filter fun i =>
      i.hash ∉ (self.breezActivities payments).filterMap Activity.hash).Sublist createdInvoices :=
    List.filter_sublist
  have hsublist := hashes_createdInvoices_sublist self now
    fun i hi => hhash i (hunpaid.subset hi)
  rw [hashes, List.filterMap_append, List.nodup_append]
  refine ⟨(hcreated.sublist (hunpaid.map _)).sublist hsublist,
    hpayments.sublist (hashes_breezActivities_sublist payments), ?_⟩
  -- an invoice whose hash a payment has is not merged
  rintro hash hleft hash' hright rfl
  obtain ⟨i, hi, rfl⟩ := List.mem_map.mp (hsublist.subset hleft)
  exact absurd hright (of_decide_eq_true (List.mem_filter.mp hi).2)

/-- What is selected of the activities has distinct hashes if they do. -/
theorem nodup_hashes_selected {activities : List Activity} (h : (hashes activities).Nodup)
    (k n : ℕ) :
    (hashes ((activities.take k).filter Activity.isPending
      ++ (activities.filter (!·.isPending)).take n)).Nodup := by
  have hperm : (activities.filter Activity.isPending
      ++ activities.filter (!·.isPending)).Perm activities :=
    List.filter_append_perm _ activities
  have hsublist : ((activities.take k).filter Activity.isPending
      ++ (activities.filter (!·.isPending)).take n).Sublist
        (activities.filter Activity.isPending ++ activities.filter (!·.isPending)) :=
    ((List.take_sublist k activities).filter _).append (List.take_sublist n _)
  have hall : (hashes (activities.filter Activity.isPending
      ++ activities.filter (!·.isPending))).Nodup :=
    (hperm.filterMap Activity.hash).nodup_iff.mpr h
  exact hall.sublist (hsublist.filterMap _)

/-! ## The response -/

/-- The response selects from the merged activities, sorted by descending time: the first `n`
completed ones, and the pending ones among the first `30 + c` with the swap in progress. -/
structure Selects (now : SystemTime) (merged : List Activity) (c n : ℕ) (swap : Option Activity)
    (response : ListActivitiesResponse) : Prop where
  sorted : (sortByTime now merged).Perm merged ∧
    (sortByTime now merged).Pairwise fun a b => b.getTime now ≤ a.getTime now
  completed : response.completedActivities
    = ((sortByTime now merged).filter (!·.isPending)).take n
  pending : response.pendingActivities.Perm
    (((sortByTime now merged).take (30 + c)).filter Activity.isPending ++ swap.toList)
  completedOrder : response.completedActivities.Pairwise fun a b => b.getTime now ≤ a.getTime now
  pendingOrder : response.pendingActivities.Pairwise fun a b => b.getTime now ≤ a.getTime now

theorem selects_select (now : SystemTime) (merged : List Activity) (c n : ℕ)
    (swap : Option Activity) :
    Selects now merged c n swap
      { pendingActivities :=
          sortByTime now ((select (30 + c) n (sortByTime now merged)).1 ++ swap.toList)
        completedActivities := (select (30 + c) n (sortByTime now merged)).2 } where
  sorted := ⟨List.perm_insertionSort _ _, Latest.pairwise_latestFirst merged⟩
  completed := select_snd _ _ _
  pending := by
    show (sortByTime now _).Perm _
    rw [select_fst]
    exact List.perm_insertionSort _ _
  completedOrder := by
    show (select _ _ _).2.Pairwise _
    rw [select_snd]
    exact ((Latest.pairwise_latestFirst merged).filter _).sublist (List.take_sublist n _)
  pendingOrder := Latest.pairwise_latestFirst _

/-- The swap in progress has no payment and so no hash. -/
theorem hashes_swapActivity (swap : Option SdkSwapInfo) :
    hashes (swap.map self.swapActivity).toList = [] := by
  cases swap <;> rfl

/-- **What a listing selects.** For every answer of the SDK and of the db the response is the
first completed activities of the sorted list, and the pending ones among its first entries with
the swap in progress, both in descending order of time. If the payments and the created invoices
have distinct hashes, no hash is in the response twice. -/
theorem list_selects (self : Activities) (sdk : PaymentsSdk) (now : SystemTime) (n : UInt32)
    (payments : List Payment) (createdInvoices : List CreatedInvoice) (swap : Option SdkSwapInfo)
    (hpayments : sdk.listPayments (listPaymentsRequest n) = .ok payments)
    (hcreated : self.support.dataStore.retrieveCreatedInvoices now n = .ok createdInvoices)
    (hswap : sdk.inProgressSwap = .ok swap) :
    ∃ response, self.list sdk now n = .ok response ∧
      Selects now
        (self.multiplexActivities now (self.breezActivities payments) createdInvoices)
        createdInvoices.length n.toNat (swap.map self.swapActivity) response ∧
      (StoredUnderOwnHash self.parsers self.support.dataStore.conn →
        (payments.filterMap Payment.hash).Nodup →
        (createdInvoices.map CreatedInvoice.hash).Nodup →
        (hashes (response.pendingActivities ++ response.completedActivities)).Nodup) := by
  have hselects := selects_select now
    (self.multiplexActivities now (self.breezActivities payments) createdInvoices)
    createdInvoices.length n.toNat (swap.map self.swapActivity)
  refine ⟨_, ?_, hselects, ?_⟩
  · unfold list
    rw [hpayments, hcreated, hswap]
    rfl
  · intro hstored hdistinct hdistinct'
    have hmerged := nodup_hashes_multiplexActivities hdistinct hdistinct'
      fun i hi info hinfo => hash_retrieved hstored hcreated hi hinfo
    have hsorted := (hselects.sorted.1.filterMap Activity.hash).nodup_iff.mpr hmerged
    have hselected := nodup_hashes_selected hsorted (30 + createdInvoices.length) n.toNat
    -- the swap that is added has no hash
    have hpending := hselects.pending.filterMap Activity.hash
    rw [List.filterMap_append] at hpending
    have hnone : (swap.map self.swapActivity).toList.filterMap Activity.hash = [] :=
      hashes_swapActivity swap
    rw [hnone, List.append_nil] at hpending
    rw [hashes, List.filterMap_append] at hselected ⊢
    rw [hselects.completed]
    exact (hpending.append_right _).nodup_iff.mpr hselected

/-- A wallet with an invoice that is not paid. -/
def unpaidWallet : Activities where
  support :=
    { userPreferences := ⟨"CHF", ⟨"Europe/Zurich", 60⟩⟩
      taskManager := ⟨[], none, none⟩
      dataStore := { DataStore.new .migrated none with
        conn := { Db.migrated with
          createdInvoices := [⟨integerAffinity "f0", "lnbc1", none, 1700086400⟩] } } }
  parsers :=
    ⟨fun _ => .ok ⟨"lnbc1", "02aa", "f0", none, some 21000, 1700000000, 86400⟩, fun _ => .ok []⟩
  lipaLightningDomain := "lipa.swiss"

/-- Its SDK knows a payment that was sent and a swap. -/
def swappingSdk : PaymentsSdk where
  listPayments := fun _ => .ok ((PaymentHistory.thirtySent 1700003600).take 1)
  paymentByHash := fun _ => .ok none
  inProgressSwap := .ok (some ⟨"bc1qswap", 1700000000, 0, 50000, 0⟩)

theorem list_selects_unpaid :
    ∃ response, unpaidWallet.list swappingSdk 1700007200000000000 1 = .ok response ∧
      (hashes (response.pendingActivities ++ response.completedActivities)).Nodup := by
  have hcreated : unpaidWallet.support.dataStore.retrieveCreatedInvoices 1700007200000000000 1
      = .ok [⟨"f0", "lnbc1", none⟩] := by decide +kernel
  have hstored :
      StoredUnderOwnHash unpaidWallet.parsers unpaidWallet.support.dataStore.conn := by
    intro row hrow
    rw [List.mem_singleton.mp hrow]
    exact ⟨_, rfl, rfl⟩
  obtain ⟨response, hlist, -, hnodup⟩ := list_selects unpaidWallet swappingSdk
    1700007200000000000 1 _ _ _ rfl hcreated rfl
  exact ⟨response, hlist, hnodup hstored (by decide) (by decide)⟩

end Activities

end LipaLightning
