import LipaLightning.Activity.Listing

set_option autoImplicit false

/-! # Lists of different length

A request for more completed activities reads more payments and more expired invoices, and it
looks for pending activities among more of the latest ones. When the longer list agrees with the
shorter one nevertheless.
-/

namespace LipaLightning

/-- Where an activity is read from: an invoice that was created, or the payment at a position of
the history. -/
inductive Source where
  | invoice (createdInvoice : CreatedInvoice)
  | payment (position : Nat)
  deriving DecidableEq

/-- A request for completed activities and the created invoices that are retrieved for it. -/
structure Reading where
  numberOfCompletedActivities : UInt32
  createdInvoices : List CreatedInvoice

namespace Activities

/-- The longer list is an extension of the shorter one: it has the same pending activities, and
further completed ones. -/
def ListStable (self : Activities) (sdk : PaymentsSdk) (now : SystemTime) (n m : UInt32) : Prop :=
  ∀ shorter longer, self.list sdk now n = .ok shorter → self.list sdk now m = .ok longer →
    shorter.pendingActivities = longer.pendingActivities ∧
      shorter.completedActivities <+: longer.completedActivities

/-! ## What a request reads -/

/-- The activities of the invoices and of the history, each with where it is read from. -/
def candidates (self : Activities) (history : PaymentHistory) (now : SystemTime)
    (createdInvoices : List CreatedInvoice) : List (Source × Activity) :=
  (createdInvoices.filterMap fun i =>
    (filterOutCorrupted (self.paymentFromCreatedInvoice now i)).map fun info =>
      (.invoice i, .incomingPayment info))
  ++ history.payments.zipIdx.filterMap fun p =>
    (filterOutCorrupted (self.activityFromBreezPayment p.1)).map fun a => (.payment p.2, a)

/-- The request reads from the source: from the invoices it retrieves that it finds no payment
for, and from the payments in its window. -/
def reads (self : Activities) (history : PaymentHistory) (reading : Reading)
    (candidate : Source × Activity) : Bool :=
  let request := listPaymentsRequest reading.numberOfCompletedActivities
  match candidate.1 with
  | .invoice i => i ∈ reading.createdInvoices &&
      decide (i.hash ∉ (self.breezActivities (history.window request)).filterMap Activity.hash)
  | .payment position => position < (history.window request).length

def readsCompleted (self : Activities) (history : PaymentHistory) (reading : Reading)
    (candidate : Source × Activity) : Bool :=
  self.reads history reading candidate && !candidate.2.isPending

/-- The time a candidate is listed under. -/
def candidateTime (now : SystemTime) (candidate : Source × Activity) : SystemTime :=
  candidate.2.getTime now

theorem zipIdx_take {α : Type} (l : List α) (k : Nat) :
    l.zipIdx.filter (fun p => p.2 < k) = (l.take k).zipIdx := by
  -- the positions of the first `k` are below `k`, those of the others are not
  have hlt : ∀ p ∈ (l.take k).zipIdx, decide (p.2 < k) = true := by
    intro p hp
    have := (List.mem_zipIdx hp).2.1
    rw [List.length_take] at this
    simp
    omega
  have hge : ∀ p ∈ (l.drop k).zipIdx (l.take k).length, ¬ decide (p.2 < k) = true := by
    intro p hp
    have hlen := (List.mem_zipIdx hp).2.1
    have := (List.mem_zipIdx hp).1
    rw [List.length_take] at this hlen
    rw [List.length_drop] at hlen
    simp
    omega
  conv_lhs => rw [← List.take_append_drop k l]
  rw [List.zipIdx_append, List.filter_append, List.filter_eq_self.mpr hlt, Nat.zero_add,
    List.filter_eq_nil_iff.mpr hge, List.append_nil]

theorem window_eq_take (history : PaymentHistory) (request : ListPaymentsRequest) :
    history.window request = history.payments.take (history.window request).length := by
  unfold PaymentHistory.window
  split
  · rw [List.length_take, ← List.take_eq_take_min]
  · rw [List.take_length]

/-- What is merged for a request are the candidates it reads. -/
theorem merged_eq {self : Activities} {history : PaymentHistory} {now : SystemTime}
    {reading : Reading} {createdInvoices : List CreatedInvoice}
    (h : reading.createdInvoices = createdInvoices.filter (· ∈ reading.createdInvoices)) :
    self.merged history now reading.createdInvoices reading.numberOfCompletedActivities
      = ((self.candidates history now createdInvoices).filter (self.reads history reading)).map
        Prod.snd := by
  let request := listPaymentsRequest reading.numberOfCompletedActivities
  have hbreez : ((history.payments.zipIdx.filterMap fun p =>
      (filterOutCorrupted (self.activityFromBreezPayment p.1)).map fun a =>
        ((.payment p.2, a) : Source × Activity)).filter (self.reads history reading)).map Prod.snd
      = self.breezActivities (history.window request) := by
    -- the window consists of the payments at its positions
    have hzip : (history.payments.zipIdx.filter fun p =>
        p.2 < (history.window request).length).map Prod.fst = history.window request := by
      rw [zipIdx_take, List.zipIdx_map_fst, ← window_eq_take]
    conv_rhs => rw [← hzip]
    rw [breezActivities, List.filter_filterMap, List.map_filterMap, List.filterMap_map,
      List.filterMap_filter]
    refine List.filterMap_congr fun p _ => ?_
    cases hp : filterOutCorrupted (self.activityFromBreezPayment p.1) <;>
      by_cases hwindow : p.2 < (history.window request).length <;>
      simp [hp, hwindow, reads, request]
  have hlocal : ((createdInvoices.filterMap fun i =>
      (filterOutCorrupted (self.paymentFromCreatedInvoice now i)).map fun info =>
        ((.invoice i, .incomingPayment info) : Source × Activity)).filter
          (self.reads history reading)).map Prod.snd
      = (reading.createdInvoices.filter fun i => i.hash ∉ (self.breezActivities
          (history.window request)).filterMap Activity.hash).filterMap fun i =>
        (filterOutCorrupted (self.paymentFromCreatedInvoice now i)).map .incomingPayment := by
    -- the retrieved invoices are selected from the larger list of invoices
    conv_rhs => rw [h]
    rw [List.filter_filterMap, List.map_filterMap, List.filter_filter, List.filterMap_filter]
    refine List.filterMap_congr fun i _ => ?_
    cases hi : filterOutCorrupted (self.paymentFromCreatedInvoice now i) with
    | none => simp
    | some info =>
        by_cases hmem : i ∈ reading.createdInvoices <;>
          by_cases hhash : i.hash ∈ (self.breezActivities (history.window request)).filterMap
            Activity.hash <;>
          simp [Option.filter, reads, hmem, hhash, request]
  rw [candidates, List.filter_append, List.map_append, hlocal, hbreez]
  rfl

/-! ## What is shown -/

section

variable (self : Activities) (history : PaymentHistory) (now : SystemTime)
  (createdInvoices : List CreatedInvoice) (reading : Reading)

/-- The candidates, the latest first. -/
def sortedCandidates : List (Source × Activity) :=
  Latest.latestFirst (candidateTime now) (self.candidates history now createdInvoices)

def shownPending : List (Source × Activity) :=
  (((self.sortedCandidates history now createdInvoices).filter (self.reads history reading)).take
    (lookForPending reading.createdInvoices)).filter (·.2.isPending)

def shownCompleted : List (Source × Activity) :=
  ((self.sortedCandidates history now createdInvoices).filter
    (self.readsCompleted history reading)).take reading.numberOfCompletedActivities.toNat

end

/-- The activities that are selected for a request are those of the candidates it shows. -/
theorem select_eq (self : Activities) (history : PaymentHistory) (now : SystemTime)
    (reading : Reading) {createdInvoices : List CreatedInvoice}
    (h : reading.createdInvoices = createdInvoices.filter (· ∈ reading.createdInvoices)) :
    select (lookForPending reading.createdInvoices) reading.numberOfCompletedActivities.toNat
        (sortByTime now
          (self.merged history now reading.createdInvoices reading.numberOfCompletedActivities))
      = ((self.shownPending history now createdInvoices reading).map Prod.snd,
        (self.shownCompleted history now createdInvoices reading).map Prod.snd) := by
  have hsorted : sortByTime now
      (self.merged history now reading.createdInvoices reading.numberOfCompletedActivities)
      = ((self.sortedCandidates history now createdInvoices).filter
          (self.reads history reading)).map Prod.snd := by
    rw [merged_eq h, sortByTime, Latest.latestFirst_map, sortedCandidates,
      Latest.filter_latestFirst]
    rfl
  rw [hsorted]
  refine Prod.ext ?_ ?_
  · rw [select_fst, ← List.map_take, List.filter_map]
    rfl
  · rw [select_snd, List.filter_map, List.filter_filter, ← List.map_take]
    have hcompleted : self.readsCompleted history reading
        = fun c => ((!·.isPending) ∘ Prod.snd) c && self.reads history reading c :=
      funext fun _ => Bool.and_comm _ _
    rw [shownCompleted, hcompleted]

/-! ## The swap in progress -/

/-- Neither an invoice nor a payment is shown as the swap that is in progress. -/
theorem ne_swapActivity {self : Activities} {history : PaymentHistory} {now : SystemTime}
    {createdInvoices : List CreatedInvoice} {c : Source × Activity}
    (hc : c ∈ self.candidates history now createdInvoices) (swap : SdkSwapInfo) :
    c.2 ≠ self.swapActivity swap := by
  rcases List.mem_append.mp hc with hc | hc
  · obtain ⟨i, -, hi⟩ := List.mem_filterMap.mp hc
    obtain ⟨info, -, rfl⟩ := Option.map_eq_some_iff.mp hi
    exact fun h => nomatch h
  · obtain ⟨p, -, hp⟩ := List.mem_filterMap.mp hc
    obtain ⟨a, ha, rfl⟩ := Option.map_eq_some_iff.mp hp
    rw [filterOutCorrupted_eq_some] at ha
    -- the swap in progress has no payment yet, unlike the swap of a payment
    cases presentedAs ha <;> exact fun h => nomatch h

/-- The pending activities of a response. -/
def withSwap (self : Activities) (now : SystemTime) (pending : List (Source × Activity))
    (swap : Option SdkSwapInfo) : List Activity :=
  sortByTime now (pending.map Prod.snd ++ (swap.map self.swapActivity).toList)

/-- The swap that is in progress can be told from the other pending activities. -/
theorem withSwap_inj {self : Activities} {history : PaymentHistory} {now : SystemTime}
    {createdInvoices : List CreatedInvoice} {r r' : Reading} {swap : Option SdkSwapInfo} :
    self.withSwap now (self.shownPending history now createdInvoices r) swap
        = self.withSwap now (self.shownPending history now createdInvoices r') swap ↔
      (self.shownPending history now createdInvoices r).map Prod.snd
        = (self.shownPending history now createdInvoices r').map Prod.snd := by
  let keep (a : Activity) : Bool := decide (a ∉ swap.map self.swapActivity)
  -- without the swap, the response is the sorted list that was selected
  have hkeep (r : Reading) :
      (self.withSwap now (self.shownPending history now createdInvoices r) swap).filter keep
        = (self.shownPending history now createdInvoices r).map Prod.snd := by
    have hsub : (self.shownPending history now createdInvoices r).Sublist
        (self.sortedCandidates history now createdInvoices) :=
      List.filter_sublist.trans ((List.take_sublist _ _).trans List.filter_sublist)
    have hall : ∀ a ∈ (self.shownPending history now createdInvoices r).map Prod.snd,
        keep a = true := by
      intro a ha
      obtain ⟨c, hc, rfl⟩ := List.mem_map.mp ha
      have hcandidate := Latest.mem_latestFirst.mp (hsub.subset hc)
      simp only [keep, decide_eq_true_eq, Option.mem_def, Option.map_eq_some_iff]
      rintro ⟨s, -, hs⟩
      exact ne_swapActivity hcandidate s hs.symm
    have hnone : (swap.map self.swapActivity).toList.filter keep = [] := by
      rw [List.filter_eq_nil_iff]
      intro a ha
      simpa [keep] using ha
    have hsorted : (self.shownPending history now createdInvoices r).Pairwise fun a b =>
        candidateTime now b ≤ candidateTime now a :=
      (Latest.pairwise_latestFirst _).sublist hsub
    rw [withSwap, sortByTime, Latest.filter_latestFirst, List.filter_append, hnone,
      List.append_nil, List.filter_eq_self.mpr hall, Latest.latestFirst_map]
    congr 1
    exact List.Pairwise.insertionSort_eq hsorted
  constructor
  · intro h
    rw [← hkeep r, ← hkeep r', h]
  · intro h
    rw [withSwap, withSwap, h]

/-! ## What a longer request displaces -/

section

variable (self : Activities) (history : PaymentHistory) (now : SystemTime)
  (createdInvoices : List CreatedInvoice) (reading : Reading) (u : (Source × Activity) × Nat)

/-- How many activities that the request reads are listed before the one at a position. -/
def preceding : Nat :=
  Latest.rank (candidateTime now) (self.reads history reading)
    (self.candidates history now createdInvoices) u

def precedingCompleted : Nat :=
  Latest.rank (candidateTime now) (self.readsCompleted history reading)
    (self.candidates history now createdInvoices) u

end

/-- What only one of two requests reads lies outside of what it shows, and it moves no pending
activity that both read across the limit. -/
structure NoneDisplaced (activities : Activities) (history : PaymentHistory) (now : SystemTime)
    (shorter longer : Reading) : Prop where
  shorterPending : ∀ u ∈ (activities.candidates history now longer.createdInvoices).zipIdx,
    u.1.2.isPending = true → activities.reads history shorter u.1 = true →
    activities.reads history longer u.1 = false →
    lookForPending shorter.createdInvoices
      ≤ activities.preceding history now longer.createdInvoices shorter u
  longerPending : ∀ u ∈ (activities.candidates history now longer.createdInvoices).zipIdx,
    u.1.2.isPending = true → activities.reads history longer u.1 = true →
    activities.reads history shorter u.1 = false →
    lookForPending longer.createdInvoices
      ≤ activities.preceding history now longer.createdInvoices longer u
  bothPending : ∀ u ∈ (activities.candidates history now longer.createdInvoices).zipIdx,
    u.1.2.isPending = true → activities.reads history shorter u.1 = true →
    activities.reads history longer u.1 = true →
    (activities.preceding history now longer.createdInvoices shorter u
        < lookForPending shorter.createdInvoices ↔
      activities.preceding history now longer.createdInvoices longer u
        < lookForPending longer.createdInvoices)
  shorterCompleted : ∀ u ∈ (activities.candidates history now longer.createdInvoices).zipIdx,
    u.1.2.isPending = false → activities.reads history shorter u.1 = true →
    activities.reads history longer u.1 = false →
    shorter.numberOfCompletedActivities.toNat
      ≤ activities.precedingCompleted history now longer.createdInvoices shorter u
  longerCompleted : ∀ u ∈ (activities.candidates history now longer.createdInvoices).zipIdx,
    u.1.2.isPending = false → activities.reads history longer u.1 = true →
    activities.reads history shorter u.1 = false →
    min shorter.numberOfCompletedActivities.toNat
        ((activities.candidates history now longer.createdInvoices).countP
          (activities.readsCompleted history shorter))
      ≤ activities.precedingCompleted history now longer.createdInvoices longer u

/-- No two activities that one of two requests reads are the same. -/
def Distinct (self : Activities) (history : PaymentHistory) (now : SystemTime)
    (shorter longer : Reading) : Prop :=
  (((self.candidates history now longer.createdInvoices).filter fun c =>
    self.reads history shorter c || self.reads history longer c).map Prod.snd).Nodup

/-- The longer response extends the shorter one. -/
def ShownStable (self : Activities) (history : PaymentHistory) (now : SystemTime)
    (shorter longer : Reading) : Prop :=
  (self.shownPending history now longer.createdInvoices shorter).map Prod.snd
      = (self.shownPending history now longer.createdInvoices longer).map Prod.snd ∧
    (self.shownCompleted history now longer.createdInvoices shorter).map Prod.snd
      <+: (self.shownCompleted history now longer.createdInvoices longer).map Prod.snd

section

variable {self : Activities} {history : PaymentHistory} {now : SystemTime}
  {shorter longer : Reading}

theorem reads_of_readsCompleted {reading : Reading} {c : Source × Activity} :
    self.readsCompleted history reading c = true ↔
      self.reads history reading c = true ∧ c.2.isPending = false := by
  simp [readsCompleted]

theorem length_completed (createdInvoices : List CreatedInvoice) (reading : Reading) :
    ((self.sortedCandidates history now createdInvoices).filter
      (self.readsCompleted history reading)).length
      = (self.candidates history now createdInvoices).countP
        (self.readsCompleted history reading) := by
  rw [sortedCandidates, ← List.countP_eq_length_filter]
  exact (List.perm_insertionSort _ _).countP_eq _

theorem shownPending_eq (h : self.NoneDisplaced history now shorter longer) :
    self.shownPending history now longer.createdInvoices shorter
      = self.shownPending history now longer.createdInvoices longer := by
  refine Latest.filter_take_congr fun u hu hpending => ?_
  cases hs : self.reads history shorter u.1 with
  | false =>
      cases hl : self.reads history longer u.1 with
      | false => simp
      | true =>
          have := h.longerPending u hu hpending hl hs
          simpa [preceding] using this
  | true =>
      cases hl : self.reads history longer u.1 with
      | false =>
          have := h.shorterPending u hu hpending hs hl
          simpa [preceding] using this
      | true =>
          have := h.bothPending u hu hpending hs hl
          simpa [preceding] using this

theorem shownCompleted_extends (h : self.NoneDisplaced history now shorter longer)
    (hle : shorter.numberOfCompletedActivities ≤ longer.numberOfCompletedActivities) :
    self.shownCompleted history now longer.createdInvoices shorter
      <+: self.shownCompleted history now longer.createdInvoices longer := by
  let cands := self.candidates history now longer.createdInvoices
  let k := min shorter.numberOfCompletedActivities.toNat
    (cands.countP (self.readsCompleted history shorter))
  -- as many completed activities as the shorter response has
  have hsame : ((self.sortedCandidates history now longer.createdInvoices).filter
      (self.readsCompleted history shorter)).take k
      = ((self.sortedCandidates history now longer.createdInvoices).filter
        (self.readsCompleted history longer)).take k := by
    refine Latest.take_filter_congr (fun u hu hs hl => ?_) fun u hu hl hs => ?_
    · obtain ⟨hs, hpending⟩ := reads_of_readsCompleted.mp hs
      have := h.shorterCompleted u hu hpending hs (by simpa [readsCompleted, hpending] using hl)
      exact le_trans (min_le_left _ _) this
    · obtain ⟨hl, hpending⟩ := reads_of_readsCompleted.mp hl
      exact h.longerCompleted u hu hpending hl (by simpa [readsCompleted, hpending] using hs)
  have hk : k ≤ longer.numberOfCompletedActivities.toNat :=
    le_trans (min_le_left _ _) (UInt32.le_iff_toNat_le.mp hle)
  rw [shownCompleted, List.take_eq_take_min, length_completed, hsame]
  exact List.take_prefix_take_left hk

/-- Where no two activities are the same, an activity that both requests show is one that both
read. -/
theorem reads_of_shown (hdistinct : self.Distinct history now shorter longer)
    {u : (Source × Activity) × Nat}
    (hu : u ∈ (self.candidates history now longer.createdInvoices).zipIdx)
    (hread : self.reads history shorter u.1 = true ∨ self.reads history longer u.1 = true)
    {q : Source × Activity → Bool}
    (hq : ∀ c, q c = true → self.reads history shorter c = true ∨
      self.reads history longer c = true) {k : Nat}
    (hmem : u.1.2 ∈ (((self.sortedCandidates history now longer.createdInvoices).filter q).take
      k).map Prod.snd) :
    q u.1 = true ∧ Latest.rank (candidateTime now) q
      (self.candidates history now longer.createdInvoices) u < k := by
  obtain ⟨c, hc, hact⟩ := List.mem_map.mp hmem
  obtain ⟨hqc, i, hi, hrank⟩ := Latest.mem_take_filter_latestFirst.mp hc
  obtain rfl : u = (c, i) := Latest.eq_of_nodup_map hdistinct hu hi (by simpa using hread)
    (by simpa using hq c hqc) hact.symm
  exact ⟨hqc, hrank⟩

theorem shown_of_reads {u : (Source × Activity) × Nat}
    (hu : u ∈ (self.candidates history now longer.createdInvoices).zipIdx)
    {q : Source × Activity → Bool} (hq : q u.1 = true) {k : Nat}
    (hrank : Latest.rank (candidateTime now) q
      (self.candidates history now longer.createdInvoices) u < k) :
    u.1.2 ∈ (((self.sortedCandidates history now longer.createdInvoices).filter q).take k).map
      Prod.snd :=
  List.mem_map_of_mem (Latest.mem_take_filter_latestFirst.mpr ⟨hq, u.2, hu, hrank⟩)

/-- A pending activity is within the limits of a request exactly if it is within those of the
other one. -/
theorem pending_within_iff (hdistinct : self.Distinct history now shorter longer)
    (h : (self.shownPending history now longer.createdInvoices shorter).map Prod.snd
      = (self.shownPending history now longer.createdInvoices longer).map Prod.snd)
    {u : (Source × Activity) × Nat}
    (hu : u ∈ (self.candidates history now longer.createdInvoices).zipIdx)
    (hpending : u.1.2.isPending = true) :
    self.reads history shorter u.1 = true ∧
        self.preceding history now longer.createdInvoices shorter u
          < lookForPending shorter.createdInvoices ↔
      self.reads history longer u.1 = true ∧
        self.preceding history now longer.createdInvoices longer u
          < lookForPending longer.createdInvoices := by
  have hshown (q : Source × Activity → Bool) (k : Nat) :
      u.1.2 ∈ ((((self.sortedCandidates history now longer.createdInvoices).filter q).take
        k).filter (·.2.isPending)).map Prod.snd ↔
      u.1.2 ∈ (((self.sortedCandidates history now longer.createdInvoices).filter q).take
        k).map Prod.snd := by
    simp only [List.mem_map, List.mem_filter]
    constructor
    · rintro ⟨c, ⟨hc, -⟩, hact⟩
      exact ⟨c, hc, hact⟩
    · rintro ⟨c, hc, hact⟩
      exact ⟨c, ⟨hc, by rw [hact, hpending]⟩, hact⟩
  constructor
  · rintro ⟨hread, hrank⟩
    have hmem := (hshown _ _).mpr (shown_of_reads hu hread hrank)
    exact reads_of_shown hdistinct hu (.inl hread) (fun c hc => .inr hc)
      ((hshown _ _).mp (h ▸ hmem))
  · rintro ⟨hread, hrank⟩
    have hmem := (hshown _ _).mpr (shown_of_reads hu hread hrank)
    exact reads_of_shown hdistinct hu (.inr hread) (fun c hc => .inl hc)
      ((hshown _ _).mp (h ▸ hmem))

theorem noneDisplaced_of_shownStable (hdistinct : self.Distinct history now shorter longer)
    (hle : shorter.numberOfCompletedActivities ≤ longer.numberOfCompletedActivities)
    (h : self.ShownStable history now shorter longer) :
    self.NoneDisplaced history now shorter longer where
  shorterPending u hu hpending hs hl := by
    have := pending_within_iff hdistinct h.1 hu hpending
    simpa [hs, hl] using this
  longerPending u hu hpending hl hs := by
    have := pending_within_iff hdistinct h.1 hu hpending
    simpa [hs, hl] using this
  bothPending u hu hpending hs hl := by
    have := pending_within_iff hdistinct h.1 hu hpending
    simpa [hs, hl] using this
  shorterCompleted u hu hpending hs hl := by
    by_contra hrank
    have hmem := shown_of_reads hu (reads_of_readsCompleted.mpr ⟨hs, hpending⟩) (not_le.mp hrank)
    have := (reads_of_shown hdistinct hu (.inl hs)
      (fun c hc => .inr (reads_of_readsCompleted.mp hc).1) (h.2.subset hmem)).1
    rw [reads_of_readsCompleted, hl] at this
    exact absurd this.1 (by simp)
  longerCompleted u hu hpending hl hs := by
    by_contra hrank
    have hmem := shown_of_reads hu (reads_of_readsCompleted.mpr ⟨hl, hpending⟩) (not_le.mp hrank)
    -- the shorter response consists of the first completed activities of the longer one
    have hpre := List.prefix_iff_eq_take.mp h.2
    rw [List.length_map, shownCompleted, List.length_take, length_completed, ← List.map_take,
      shownCompleted, List.take_take] at hpre
    have hk := UInt32.le_iff_toNat_le.mp hle
    rw [Nat.min_eq_left (le_trans (min_le_left _ _) hk)] at hpre
    rw [← hpre] at hmem
    have := (reads_of_shown hdistinct hu (.inr hl)
      (fun c hc => .inl (reads_of_readsCompleted.mp hc).1) hmem).1
    rw [reads_of_readsCompleted, hs] at this
    exact absurd this.1 (by simp)

end

/-! ## Two requests -/

/-- A request for fewer expired invoices retrieves some of those of a request for more. -/
theorem retrieved_filter {dataStore : DataStore} {now : SystemTime} {n m : UInt32} (hle : n ≤ m)
    {fewer more : List CreatedInvoice} (hn : dataStore.retrieveCreatedInvoices now n = .ok fewer)
    (hm : dataStore.retrieveCreatedInvoices now m = .ok more) :
    fewer = more.filter (· ∈ fewer) := by
  obtain ⟨hsorted, hnodup⟩ := DataStore.retrieveCreatedInvoices_sorted hn
  obtain ⟨hsorted', hnodup'⟩ := DataStore.retrieveCreatedInvoices_sorted hm
  have hsub : ∀ i ∈ fewer, i ∈ more := by
    intro i hi
    obtain ⟨secs, hsecs, row, hrow, hfrom⟩ := (DataStore.mem_retrieveCreatedInvoices hn).mp hi
    refine (DataStore.mem_retrieveCreatedInvoices hm).mpr ⟨secs, hsecs, row, ?_, hfrom⟩
    rcases List.mem_append.mp hrow with hrow | hrow
    · exact List.mem_append_left _ hrow
    · exact List.mem_append_right _
        ((List.take_prefix_take_left (UInt32.le_iff_toNat_le.mp hle)).subset hrow)
  -- both lists are sorted by the same key, so it is enough to compare their members
  have hperm : fewer.Perm (more.filter (· ∈ fewer)) := by
    refine (List.perm_ext_iff_of_nodup hnodup (hnodup'.filter _)).mpr fun i => ?_
    rw [List.mem_filter, decide_eq_true_eq]
    exact ⟨fun hi => ⟨hsub i hi, hi⟩, fun h => h.2⟩
  refine List.Perm.eq_of_pairwise (fun i j _ _ hij hji => ?_) hsorted (hsorted'.filter _) hperm
  exact DataStore.createdInvoiceKey_injective (le_antisymm hij hji)

/-- What holds of two requests if both return. -/
def WhenBothReturn (self : Activities) (swap : Except String (Option SdkSwapInfo))
    (now : SystemTime) (n m : UInt32) (P : Reading → Reading → Prop) : Prop :=
  ∀ fewer more inProgress, self.support.dataStore.retrieveCreatedInvoices now n = .ok fewer →
    self.support.dataStore.retrieveCreatedInvoices now m = .ok more → swap = .ok inProgress →
    P ⟨n, fewer⟩ ⟨m, more⟩

/-- The response to a request, by what it shows of the candidates. -/
theorem list_eq_shown {self : Activities} {history : PaymentHistory}
    {swap : Except String (Option SdkSwapInfo)} {now : SystemTime} {n : UInt32}
    {createdInvoices more : List CreatedInvoice} {inProgress : Option SdkSwapInfo}
    (hretrieve : self.support.dataStore.retrieveCreatedInvoices now n = .ok createdInvoices)
    (hswap : swap = .ok inProgress)
    (hfilter : createdInvoices = more.filter (· ∈ createdInvoices)) :
    self.list (history.sdk swap) now n = .ok
      { pendingActivities :=
          self.withSwap now (self.shownPending history now more ⟨n, createdInvoices⟩) inProgress
        completedActivities :=
          (self.shownCompleted history now more ⟨n, createdInvoices⟩).map Prod.snd } := by
  refine list_eq_ok.mpr ⟨createdInvoices, inProgress, hretrieve, hswap, ?_⟩
  have hselect := select_eq self history now ⟨n, createdInvoices⟩ hfilter
  dsimp only at hselect ⊢
  rw [hselect]
  rfl

theorem listStable_eq {self : Activities} {history : PaymentHistory}
    {swap : Except String (Option SdkSwapInfo)} {now : SystemTime} {n m : UInt32} (hle : n ≤ m) :
    self.ListStable (history.sdk swap) now n m ↔
      self.WhenBothReturn swap now n m (self.ShownStable history now) := by
  constructor
  · intro h fewer more inProgress hn hm hswap
    obtain ⟨hpending, hcompleted⟩ := h _ _
      (list_eq_shown hn hswap (retrieved_filter hle hn hm))
      (list_eq_shown hm hswap (retrieved_filter (UInt32.le_refl m) hm hm))
    exact ⟨withSwap_inj.mp hpending, hcompleted⟩
  · intro h shorter longer hshorter hlonger
    obtain ⟨fewer, inProgress, hn, hswap, -⟩ := list_eq_ok.mp hshorter
    obtain ⟨more, -, hm, -, -⟩ := list_eq_ok.mp hlonger
    obtain ⟨hpending, hcompleted⟩ := h fewer more inProgress hn hm hswap
    rw [list_eq_shown hn hswap (retrieved_filter hle hn hm)] at hshorter
    rw [list_eq_shown hm hswap (retrieved_filter (UInt32.le_refl m) hm hm)] at hlonger
    cases hshorter
    cases hlonger
    exact ⟨withSwap_inj.mpr hpending, hcompleted⟩

/-- **When the longer list extends the shorter one**: if what only one of the two requests reads
stays outside of what it shows and pushes no pending activity across the limit; and only then,
unless two of the activities are the same. -/
theorem listStable_iff (self : Activities) (history : PaymentHistory)
    (swap : Except String (Option SdkSwapInfo)) (now : SystemTime) {n m : UInt32} (hle : n ≤ m) :
    (self.WhenBothReturn swap now n m (self.NoneDisplaced history now) →
      self.ListStable (history.sdk swap) now n m) ∧
    (self.WhenBothReturn swap now n m (self.Distinct history now) →
      self.ListStable (history.sdk swap) now n m →
      self.WhenBothReturn swap now n m (self.NoneDisplaced history now)) := by
  constructor
  · intro h
    refine (listStable_eq hle).mpr fun fewer more inProgress hn hm hswap => ?_
    have hnone := h fewer more inProgress hn hm hswap
    exact ⟨congrArg _ (shownPending_eq hnone), (shownCompleted_extends hnone hle).map _⟩
  · intro hdistinct hstable fewer more inProgress hn hm hswap
    exact noneDisplaced_of_shownStable (hdistinct fewer more inProgress hn hm hswap) hle
      ((listStable_eq hle).mp hstable fewer more inProgress hn hm hswap)

/-- A wallet with two invoices that have expired, stored with their payment data. -/
def expiredInvoicesWallet : Activities :=
  let env : Env := ⟨1700000000000000000, fun _ => false⟩
  let preferences : UserPreferences := ⟨"CHF", ⟨"Europe/Zurich", 60⟩⟩
  let store (dataStore : DataStore) (hash bolt11 : String) : DataStore :=
    ((dataStore.storePaymentInfo env hash preferences [] none none none).2.storeCreatedInvoice
      env hash bolt11 none 1700003600).2
  { support := ⟨preferences, ⟨[], none, none⟩,
      store (store (.new .migrated none) "f0" "lnbc0") "f1" "lnbc1"⟩
    parsers := ⟨fun bolt11 => .ok ⟨bolt11, "02aa", if bolt11 = "lnbc0" then "f0" else "f1", none,
      some 21000, 1700000000, 3600⟩, fun _ => .ok []⟩
    lipaLightningDomain := "lipa.swiss" }

/-- Thirty-one payments that were sent, and a channel close after them that is pending. -/
def pendingCloseHistory : PaymentHistory where
  payments := ⟨.closedChannel, 1700005000, 5000000, 0, .pending, .closedChannel ⟨none⟩⟩
    :: PaymentHistory.thirtySent 1700004000
    ++ [⟨.sent, 1699990000, 21000, 0, .complete,
      .ln ⟨"cc", "cd", "lnbc2", none, none, none, none, none, none⟩⟩]
  latestFirst := by decide +kernel
  uniqueHashes := by decide +kernel

/-- The request for two completed activities reads an older payment and an older invoice as well,
and shows the same pending channel close. -/
theorem listStable_iff_pendingClose :
    expiredInvoicesWallet.ListStable (pendingCloseHistory.sdk (.ok none)) 1700007200000000000 1 2
      ∧ (expiredInvoicesWallet.list (pendingCloseHistory.sdk (.ok none)) 1700007200000000000
        1).toOption.any (!·.pendingActivities.isEmpty) = true := by
  refine ⟨(listStable_iff expiredInvoicesWallet pendingCloseHistory (.ok none)
    1700007200000000000 (by decide)).1 ?_, by decide +kernel⟩
  intro fewer more inProgress hn hm hswap
  have hfewer : expiredInvoicesWallet.support.dataStore.retrieveCreatedInvoices
      1700007200000000000 1 = .ok [⟨"f1", "lnbc1", none⟩] := by decide +kernel
  have hmore : expiredInvoicesWallet.support.dataStore.retrieveCreatedInvoices
      1700007200000000000 2 = .ok [⟨"f0", "lnbc0", none⟩, ⟨"f1", "lnbc1", none⟩] := by
    decide +kernel
  obtain rfl := Except.ok.inj (hfewer.symm.trans hn)
  obtain rfl := Except.ok.inj (hmore.symm.trans hm)
  constructor
  -- each clause ranges over the thirty-four activities of the wallet
  · decide +kernel
  · decide +kernel
  · decide +kernel
  · decide +kernel
  · decide +kernel

/-- A channel close that is still pending is listed as the latest activity. Once thirty payments
are sent after it, it is only listed if completed activities are asked for. -/
theorem pending_close_disappears :
    ¬ ∀ (self : Activities) (history : PaymentHistory) (swap : Except String (Option SdkSwapInfo))
      (now : SystemTime) (n m : UInt32), n ≤ m → self.ListStable (history.sdk swap) now n m := by
  intro h
  let invoice : LNInvoice := ⟨"lnbc2", "02aa", "f0", none, some 21000, 1700000000, 3600⟩
  let self : Activities :=
    ⟨⟨⟨"CHF", ⟨"Europe/Zurich", 60⟩⟩, ⟨[], none, none⟩, .new .migrated none⟩,
      ⟨fun _ => .ok invoice, fun _ => .ok []⟩, "lipa.swiss"⟩
  let close : Payment := ⟨.closedChannel, 1700000060, 5000000, 0, .pending, .closedChannel ⟨none⟩⟩
  let history : PaymentHistory :=
    ⟨PaymentHistory.thirtySent 1700003600 ++ [close], by decide +kernel, by decide +kernel⟩
  let now : SystemTime := 1700007200000000000
  have hnone : (self.list (history.sdk (.ok none)) now 0).toOption.any
      (·.pendingActivities.isEmpty) = true := by decide +kernel
  have hsome : (self.list (history.sdk (.ok none)) now 1).toOption.any
      (!·.pendingActivities.isEmpty) = true := by decide +kernel
  cases hshorter : self.list (history.sdk (.ok none)) now 0 with
  | error e => simp [hshorter, Except.toOption] at hnone
  | ok shorter =>
      cases hlonger : self.list (history.sdk (.ok none)) now 1 with
      | error e => simp [hlonger, Except.toOption] at hsome
      | ok longer =>
          have hsame := (h self history (.ok none) now 0 1 (by decide) shorter longer hshorter
            hlonger).1
          simp only [hshorter, hlonger, Except.toOption, Option.any_some, hsame] at hnone hsome
          simp [hnone] at hsome

end Activities

end LipaLightning
