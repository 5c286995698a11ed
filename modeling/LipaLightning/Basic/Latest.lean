import Mathlib.Data.List.Sort

set_option autoImplicit false

/-! # The latest entries of a list

A list sorted by time, the latest first, and what taking the first ones of it selects. Sorting
is stable, so an entry precedes another if it is later, or of the same time and before it in the
list. An entry is among the first `k` exactly if fewer than `k` others precede it.
-/

namespace Latest

variable {α β : Type} (time : α → Int)

/-- The list sorted by time, the latest first; entries of the same time keep their order. -/
def latestFirst (l : List α) : List α := l.insertionSort fun a b => time b ≤ time a

/-- The order of sorted entries; the second component is the position in the list. -/
def Precedes (v u : α × Nat) : Prop :=
  time u.1 < time v.1 ∨ (time u.1 = time v.1 ∧ v.2 < u.2)

instance : DecidableRel (Precedes time) := fun v u =>
  inferInstanceAs (Decidable (time u.1 < time v.1 ∨ (time u.1 = time v.1 ∧ v.2 < u.2)))

/-- The entries with their positions, in the order of the sorted list. -/
def entries (l : List α) : List (α × Nat) := latestFirst (fun u => time u.1) l.zipIdx

/-- How many of the entries that `q` selects precede an entry. -/
def rank (q : α → Bool) (l : List α) (u : α × Nat) : Nat :=
  l.zipIdx.countP fun v => q v.1 && decide (Precedes time v u)

/-- How many of the entries that `q` selects precede one between the two parts of a list: those in
front of it that are not earlier, and those behind it that are later. -/
def rankBetween (q : α → Bool) (before after : List α) (a : α) : Nat :=
  before.countP (fun b => q b && decide (time a ≤ time b))
    + after.countP (fun b => q b && decide (time a < time b))

variable {time}

theorem mem_latestFirst {l : List α} {a : α} : a ∈ latestFirst time l ↔ a ∈ l :=
  List.mem_insertionSort _

theorem pairwise_latestFirst (l : List α) :
    (latestFirst time l).Pairwise fun a b => time b ≤ time a :=
  letI : Std.Total fun a b : α => time b ≤ time a := ⟨fun a b => le_total (time b) (time a)⟩
  letI : IsTrans α fun a b : α => time b ≤ time a := ⟨fun _ _ _ hab hbc => le_trans hbc hab⟩
  List.pairwise_insertionSort _ l

theorem latestFirst_map (f : β → α) (l : List β) :
    latestFirst time (l.map f) = (latestFirst (fun b => time (f b)) l).map f :=
  (List.map_insertionSort _ _ f l fun _ _ _ _ => Iff.rfl).symm

theorem orderedInsert_of_forall {a : α} {l : List α} (h : ∀ b ∈ l, time b ≤ time a) :
    l.orderedInsert (fun a b => time b ≤ time a) a = a :: l := by
  cases l with
  | nil => rfl
  | cons b l => rw [List.orderedInsert_cons, if_pos (h b (by simp))]

/-- Filtering a sorted list after an insertion is inserting into the filtered list. -/
theorem filter_orderedInsert (q : α → Bool) (a : α) {l : List α}
    (hl : l.Pairwise fun a b => time b ≤ time a) :
    (l.orderedInsert (fun a b => time b ≤ time a) a).filter q =
      if q a then (l.filter q).orderedInsert (fun a b => time b ≤ time a) a else l.filter q := by
  induction l with
  | nil => by_cases ha : q a <;> simp [ha]
  | cons b l ih =>
      obtain ⟨hb, hl⟩ := List.pairwise_cons.mp hl
      rw [List.orderedInsert_cons]
      by_cases hab : time b ≤ time a
      -- the inserted element comes first, in the filtered list as well
      · have hall : ∀ c ∈ (b :: l).filter q, time c ≤ time a := by
          intro c hc
          rcases List.mem_cons.mp (List.mem_of_mem_filter hc) with rfl | hc
          · exact hab
          · exact le_trans (hb c hc) hab
        rw [if_pos hab, orderedInsert_of_forall hall, List.filter_cons]
      · rw [if_neg hab, List.filter_cons, ih hl, List.filter_cons]
        by_cases ha : q a <;> by_cases hqb : q b <;> simp [ha, hqb, hab]

/-- Sorting is stable, so it commutes with a filter. -/
theorem filter_latestFirst (q : α → Bool) (l : List α) :
    (latestFirst time l).filter q = latestFirst time (l.filter q) := by
  induction l with
  | nil => rfl
  | cons a l ih =>
      have hcons : latestFirst time (a :: l)
          = (latestFirst time l).orderedInsert (fun a b => time b ≤ time a) a := rfl
      rw [hcons, filter_orderedInsert q a (pairwise_latestFirst l), ih]
      by_cases ha : q a
      · rw [if_pos ha, List.filter_cons_of_pos ha]
        rfl
      · rw [if_neg ha, List.filter_cons_of_neg ha]

/-! ## The order of the entries -/

theorem entries_map_fst (l : List α) : (entries time l).map Prod.fst = latestFirst time l := by
  rw [entries, ← latestFirst_map, List.zipIdx_map_fst]

theorem mem_entries {l : List α} {u : α × Nat} : u ∈ entries time l ↔ u ∈ l.zipIdx :=
  mem_latestFirst

theorem pairwise_orderedInsert {a : α} {k : Nat} {s : List (α × Nat)}
    (hs : s.Pairwise (Precedes time)) (hk : ∀ v ∈ s, k < v.2) :
    (s.orderedInsert (fun u v => time v.1 ≤ time u.1) (a, k)).Pairwise (Precedes time) := by
  induction s with
  | nil => simp
  | cons b s ih =>
      obtain ⟨hb, hs⟩ := List.pairwise_cons.mp hs
      rw [List.orderedInsert_cons]
      by_cases hab : time b.1 ≤ time a
      · rw [if_pos hab]
        -- the new entry precedes all: it is later, or stands before them in the list
        refine List.pairwise_cons.mpr ⟨fun v hv => ?_, List.pairwise_cons.mpr ⟨hb, hs⟩⟩
        have hkv := hk v hv
        have hva : time v.1 ≤ time a := by
          rcases List.mem_cons.mp hv with rfl | hv
          · exact hab
          · rcases hb v hv with h | ⟨h, -⟩ <;> omega
        simp only [Precedes]
        omega
      · rw [if_neg hab]
        refine List.pairwise_cons.mpr ⟨fun v hv => ?_, ih hs fun v hv => hk v (by simp [hv])⟩
        rcases (List.mem_orderedInsert _).mp hv with rfl | hv
        · exact .inl (by simpa using hab)
        · exact hb v hv

/-- Each entry precedes those that come after it. -/
theorem pairwise_entries (l : List α) : (entries time l).Pairwise (Precedes time) := by
  have h (k : Nat) : (latestFirst (fun u : α × Nat => time u.1) (l.zipIdx k)).Pairwise
      (Precedes time) := by
    induction l generalizing k with
    | nil => exact .nil
    | cons a l ih =>
        rw [List.zipIdx_cons]
        refine pairwise_orderedInsert (ih (k + 1)) fun v hv => ?_
        have := (List.mem_zipIdx (mem_latestFirst.mp hv)).1
        omega
  exact h 0

/-! ## The first entries -/

/-- Of a list whose entries precede each other in order, the first `k` are those that fewer than
`k` precede. -/
theorem take_filter_eq {R : α → α → Prop} [DecidableRel R] (hasymm : ∀ a b, R a b → ¬ R b a)
    (q : α → Bool) {s : List α} (hs : s.Pairwise R) (k : Nat) :
    (s.filter q).take k
      = s.filter fun u => q u && decide (s.countP (fun v => q v && decide (R v u)) < k) := by
  induction s generalizing k with
  | nil => simp
  | cons a s ih =>
      obtain ⟨ha, hs⟩ := List.pairwise_cons.mp hs
      have hirrefl : ¬ R a a := fun h => hasymm a a h h
      -- nothing precedes the first entry, and it precedes all others
      have hfirst : (a :: s).countP (fun v => q v && decide (R v a)) = 0 := by
        rw [List.countP_eq_zero]
        intro v hv
        rcases List.mem_cons.mp hv with rfl | hv
        · simp [hirrefl]
        · simp [hasymm a v (ha v hv)]
      have hcount (u : α) (hu : u ∈ s) :
          (a :: s).countP (fun v => q v && decide (R v u))
            = s.countP (fun v => q v && decide (R v u)) + if q a then 1 else 0 := by
        rw [List.countP_cons]
        simp [ha u hu]
      by_cases hqa : q a
      · cases k with
        | zero => simp
        | succ k =>
            rw [List.filter_cons_of_pos hqa, List.take_succ_cons, ih hs,
              List.filter_cons_of_pos (by simp [hqa, hfirst])]
            congr 1
            refine List.filter_congr fun u hu => ?_
            rw [hcount u hu, if_pos hqa]
            simp
      · rw [List.filter_cons_of_neg hqa, List.filter_cons_of_neg (by simp [hqa]), ih hs]
        refine List.filter_congr fun u hu => ?_
        rw [hcount u hu, if_neg hqa, Nat.add_zero]

/-- **The first `k` of the sorted entries that `q` selects** are those whose rank is below
`k`. -/
theorem take_filter_latestFirst (q : α → Bool) (k : Nat) (l : List α) :
    ((latestFirst time l).filter q).take k =
      ((entries time l).filter fun u => q u.1 && decide (rank time q l u < k)).map Prod.fst := by
  have hasymm (v u : α × Nat) : Precedes time v u → ¬ Precedes time u v := by
    simp only [Precedes]
    omega
  rw [← entries_map_fst, List.filter_map, ← List.map_take]
  congr 1
  have h := take_filter_eq hasymm (fun u : α × Nat => q u.1) (pairwise_entries l) k
  have hperm : (entries time l).Perm l.zipIdx := List.perm_insertionSort _ _
  simp only [hperm.countP_eq] at h
  exact h

/-- The entries that `p` selects are the same among the first ones of two selections if each is
among the first ones of either selection or of none. -/
theorem filter_take_congr {p q r : α → Bool} {l : List α} {k k' : Nat}
    (h : ∀ u ∈ l.zipIdx, p u.1 = true →
      (q u.1 = true ∧ rank time q l u < k ↔ r u.1 = true ∧ rank time r l u < k')) :
    (((latestFirst time l).filter q).take k).filter p
      = (((latestFirst time l).filter r).take k').filter p := by
  rw [take_filter_latestFirst, take_filter_latestFirst, List.filter_map, List.filter_map,
    List.filter_filter, List.filter_filter]
  congr 1
  refine List.filter_congr fun u hu => ?_
  rw [Bool.eq_iff_iff]
  simp only [Function.comp_apply, Bool.and_eq_true, decide_eq_true_eq]
  exact and_congr_right (h u (mem_entries.mp hu))

/-- The first entries are kept by a filter that all of them pass. -/
theorem take_filter_of_forall {p : α → Bool} {s : List α} {k : Nat}
    (h : ∀ a ∈ s.take k, p a = true) : (s.filter p).take k = s.take k := by
  induction s generalizing k with
  | nil => simp
  | cons a s ih =>
      cases k with
      | zero => simp
      | succ k =>
          rw [List.filter_cons_of_pos (h a (by simp)), List.take_succ_cons, List.take_succ_cons,
            ih fun b hb => h b (by simp [hb])]

/-- Two selections have the same first `k` entries if those that are in only one of them come
after its first `k`. -/
theorem take_filter_congr {q r : α → Bool} {l : List α} {k : Nat}
    (hq : ∀ u ∈ l.zipIdx, q u.1 = true → r u.1 = false → k ≤ rank time q l u)
    (hr : ∀ u ∈ l.zipIdx, r u.1 = true → q u.1 = false → k ≤ rank time r l u) :
    ((latestFirst time l).filter q).take k = ((latestFirst time l).filter r).take k := by
  have hboth (q r : α → Bool)
      (h : ∀ u ∈ l.zipIdx, q u.1 = true → r u.1 = false → k ≤ rank time q l u) :
      ((latestFirst time l).filter fun a => r a && q a).take k
        = ((latestFirst time l).filter q).take k := by
    rw [← List.filter_filter]
    refine take_filter_of_forall fun a ha => ?_
    rw [take_filter_latestFirst, List.mem_map] at ha
    obtain ⟨u, hu, rfl⟩ := ha
    rw [List.mem_filter, Bool.and_eq_true, decide_eq_true_eq, mem_entries] at hu
    by_contra hru
    have := h u hu.1 hu.2.1 (by simpa using hru)
    omega
  rw [← hboth q r hq, ← hboth r q hr]
  simp only [Bool.and_comm]

theorem mem_take_filter_latestFirst {q : α → Bool} {k : Nat} {l : List α} {a : α} :
    a ∈ ((latestFirst time l).filter q).take k ↔
      q a = true ∧ ∃ i, (a, i) ∈ l.zipIdx ∧ rank time q l (a, i) < k := by
  rw [take_filter_latestFirst, List.mem_map]
  constructor
  · rintro ⟨⟨b, i⟩, hmem, rfl⟩
    rw [List.mem_filter, Bool.and_eq_true, decide_eq_true_eq, mem_entries] at hmem
    exact ⟨hmem.2.1, i, hmem.1, hmem.2.2⟩
  · rintro ⟨hq, i, hmem, hrank⟩
    refine ⟨(a, i), ?_, rfl⟩
    rw [List.mem_filter, Bool.and_eq_true, decide_eq_true_eq, mem_entries]
    exact ⟨hmem, hq, hrank⟩

theorem rank_append_cons (q : α → Bool) (before after : List α) (a : α) :
    rank time q (before ++ a :: after) (a, before.length)
      = rankBetween time q before after a := by
  have hbefore : before.zipIdx.countP
      (fun v => q v.1 && decide (Precedes time v (a, before.length)))
      = before.countP fun b => q b && decide (time a ≤ time b) := by
    conv_rhs => rw [← List.zipIdx_map_fst 0 before, List.countP_map]
    refine List.countP_congr fun v hv => ?_
    have hlt : v.2 < before.length := by simpa using List.snd_lt_of_mem_zipIdx hv
    simp only [Function.comp_apply, Bool.and_eq_true, decide_eq_true_eq]
    refine and_congr_right fun _ => ?_
    simp only [Precedes]
    omega
  have hafter : (after.zipIdx (before.length + 1)).countP
      (fun v => q v.1 && decide (Precedes time v (a, before.length)))
      = after.countP fun b => q b && decide (time a < time b) := by
    conv_rhs => rw [← List.zipIdx_map_fst (before.length + 1) after, List.countP_map]
    refine List.countP_congr fun v hv => ?_
    have hge : before.length + 1 ≤ v.2 := List.le_snd_of_mem_zipIdx hv
    simp only [Function.comp_apply, Bool.and_eq_true, decide_eq_true_eq]
    refine and_congr_right fun _ => ?_
    simp only [Precedes]
    omega
  have hself : ¬ Precedes time (a, before.length) (a, before.length) := by
    simp [Precedes]
  rw [rank, rankBetween, List.zipIdx_append, List.countP_append, Nat.zero_add, hbefore,
    List.zipIdx_cons, List.countP_cons, hafter]
  simp [hself]

/-- An entry at a position splits the list there. -/
theorem mem_zipIdx_iff_append {l : List α} {a : α} {i : Nat} :
    (a, i) ∈ l.zipIdx ↔ ∃ before after, l = before ++ a :: after ∧ before.length = i := by
  rw [List.mem_zipIdx_iff_getElem?]
  constructor
  · intro h
    obtain ⟨hi, ha⟩ : ∃ hi : i < l.length, l[i] = a := List.getElem?_eq_some_iff.mp h
    refine ⟨l.take i, l.drop (i + 1), ?_, List.length_take_of_le (Nat.le_of_lt hi)⟩
    rw [← ha, ← List.drop_eq_getElem_cons hi, List.take_append_drop]
  · rintro ⟨before, after, rfl, rfl⟩
    simp

/-- Where no two of the selected entries have the same image, an entry is given by its image. -/
theorem eq_of_nodup_map {f : α → β} {q : α → Bool} {l : List α}
    (hnodup : ((l.filter q).map f).Nodup) {u v : α × Nat} (hu : u ∈ l.zipIdx) (hv : v ∈ l.zipIdx)
    (hqu : q u.1 = true) (hqv : q v.1 = true) (h : f u.1 = f v.1) : u = v := by
  have hmap : (l.filter q).map f = (l.zipIdx.filter (q ∘ Prod.fst)).map (f ∘ Prod.fst) := by
    conv_lhs => rw [← List.zipIdx_map_fst 0 l]
    rw [List.filter_map, List.map_map]
  rw [hmap] at hnodup
  exact List.inj_on_of_nodup_map hnodup (List.mem_filter.mpr ⟨hu, hqu⟩)
    (List.mem_filter.mpr ⟨hv, hqv⟩) h

/-- The last entry of a list comes first among the sorted ones exactly if all others are
earlier. -/
theorem head?_latestFirst_append {l : List α} {a : α} (ha : a ∉ l) :
    (latestFirst time (l ++ [a])).head? = some a ↔ ∀ b ∈ l, time b < time a := by
  induction l with
  | nil => simp [latestFirst]
  | cons b l ih =>
      obtain ⟨hba, ha⟩ := not_or.mp (mt List.mem_cons.mpr ha)
      have hinsert : latestFirst time (b :: l ++ [a]) =
          (latestFirst time (l ++ [a])).orderedInsert (fun a b => time b ≤ time a) b := rfl
      rw [hinsert]
      cases hsorted : latestFirst time (l ++ [a]) with
      | nil =>
          have hmem : a ∈ latestFirst time (l ++ [a]) := mem_latestFirst.mpr (by simp)
          rw [hsorted] at hmem
          cases hmem
      | cons c s =>
          rw [hsorted, List.head?_cons, Option.some_inj] at ih
          rw [List.orderedInsert_cons, List.forall_mem_cons, ← ih ha]
          by_cases hcb : time c ≤ time b
          · rw [if_pos hcb, List.head?_cons, Option.some_inj]
            refine iff_of_false (Ne.symm hba) ?_
            rintro ⟨hlt, rfl⟩
            omega
          · rw [if_neg hcb, List.head?_cons, Option.some_inj]
            constructor
            · rintro rfl
              exact ⟨by omega, rfl⟩
            · exact And.right

end Latest
