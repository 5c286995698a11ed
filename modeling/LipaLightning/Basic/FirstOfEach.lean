import Mathlib.Data.Finset.Max
import Mathlib.Data.List.Destutter
import Mathlib.Data.List.Sort
import Mathlib.Data.Prod.Lex

set_option autoImplicit false

/-! # The first entry of each key

A list of keys with values is sorted by key and value. Of each run of one key the first entry is
kept, which has the least value of the key, and the entries that are left are sorted by value.
The result has each key once, with its least value, and does not depend on the order of the
list.
-/

namespace FirstOfEach

variable {κ τ : Type} [LinearOrder κ] [LinearOrder τ]

/-- The order of keys, and of values where the keys are the same. -/
def Before (a b : κ × τ) : Prop := toLex a ≤ toLex b

instance : DecidableRel (@Before κ τ _ _) := fun a b =>
  inferInstanceAs (Decidable (toLex a ≤ toLex b))

/-- Sort the list, and keep the first entry of each run of one key. -/
def firstOfEach (l : List (κ × τ)) : List (κ × τ) :=
  (l.insertionSort Before).destutter fun a b => a.1 ≠ b.1

/-- The first entry of each key, by value. Entries of the same value stay in the order of their
keys. -/
def firstByValue (l : List (κ × τ)) : List (κ × τ) :=
  (firstOfEach l).insertionSort fun a b => a.2 ≤ b.2

/-- No entry of the key has a smaller value. -/
def IsFirst (l : List (κ × τ)) (p : κ × τ) : Prop :=
  p ∈ l ∧ ∀ q ∈ l, q.1 = p.1 → p.2 ≤ q.2

instance : IsTrans (κ × τ) Before := ⟨fun _ _ _ => le_trans⟩

instance : Std.Total (@Before κ τ _ _) := ⟨fun a b => le_total (toLex a) (toLex b)⟩

instance : Std.Antisymm (@Before κ τ _ _) :=
  ⟨fun _ _ hab hba => toLex.injective (le_antisymm hab hba)⟩

theorem before_iff {a b : κ × τ} : Before a b ↔ a.1 < b.1 ∨ a.1 = b.1 ∧ a.2 ≤ b.2 :=
  Prod.Lex.toLex_le_toLex

theorem Before.key_le {a b : κ × τ} (h : Before a b) : a.1 ≤ b.1 := by
  rcases before_iff.mp h with h | h
  · exact h.le
  · exact h.1.le

/-! ## The runs of a sorted list -/

/-- The first entry of a run stands for the whole run. -/
theorem isFirst_cons_iff {a b : κ × τ} {l : List (κ × τ)} (hab : Before a b) (hkey : a.1 = b.1)
    (p : κ × τ) : IsFirst (a :: b :: l) p ↔ IsFirst (a :: l) p := by
  have hvalue : a.2 ≤ b.2 := by
    rcases before_iff.mp hab with h | h
    · exact absurd hkey h.ne
    · exact h.2
  constructor
  · rintro ⟨hmem, hleast⟩
    refine ⟨?_, fun q hq => hleast q (by
      rcases List.mem_cons.mp hq with rfl | hq
      · exact List.mem_cons_self
      · exact List.mem_cons_of_mem _ (List.mem_cons_of_mem _ hq))⟩
    rcases List.mem_cons.mp hmem with rfl | hmem
    · exact List.mem_cons_self
    · rcases List.mem_cons.mp hmem with rfl | hmem
      -- the second entry of the run is a first one only if it is the same
      · have hle := hleast a List.mem_cons_self hkey
        have heq : p = a := Prod.ext hkey.symm (le_antisymm hle hvalue)
        rw [heq]
        exact List.mem_cons_self
      · exact List.mem_cons_of_mem _ hmem
  · rintro ⟨hmem, hleast⟩
    constructor
    · rcases List.mem_cons.mp hmem with rfl | hmem
      · exact List.mem_cons_self
      · exact List.mem_cons_of_mem _ (List.mem_cons_of_mem _ hmem)
    · intro q hq hqp
      rcases List.mem_cons.mp hq with rfl | hq
      · exact hleast q List.mem_cons_self hqp
      · rcases List.mem_cons.mp hq with rfl | hq
        · exact (hleast a List.mem_cons_self (hkey.trans hqp)).trans hvalue
        · exact hleast q (List.mem_cons_of_mem _ hq) hqp

/-- Keeping the first entry of each run of a sorted list keeps the first entries. -/
theorem mem_destutter'_iff {l : List (κ × τ)} {a : κ × τ} (hl : (a :: l).Pairwise Before)
    (p : κ × τ) : p ∈ l.destutter' (fun a b => a.1 ≠ b.1) a ↔ IsFirst (a :: l) p := by
  induction l generalizing a with
  | nil =>
      rw [List.destutter'_nil, List.mem_singleton]
      constructor
      · rintro rfl
        exact ⟨List.mem_cons_self, fun q hq _ => (List.mem_singleton.mp hq) ▸ le_rfl⟩
      · exact fun h => List.mem_singleton.mp h.1
  | cons b l ih =>
      obtain ⟨hfirst, hrest⟩ := List.pairwise_cons.mp hl
      have hab : Before a b := hfirst b List.mem_cons_self
      by_cases hkey : a.1 = b.1
      · rw [List.destutter'_cons_neg _ (not_not.mpr hkey), isFirst_cons_iff hab hkey]
        refine ih (List.pairwise_cons.mpr ⟨fun c hc => ?_, (List.pairwise_cons.mp hrest).2⟩)
        exact hfirst c (List.mem_cons_of_mem b hc)
      · have hlt : ∀ c ∈ b :: l, a.1 < c.1 := by
          intro c hc
          have hbc : b.1 ≤ c.1 := by
            rcases List.mem_cons.mp hc with rfl | hc
            · exact le_rfl
            · exact ((List.pairwise_cons.mp hrest).1 c hc).key_le
          exact (lt_of_le_of_ne hab.key_le hkey).trans_le hbc
        rw [List.destutter'_cons_pos _ hkey, List.mem_cons, ih hrest]
        constructor
        · rintro (rfl | ⟨hmem, hleast⟩)
          · refine ⟨List.mem_cons_self, fun q hq hqp => ?_⟩
            rcases List.mem_cons.mp hq with rfl | hq
            · exact le_rfl
            · exact absurd hqp (hlt q hq).ne'
          · refine ⟨List.mem_cons_of_mem a hmem, fun q hq hqp => ?_⟩
            rcases List.mem_cons.mp hq with rfl | hq
            · exact absurd hqp (hlt p hmem).ne
            · exact hleast q hq hqp
        · rintro ⟨hmem, hleast⟩
          rcases List.mem_cons.mp hmem with rfl | hmem
          · exact .inl rfl
          · exact .inr ⟨hmem, fun q hq => hleast q (List.mem_cons_of_mem a hq)⟩

/-- **What is kept of each key.** -/
theorem mem_firstOfEach_iff (l : List (κ × τ)) (p : κ × τ) :
    p ∈ firstOfEach l ↔ IsFirst l p := by
  have hmem : ∀ q, q ∈ l.insertionSort Before ↔ q ∈ l := fun q => List.mem_insertionSort _
  have hsorted : (l.insertionSort Before).Pairwise Before := List.pairwise_insertionSort _ l
  have hfirst : IsFirst (l.insertionSort Before) p ↔ IsFirst l p := by
    unfold IsFirst
    simp only [hmem]
  rw [← hfirst]
  unfold firstOfEach
  cases hsort : l.insertionSort Before with
  | nil => exact iff_of_false nofun fun h => nomatch h.1
  | cons a l' =>
      rw [hsort] at hsorted
      rw [List.destutter_cons']
      exact mem_destutter'_iff hsorted p

/-- The keys that are kept are in ascending order. -/
theorem pairwise_firstOfEach (l : List (κ × τ)) :
    (firstOfEach l).Pairwise fun a b => a.1 < b.1 := by
  have hsorted : (firstOfEach l).Pairwise Before :=
    (List.pairwise_insertionSort Before l).sublist (List.destutter_sublist _ _)
  have hchain : (firstOfEach l).IsChain fun a b => a.1 ≠ b.1 := List.isChain_destutter _ _
  have hlt : (firstOfEach l).IsChain fun a b => a.1 < b.1 := by
    rw [List.isChain_iff_getElem] at hchain ⊢
    intro i hi
    have hle := (List.pairwise_iff_getElem.mp hsorted i (i + 1) (by omega) hi (by omega)).key_le
    exact lt_of_le_of_ne hle (hchain i hi)
  have : IsTrans (κ × τ) fun a b => a.1 < b.1 := ⟨fun _ _ _ => lt_trans⟩
  exact List.isChain_iff_pairwise.mp hlt

/-! ## The result -/

theorem mem_firstByValue_iff (l : List (κ × τ)) (p : κ × τ) :
    p ∈ firstByValue l ↔ IsFirst l p := by
  rw [firstByValue, List.mem_insertionSort, mem_firstOfEach_iff]

/-- Each key is kept once. -/
theorem nodup_keys_firstByValue (l : List (κ × τ)) : ((firstByValue l).map Prod.fst).Nodup := by
  have hperm : (firstByValue l).Perm (firstOfEach l) := List.perm_insertionSort _ _
  refine (hperm.map Prod.fst).nodup_iff.mpr ?_
  exact List.pairwise_map.mpr ((pairwise_firstOfEach l).imp fun h => h.ne)

theorem pairwise_firstByValue (l : List (κ × τ)) :
    (firstByValue l).Pairwise fun a b => a.2 ≤ b.2 := by
  have : IsTrans (κ × τ) fun a b => a.2 ≤ b.2 := ⟨fun _ _ _ => le_trans⟩
  have : Std.Total fun a b : κ × τ => a.2 ≤ b.2 := ⟨fun a b => le_total a.2 b.2⟩
  exact List.pairwise_insertionSort _ _

/-- The result does not depend on the order of the list. -/
theorem firstByValue_perm {l l' : List (κ × τ)} (h : l.Perm l') :
    firstByValue l = firstByValue l' := by
  have hperm : (l.insertionSort Before).Perm (l'.insertionSort Before) :=
    (List.perm_insertionSort _ l).trans (h.trans (List.perm_insertionSort _ l').symm)
  have hsort : l.insertionSort Before = l'.insertionSort Before :=
    hperm.eq_of_pairwise' (List.pairwise_insertionSort _ l) (List.pairwise_insertionSort _ l')
  rw [firstByValue, firstByValue, firstOfEach, firstOfEach, hsort]

/-- The keys of the list are the keys of the result. -/
theorem mem_keys_firstByValue_iff (l : List (κ × τ)) (k : κ) :
    k ∈ (firstByValue l).map Prod.fst ↔ k ∈ l.map Prod.fst := by
  constructor
  · intro h
    obtain ⟨p, hp, rfl⟩ := List.mem_map.mp h
    exact List.mem_map_of_mem ((mem_firstByValue_iff l p).mp hp).1
  · intro h
    obtain ⟨p, hp, rfl⟩ := List.mem_map.mp h
    -- the entry of the key with the least value
    obtain ⟨least, hleast, hle⟩ :=
      (l.filter fun q => q.1 = p.1).toFinset.exists_min_image Prod.snd ⟨p, by simp [hp]⟩
    obtain ⟨hmem, hkey⟩ : least ∈ l ∧ least.1 = p.1 := by simpa using hleast
    rw [← hkey]
    refine List.mem_map_of_mem ((mem_firstByValue_iff l least).mpr ⟨hmem, fun q hq hq' => ?_⟩)
    exact hle q (by simp [hq, hq', hkey])

end FirstOfEach
