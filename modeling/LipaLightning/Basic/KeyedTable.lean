import Mathlib.Data.List.Nodup
import Mathlib.Data.List.Basic

set_option autoImplicit false

/-! # Tables with a unique key

A table is the list of its rows together with a proof that no two rows have the same key.
The conflict clauses of an `INSERT` are the three ways of adding a row: `insertReplace`
removes the row that is in the way (`ON CONFLICT REPLACE`), `insertIgnore` keeps it
(`ON CONFLICT IGNORE`), and `insert` fails. Rows are read by key (`lookup`), and every
operation is described by what it does to `lookup`.
-/

/-- A list of rows no two of which have the same key. -/
@[ext] structure KeyedTable {ρ κ : Type} (key : ρ → κ) where
  rows : List ρ
  unique : (rows.map key).Nodup

namespace KeyedTable

variable {ρ κ : Type} {key : ρ → κ} [DecidableEq κ]

/-- The table without rows. -/
def empty : KeyedTable key := ⟨[], List.nodup_nil⟩

/-- The row with the key `k`. -/
def lookup (t : KeyedTable key) (k : κ) : Option ρ := t.rows.find? (fun r => key r = k)

/-- Add `r`, removing the row with the same key. -/
def insertReplace (t : KeyedTable key) (r : ρ) : KeyedTable key where
  rows := t.rows.filter (fun r' => key r' ≠ key r) ++ [r]
  unique := by
    rw [List.map_append, List.nodup_append]
    refine ⟨t.unique.sublist (List.filter_sublist.map key), List.nodup_singleton _, ?_⟩
    intro k hk k' hk'
    obtain ⟨r', hr', rfl⟩ := List.mem_map.mp hk
    have hne : key r' ≠ key r := by simpa using (List.mem_filter.mp hr').2
    simpa [List.mem_singleton.mp hk'] using hne

/-- Add `r` unless there is a row with the same key. -/
def insertIgnore (t : KeyedTable key) (r : ρ) : KeyedTable key :=
  if h : key r ∈ t.rows.map key then t
  else
    { rows := t.rows ++ [r]
      unique := by
        rw [List.map_append]
        refine t.unique.append (List.nodup_singleton _) ?_
        simpa [List.disjoint_singleton] using h }

/-- Add `r`; fails if there is a row with the same key. -/
def insert (t : KeyedTable key) (r : ρ) : Option (KeyedTable key) :=
  if (t.lookup (key r)).isSome then none else some (t.insertIgnore r)

/-- Rewrite the row with the key `k`. -/
def modify (t : KeyedTable key) (k : κ) (f : ρ → ρ) (hf : ∀ r, key (f r) = key r) :
    KeyedTable key where
  rows := t.rows.map (fun r => if key r = k then f r else r)
  unique := by
    have hkeys : (t.rows.map (fun r => if key r = k then f r else r)).map key
        = t.rows.map key := by
      rw [List.map_map]
      refine List.map_congr_left (fun r _ => ?_)
      simp only [Function.comp_apply]
      split
      · exact hf r
      · rfl
    rw [hkeys]
    exact t.unique

/-- Rewrite all rows. -/
def mapRows (t : KeyedTable key) (f : ρ → ρ) (hf : ∀ r, key (f r) = key r) : KeyedTable key where
  rows := t.rows.map f
  unique := by
    have hkeys : (t.rows.map f).map key = t.rows.map key := by
      rw [List.map_map]
      exact List.map_congr_left fun r _ => hf r
    rw [hkeys]
    exact t.unique

/-! ## Reading by key -/

theorem lookup_key {t : KeyedTable key} {k : κ} {r : ρ} (h : t.lookup k = some r) :
    key r = k := by
  simpa using List.find?_some h

theorem mem_of_lookup {t : KeyedTable key} {k : κ} {r : ρ} (h : t.lookup k = some r) :
    r ∈ t.rows :=
  List.mem_of_find?_eq_some h

theorem lookup_eq_none {t : KeyedTable key} {k : κ} :
    t.lookup k = none ↔ k ∉ t.rows.map key := by
  simp [lookup, List.find?_eq_none]

theorem lookup_isSome {t : KeyedTable key} {k : κ} :
    (t.lookup k).isSome ↔ k ∈ t.rows.map key := by
  rw [← not_iff_not, ← lookup_eq_none]
  simp

/-- A row is what its key reads. -/
theorem lookup_of_mem {t : KeyedTable key} {r : ρ} (h : r ∈ t.rows) :
    t.lookup (key r) = some r := by
  obtain ⟨r', hr'⟩ := Option.isSome_iff_exists.mp
    (lookup_isSome.mpr (List.mem_map_of_mem (f := key) h))
  have hkey : key r' = key r := lookup_key hr'
  have heq : r' = r := List.inj_on_of_nodup_map t.unique (mem_of_lookup hr') h hkey
  rw [hr', heq]

/-- The rows with a key are the one that the key reads. -/
theorem filter_key (t : KeyedTable key) (k : κ) :
    t.rows.filter (fun r => key r = k) = (t.lookup k).toList := by
  obtain ⟨rows, hunique⟩ := t
  unfold lookup
  induction rows with
  | nil => rfl
  | cons r rows ih =>
      rw [List.map_cons, List.nodup_cons] at hunique
      by_cases hr : key r = k
      · have hrest : rows.filter (fun r => key r = k) = [] := by
          rw [List.filter_eq_nil_iff]
          intro r' hr' hk
          refine hunique.1 (List.mem_map.mpr ⟨r', hr', ?_⟩)
          rw [hr]
          exact of_decide_eq_true hk
        simp [hr, hrest]
      · simpa [hr] using ih hunique.2

@[simp] theorem lookup_empty (k : κ) : (empty : KeyedTable key).lookup k = none := rfl

/-! ## What the operations do to `lookup` -/

@[simp] theorem lookup_insertReplace (t : KeyedTable key) (r : ρ) (k : κ) :
    (t.insertReplace r).lookup k = if key r = k then some r else t.lookup k := by
  simp only [lookup, insertReplace, List.find?_append]
  by_cases h : key r = k
  · have hnone : (t.rows.filter (fun r' => key r' ≠ key r)).find? (fun a => key a = k) = none := by
      rw [List.find?_eq_none]
      intro a ha
      have hne : key a ≠ key r := by simpa using (List.mem_filter.mp ha).2
      simpa [h] using hne
    rw [hnone]
    simp [h]
  · have hsome : (t.rows.filter (fun r' => key r' ≠ key r)).find? (fun a => key a = k)
        = t.rows.find? (fun a => key a = k) := by
      rw [List.find?_filter]
      congr 1
      funext a
      by_cases ha : key a = k
      · simp [ha, Ne.symm h]
      · simp [ha]
    rw [hsome]
    simp [h]

theorem mem_insertReplace (t : KeyedTable key) (r r' : ρ) :
    r' ∈ (t.insertReplace r).rows ↔ r' = r ∨ (r' ∈ t.rows ∧ key r' ≠ key r) := by
  rw [insertReplace, List.mem_append, List.mem_filter, List.mem_singleton, decide_eq_true_eq,
    or_comm]

@[simp] theorem lookup_insertIgnore (t : KeyedTable key) (r : ρ) (k : κ) :
    (t.insertIgnore r).lookup k
      = if key r = k then (t.lookup k).or (some r) else t.lookup k := by
  by_cases hmem : key r ∈ t.rows.map key
  · rw [insertIgnore, dif_pos hmem]
    split
    · next h =>
      have hsome : (t.lookup k).isSome := lookup_isSome.mpr (h ▸ hmem)
      rw [Option.or_of_isSome hsome]
    · rfl
  · rw [insertIgnore, dif_neg hmem]
    split
    · next h => simp [lookup, List.find?_append, h]
    · next h => simp [lookup, List.find?_append, h]

theorem insert_eq_some {t t' : KeyedTable key} {r : ρ} (h : t.insert r = some t') :
    t.lookup (key r) = none ∧ t'.rows = t.rows ++ [r] := by
  unfold insert at h
  split at h
  · cases h
  · next hnone =>
    have hlook : t.lookup (key r) = none := by simpa using hnone
    obtain rfl := Option.some.inj h
    refine ⟨hlook, ?_⟩
    rw [insertIgnore, dif_neg (lookup_eq_none.mp hlook)]

theorem insert_eq_none {t : KeyedTable key} {r : ρ} :
    t.insert r = none ↔ key r ∈ t.rows.map key := by
  unfold insert
  rw [← lookup_isSome]
  split <;> simp_all

@[simp] theorem lookup_modify (t : KeyedTable key) (k : κ) (f : ρ → ρ)
    (hf : ∀ r, key (f r) = key r) (k' : κ) :
    (t.modify k f hf).lookup k' = if k = k' then (t.lookup k').map f else t.lookup k' := by
  simp only [lookup, modify, List.find?_map]
  have hfun : (fun r => decide (key r = k')) ∘ (fun r => if key r = k then f r else r)
      = fun r => decide (key r = k') := by
    funext r
    simp only [Function.comp_apply]
    split
    · rw [hf]
    · rfl
  rw [hfun]
  by_cases h : k = k'
  · subst h
    rw [if_pos rfl]
    cases hfind : t.rows.find? (fun r => decide (key r = k)) with
    | none => rfl
    | some r =>
        have hr : key r = k := by simpa using List.find?_some hfind
        simp [hr]
  · rw [if_neg h]
    cases hfind : t.rows.find? (fun r => decide (key r = k')) with
    | none => rfl
    | some r =>
        have hr : key r = k' := by simpa using List.find?_some hfind
        have hne : ¬ key r = k := fun hk => h (hk.symm.trans hr)
        simp [hne]

end KeyedTable
