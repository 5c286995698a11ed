import LipaLightning.Basic.SqlMigration

set_option autoImplicit false

/-! # Rebuilding a table

SQLite changes the constraints or the name of a column by making a new table, copying the rows
into it, dropping the old table and giving its name to the new one. `execAll_rebuild` says when
this succeeds: the columns have to be copied into columns of the same affinity, and the constraints
of the new table have to follow from those of the old one.
-/

namespace Sql

/-! ## Dropping and renaming tables -/

theorem find_dropTable (tables : List Table) (name n : String) :
    find (tables.filter fun t => t.name ≠ name) n = if n = name then none else find tables n := by
  unfold find
  induction tables with
  | nil => simp
  | cons t tables ih =>
      rw [List.find?_cons, List.filter_cons]
      by_cases ht : t.name = name
      · rw [if_neg (by simpa using ht), ih]
        by_cases hn : n = name
        · rw [if_pos hn, if_pos hn]
        · have hne : ¬ name = n := fun h => hn h.symm
          simp [hn, ht, hne]
      · rw [if_pos (by simpa using ht), List.find?_cons, ih]
        by_cases hn : n = name
        · subst hn
          simp [ht]
        · simp [hn]

theorem find_renameTable {tables : List Table} {name newName : String} {t' : Table}
    (ht' : t'.name = newName) (hnone : find tables newName = none) (n : String) :
    find (setTable tables name t') n
      = if n = newName then (find tables name).map fun _ => t'
        else if n = name then none else find tables n := by
  unfold find setTable at *
  induction tables with
  | nil => simp
  | cons t tables ih =>
      rw [List.find?_cons] at hnone
      have hne : ¬ t.name = newName := by
        intro h
        simp [h] at hnone
      simp only [hne, decide_false] at hnone
      rw [List.map_cons, List.find?_cons, List.find?_cons, List.find?_cons, ih hnone]
      by_cases ht : t.name = name
      · by_cases hn : n = newName
        · simp [ht, ht', hn]
        · have hn' : ¬ newName = n := fun h => hn h.symm
          by_cases hname : n = name
          · subst hname
            simp [ht, ht', hn, hn']
          · have hname' : ¬ name = n := fun h => hname h.symm
            simp [ht, ht', hn, hn', hname, hname']
      · by_cases hn : n = newName
        · subst hn
          simp [ht, hne]
        · by_cases hname : n = name
          · subst hname
            simp [ht, hn]
          · simp [ht, hn, hname]

/-! ## Copying a table into another one -/

/-- Every column of `t` is copied from a column of `source` that has the same affinity and is not
`NULL` where that of `t` must not be, and the keys of `t` are copied from keys of `source`. -/
structure Copies (t source : Table) (columns selected : List String) : Prop where
  rowId : t.rowId = none
  nodup : t.columnNames.Nodup
  column : ∀ c ∈ t.columns, ∃ c' ∈ source.columns,
    (columns.zip selected).lookup c.name = some c'.name ∧ c'.affinity = c.affinity ∧
      (c.isNotNull = true → c'.isNotNull = true)
  unique : ∀ key ∈ t.unique, (∀ c ∈ key.columns, c ∈ t.columnNames) ∧
    ∃ key' ∈ source.unique,
      key.columns.map (fun c => (columns.zip selected).lookup c) = key'.columns.map some

section

variable {ρ : Type} {engine : Engine ρ} {t source : Table} {columns selected : List String}
  {rows : List (Row ρ)}

/-- The copy of a row. -/
def copiedRow (engine : Engine ρ) (t : Table) (columns selected : List String) (row : Row ρ) :
    Row ρ :=
  insertedRow engine t [] (columns.zip (selected.map row))

/-- Without a row id it does not matter which rows are there already. -/
theorem Copies.insertedRow_eq (h : Copies t source columns selected) (row : Row ρ) :
    insertedRow engine t rows (columns.zip (selected.map row))
      = copiedRow engine t columns selected row := by
  unfold copiedRow insertedRow insertedValue
  simp [h.rowId]

/-- A copy has the values of the columns it is copied from. -/
theorem Copies.copiedRow_apply (h : Copies t source columns selected)
    (hholds : source.Holds engine rows) {row : Row ρ} (hrow : row ∈ rows) {c : Column}
    (hc : c ∈ t.columns) {name : String}
    (hname : (columns.zip selected).lookup c.name = some name) :
    copiedRow engine t columns selected row c.name = row name := by
  obtain ⟨c', hc', hlookup, haffinity, -⟩ := h.column c hc
  obtain rfl : name = c'.name := Option.some.inj (hname.symm.trans hlookup)
  have hvalue : insertedValue engine t [] (columns.zip (selected.map row)) c = row c'.name := by
    unfold insertedValue
    rw [lookup_zip_map, hlookup]
    rfl
  rw [copiedRow, insertedRow_apply h.nodup [] _ hc, hvalue, ← haffinity]
  exact hholds.converted row hrow c' hc'

theorem Copies.copiedRow_ne_null (h : Copies t source columns selected)
    (hholds : source.Holds engine rows) {row : Row ρ} (hrow : row ∈ rows) {c : Column}
    (hc : c ∈ t.columns) (hnotNull : c.isNotNull = true) :
    copiedRow engine t columns selected row c.name ≠ .null := by
  obtain ⟨c', hc', hlookup, -, hnotNull'⟩ := h.column c hc
  rw [h.copiedRow_apply hholds hrow hc hlookup]
  exact hholds.notNull row hrow c' hc' (hnotNull' hnotNull)

/-- Copies of rows without a common key have no common key. -/
theorem Copies.not_conflicts (h : Copies t source columns selected)
    (hholds : source.Holds engine rows) {r s : Row ρ} (hr : r ∈ rows) (hs : s ∈ rows)
    (hrs : ∀ key ∈ source.unique, ¬ key.Conflicts r s) {key : UniqueKey} (hkey : key ∈ t.unique) :
    ¬ key.Conflicts (copiedRow engine t columns selected r)
      (copiedRow engine t columns selected s) := by
  intro hconflicts
  obtain ⟨hcolumns, key', hkey', heq⟩ := h.unique key hkey
  refine hrs key' hkey' fun name hname => ?_
  have hmem : some name ∈ key.columns.map (fun c => (columns.zip selected).lookup c) := by
    rw [heq]
    exact List.mem_map_of_mem hname
  obtain ⟨n, hn, hlookup⟩ := List.mem_map.mp hmem
  obtain ⟨c, hc, rfl⟩ := List.mem_map.mp (hcolumns n hn)
  have hvalues := hconflicts c.name hn
  rwa [h.copiedRow_apply hholds hr hc hlookup, h.copiedRow_apply hholds hs hc hlookup] at hvalues

/-- **Copying a table.** All rows are inserted, and none is in the way of another one. -/
theorem Copies.foldlM_insertRow [DecidableEq ρ] (h : Copies t source columns selected)
    (hholds : source.Holds engine rows) :
    rows.foldlM (fun acc row => insertRow engine t acc (columns.zip (selected.map row))) []
      = .ok (rows.map (copiedRow engine t columns selected)) := by
  have hrest : ∀ rest done : List (Row ρ), rows = done ++ rest →
      rest.foldlM (fun acc row => insertRow engine t acc (columns.zip (selected.map row)))
          (done.map (copiedRow engine t columns selected))
        = .ok (rows.map (copiedRow engine t columns selected)) := by
    intro rest
    induction rest with
    | nil =>
        intro done heq
        rw [heq, List.append_nil]
        rfl
    | cons row rest ih =>
        intro done heq
        have hrow : row ∈ rows := by rw [heq]; simp
        have hinsert : insertRow engine t (done.map (copiedRow engine t columns selected))
              (columns.zip (selected.map row))
            = .ok ((done ++ [row]).map (copiedRow engine t columns selected)) := by
          rw [insertRow_of_fresh, h.insertedRow_eq, List.map_append]
          · rfl
          · intro c hc hnotNull
            rw [h.insertedRow_eq]
            exact h.copiedRow_ne_null hholds hrow hc hnotNull
          · intro r' hr' key hkey
            obtain ⟨r, hr, rfl⟩ := List.mem_map.mp hr'
            rw [h.insertedRow_eq]
            refine h.not_conflicts hholds (by rw [heq]; simp [hr]) hrow (fun key' hkey' => ?_) hkey
            have hpairwise := hholds.unique key' hkey'
            rw [heq] at hpairwise
            exact (List.pairwise_append.mp hpairwise).2.2 r hr row List.mem_cons_self
        rw [List.foldlM_cons, hinsert]
        exact ih (done ++ [row]) (by rw [heq, List.append_assoc]; rfl)
  exact hrest rows [] rfl

/-- The copies keep the values in all columns of the source, where `rename` gives the column of `t`
that is copied from a column. -/
theorem Copies.keeps (h : Copies t source columns selected) (hholds : source.Holds engine rows)
    {rename : String → String} {t' : Table} (ht' : t'.columns = t.columns)
    (hcopied : ∀ c ∈ source.columns, rename c.name ∈ t.columnNames ∧
      (columns.zip selected).lookup (rename c.name) = some c.name)
    (hall : ∀ name ∈ t.columnNames, name ∈ source.columnNames.map rename) :
    List.Forall₂ (RowKept engine rename source t') rows
      (rows.map (copiedRow engine t columns selected)) := by
  rw [List.forall₂_map_right_iff]
  refine List.forall₂_same.mpr fun row hrow => ⟨fun c hc => ?_, fun c' hc' hnew => ?_⟩
  · obtain ⟨hmem, hlookup⟩ := hcopied c hc
    obtain ⟨d, hd, hname⟩ := List.mem_map.mp hmem
    rw [← hname] at hlookup ⊢
    exact h.copiedRow_apply hholds hrow hd hlookup
  · rw [ht'] at hc'
    exact absurd (hall c'.name (List.mem_map_of_mem hc')) hnew

end

/-! ## The statements of a rebuild -/

section

variable {ρ : Type} [DecidableEq ρ] {engine : Engine ρ} {db : Database ρ}

theorem exec_insertSelect {name source : String} {columns selected : List String} {t t' : Table}
    {rows : List (Row ρ)} (hsource : findWith db.tables source selected = .ok t')
    (htarget : findTarget db.tables name columns selected.length = .ok t)
    (hrows : (db.rows source).foldlM
      (fun rows row => insertRow engine t rows (columns.zip (selected.map row))) (db.rows name)
        = .ok rows) :
    exec engine db (.insertSelect name columns source selected)
      = .ok ⟨db.tables, Function.update db.rows name rows⟩ := by
  simp [exec, execSchema, hsource, htarget, execRows, bind, Except.bind, pure, Except.pure,
    Except.map, hrows]

theorem exec_dropTable {name : String} {t : Table} (hfind : find db.tables name = some t) :
    exec engine db (.dropTable name)
      = .ok ⟨db.tables.filter fun t => t.name ≠ name, Function.update db.rows name []⟩ := by
  simp [exec, execSchema, hfind, execRows, bind, Except.bind, pure, Except.pure]

theorem exec_renameTable {name newName : String} {t : Table}
    (hfind : find db.tables name = some t) (hnew : find db.tables newName = none) :
    exec engine db (.renameTable name newName)
      = .ok ⟨setTable db.tables name { t with name := newName },
          Function.update (Function.update db.rows newName (db.rows name)) name []⟩ := by
  simp only [exec, execSchema, hfind, hnew, execRows, bind, Except.bind, pure, Except.pure]

/-- The tables after a rebuild. -/
def rebuiltTables (tables : List Table) (t : Table) (name : String) : List Table :=
  setTable ((tables ++ [t]).filter fun t => t.name ≠ name) t.name { t with name := name }

theorem find_append_new {tables : List Table} {t : Table} (hnew : find tables t.name = none)
    (name : String) :
    find (tables ++ [t]) name = if name = t.name then some t else find tables name := by
  rw [find_append]
  by_cases hname : name = t.name
  · subst hname
    simp [hnew]
  · simp [hname, Ne.symm hname]

theorem find_rebuiltTables {tables : List Table} {t : Table} {source : String}
    (hne : source ≠ t.name) (hnew : find tables t.name = none) (name : String) :
    find (rebuiltTables tables t source) name
      = if name = source then some { t with name := source }
        else if name = t.name then none else find tables name := by
  have hdropped : ∀ name, find ((tables ++ [t]).filter fun t => t.name ≠ source) name
      = if name = source then none else if name = t.name then some t else find tables name := by
    intro name
    rw [find_dropTable, find_append_new hnew]
  unfold rebuiltTables
  rw [find_renameTable rfl (by rw [hdropped, if_pos rfl]), hdropped, hdropped,
    if_neg (Ne.symm hne), if_pos rfl]
  by_cases hname : name = source
  · rw [if_pos hname, if_pos hname]
    rfl
  · by_cases hname' : name = t.name
    · simp only [if_neg hname, if_pos hname']
    · simp only [if_neg hname, if_neg hname']

end

section

variable {ρ : Type} {engine : Engine ρ} {t source : Table} {columns selected : List String}

/-- **Rebuilding a table.** A table is created, filled from another one and takes its place. -/
theorem execAll_rebuild [DecidableEq ρ] {db : Database ρ}
    (hsource : find db.tables source.name = some source) (hnew : find db.tables t.name = none)
    (hselected : ∀ c ∈ selected, c ∈ source.columnNames)
    (hcolumns : ∀ c ∈ columns, c ∈ t.columnNames)
    (hlength : columns.length = selected.length) (hcopies : Copies t source columns selected)
    (hholds : source.Holds engine (db.rows source.name)) :
    ∃ db', execAll engine db [.createTable t, .insertSelect t.name columns source.name selected,
        .dropTable source.name, .renameTable t.name source.name] = .ok db' ∧
      (∀ name, find db'.tables name
        = if name = source.name then some { t with name := source.name }
          else if name = t.name then none else find db.tables name) ∧
      db'.rows source.name
        = (db.rows source.name).map (copiedRow engine t columns selected) ∧
      ∀ name, name ≠ source.name → name ≠ t.name → db'.rows name = db.rows name := by
  have hne : source.name ≠ t.name := by
    intro heq
    rw [heq, hnew] at hsource
    cases hsource
  let copied := (db.rows source.name).map (copiedRow engine t columns selected)
  let rows₁ := Function.update db.rows t.name []
  let rows₂ := Function.update rows₁ t.name copied
  let rows₃ := Function.update rows₂ source.name []
  let rows₄ := Function.update (Function.update rows₃ source.name (rows₃ t.name)) t.name []
  let tables := (db.tables ++ [t]).filter fun t => t.name ≠ source.name
  have hsource₁ : find (db.tables ++ [t]) source.name = some source := by
    rw [find_append_new hnew, if_neg hne, hsource]
  have hcreate : exec engine db (.createTable t) = .ok ⟨db.tables ++ [t], rows₁⟩ :=
    exec_createTable hnew
  have hinsert : exec engine ⟨db.tables ++ [t], rows₁⟩
      (.insertSelect t.name columns source.name selected) = .ok ⟨db.tables ++ [t], rows₂⟩ := by
    apply exec_insertSelect (t := t)
    · unfold findWith
      simp only [hsource₁]
      rw [if_pos hselected]
    · unfold findTarget findWith
      simp only [find_append_new hnew, if_true]
      rw [if_pos hcolumns]
      simp [hlength, hcopies.rowId]
    · have hfrom : rows₁ source.name = db.rows source.name := Function.update_of_ne hne _ _
      have hempty : rows₁ t.name = [] := Function.update_self _ _ _
      show (rows₁ source.name).foldlM _ (rows₁ t.name) = Except.ok copied
      rw [hfrom, hempty]
      exact hcopies.foldlM_insertRow hholds
  have hdrop : exec engine ⟨db.tables ++ [t], rows₂⟩ (.dropTable source.name)
      = .ok ⟨tables, rows₃⟩ := exec_dropTable hsource₁
  have hrename : exec engine ⟨tables, rows₃⟩ (.renameTable t.name source.name)
      = .ok ⟨rebuiltTables db.tables t source.name, rows₄⟩ := by
    apply exec_renameTable
    · show find tables t.name = some t
      rw [find_dropTable, if_neg (Ne.symm hne), find_append_new hnew, if_pos rfl]
    · show find tables source.name = none
      rw [find_dropTable, if_pos rfl]
  refine ⟨⟨rebuiltTables db.tables t source.name, rows₄⟩, ?_, find_rebuiltTables hne hnew, ?_,
    fun name hname hname' => ?_⟩
  · unfold execAll
    simp only [List.foldlM_cons, List.foldlM_nil, hcreate, bind, Except.bind, hinsert, hdrop,
      hrename]
    rfl
  · show rows₄ source.name = copied
    calc rows₄ source.name = Function.update rows₃ source.name (rows₃ t.name) source.name :=
          Function.update_of_ne hne _ _
      _ = rows₃ t.name := Function.update_self _ _ _
      _ = rows₂ t.name := Function.update_of_ne (Ne.symm hne) _ _
      _ = copied := Function.update_self _ _ _
  · show rows₄ name = db.rows name
    calc rows₄ name = Function.update rows₃ source.name (rows₃ t.name) name :=
          Function.update_of_ne hname' _ _
      _ = rows₃ name := Function.update_of_ne hname _ _
      _ = rows₂ name := Function.update_of_ne hname _ _
      _ = rows₁ name := Function.update_of_ne hname' _ _
      _ = db.rows name := Function.update_of_ne hname' _ _

end

end Sql
