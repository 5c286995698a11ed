import LipaLightning.Basic.Sql

set_option autoImplicit false

/-! # Statements that keep the data

`Keeps` relates two databases: every row of the first is a row of the second, with the same value
in every column, where columns may have another name; a column that is new holds its default. It
is reflexive and transitive, so that a migration keeps the data if each of its statements does.
`exists_execAll` is the rule for creating tables, adding columns and inserting constants: whether
such statements succeed and keep the data is decided by the schema alone (`additiveRun`).
-/

namespace Sql

/-! ## Finding tables -/

theorem find_append (tables : List Table) (t : Table) (name : String) :
    find (tables ++ [t]) name = (find tables name).or (if t.name = name then some t else none) := by
  unfold find
  rw [List.find?_append]
  by_cases h : t.name = name
  · simp [h]
  · simp [h]

theorem name_of_find {tables : List Table} {name : String} {t : Table}
    (h : find tables name = some t) : t.name = name := by
  simpa using List.find?_some h

theorem find_setTable (tables : List Table) {name : String} {t' : Table} (ht' : t'.name = name)
    (n : String) :
    find (setTable tables name t') n
      = if n = name then (find tables n).map fun _ => t' else find tables n := by
  unfold find setTable
  induction tables with
  | nil => simp
  | cons t tables ih =>
      rw [List.map_cons, List.find?_cons, List.find?_cons, ih]
      by_cases ht : t.name = name
      · by_cases hn : n = name
        · subst hn
          simp [ht, ht']
        · have hne : ¬ name = n := fun h => hn h.symm
          simp [ht, ht', hn, hne]
      · by_cases hn : n = name
        · subst hn
          simp [ht]
        · simp [ht, hn]

theorem findTarget_eq_ok {tables : List Table} {name : String} {columns : List String} {n : Nat}
    {t : Table} (h : findTarget tables name columns n = .ok t) :
    find tables name = some t ∧ columns.length = n ∧ ∀ c ∈ columns, t.rowId ≠ some c := by
  unfold findTarget findWith at h
  cases hfind : find tables name with
  | none => simp [hfind] at h
  | some t' =>
      simp only [hfind] at h
      by_cases hcolumns : ∀ c ∈ columns, c ∈ t'.columnNames
      · simp only [if_pos hcolumns] at h
        split at h
        · cases h
        · next hlength =>
            split at h
            · cases h
            · next hid =>
                obtain rfl := Except.ok.inj h
                exact ⟨rfl, not_not.mp hlength, fun c hc hrow => hid ⟨c, hc, hrow⟩⟩
      · simp only [if_neg hcolumns] at h
        cases h

/-! ## Databases that keep the rows of another one -/

/-- `t'` has all columns of `t`, renamed, with the same affinities and defaults. -/
structure Table.Extends (rename : String → String) (t t' : Table) : Prop where
  mem : ∀ c ∈ t.columns, rename c.name ∈ t'.columnNames
  same : ∀ c ∈ t.columns, ∀ c' ∈ t'.columns, c'.name = rename c.name →
    c'.affinity = c.affinity ∧ c'.default = c.default

theorem Table.Extends.trans {rename rename' : String → String} {t t' t'' : Table}
    (h : t.Extends rename t') (h' : t'.Extends rename' t'') :
    t.Extends (rename' ∘ rename) t'' := by
  have hmid : ∀ c ∈ t.columns, ∃ c' ∈ t'.columns, c'.name = rename c.name := fun c hc =>
    List.mem_map.mp (h.mem c hc)
  constructor
  · intro c hc
    obtain ⟨c', hc', hname⟩ := hmid c hc
    rw [Function.comp_apply, ← hname]
    exact h'.mem c' hc'
  · intro c hc c'' hc'' hname''
    obtain ⟨c', hc', hname⟩ := hmid c hc
    obtain ⟨haffinity, hdefault⟩ := h.same c hc c' hc' hname
    rw [Function.comp_apply, ← hname] at hname''
    obtain ⟨haffinity', hdefault'⟩ := h'.same c' hc' c'' hc'' hname''
    exact ⟨haffinity'.trans haffinity, hdefault'.trans hdefault⟩

section

variable {ρ : Type} (engine : Engine ρ)

/-- The row has the values of the other one in all columns, and defaults in the new ones. -/
structure RowKept (rename : String → String) (t t' : Table) (row row' : Row ρ) : Prop where
  old : ∀ c ∈ t.columns, row' (rename c.name) = row c.name
  new : ∀ c' ∈ t'.columns, c'.name ∉ t.columnNames.map rename → row' c'.name = engine.default c'

/-- All rows are kept. Tables in `grows` may have more rows. -/
def Keeps (rename : String → String → String) (grows : List String) (db db' : Database ρ) : Prop :=
  ∀ name t, find db.tables name = some t →
    ∃ t' kept added, find db'.tables name = some t' ∧ t.Extends (rename name) t' ∧
      db'.rows name = kept ++ added ∧ (added ≠ [] → name ∈ grows) ∧
      List.Forall₂ (RowKept engine (rename name) t t') (db.rows name) kept

/-- The column names stay as they are. -/
def sameNames : String → String → String := fun _ c => c

variable {engine}

theorem RowKept.trans {rename rename' : String → String} {t t' t'' : Table}
    {row row' row'' : Row ρ} (ht : t.Extends rename t') (ht' : t'.Extends rename' t'')
    (h : RowKept engine rename t t' row row') (h' : RowKept engine rename' t' t'' row' row'') :
    RowKept engine (rename' ∘ rename) t t'' row row'' := by
  constructor
  · intro c hc
    obtain ⟨c', hc', hname⟩ := List.mem_map.mp (ht.mem c hc)
    calc row'' (rename' (rename c.name)) = row'' (rename' c'.name) := by rw [hname]
      _ = row' c'.name := h'.old c' hc'
      _ = row' (rename c.name) := by rw [hname]
      _ = row c.name := h.old c hc
  · intro c'' hc'' hnew
    by_cases hmem : c''.name ∈ t'.columnNames.map rename'
    · -- the column was new in the first step
      obtain ⟨name', hname', heq⟩ := List.mem_map.mp hmem
      obtain ⟨c', hc', rfl⟩ := List.mem_map.mp hname'
      have hnew' : c'.name ∉ t.columnNames.map rename := by
        intro hold
        obtain ⟨name, hname, hrename⟩ := List.mem_map.mp hold
        refine hnew (List.mem_map.mpr ⟨name, hname, ?_⟩)
        rw [Function.comp_apply, hrename, heq]
      obtain ⟨haffinity, hdefault⟩ := ht'.same c' hc' c'' hc'' heq.symm
      calc row'' c''.name = row'' (rename' c'.name) := by rw [heq]
        _ = row' c'.name := h'.old c' hc'
        _ = engine.default c' := h.new c' hc' hnew'
        _ = engine.default c'' := by rw [Engine.default, Engine.default, haffinity, hdefault]
    · exact h'.new c'' hc'' hmem

/-- A table is kept as it is by a renaming that does not rename its columns. -/
theorem keeps_untouched (engine : Engine ρ) {rename : String → String} {t : Table}
    (ht : t.columnNames.Nodup)
    (hrename : ∀ c ∈ t.columns, rename c.name = c.name) (rows : List (Row ρ)) :
    t.Extends rename t ∧ List.Forall₂ (RowKept engine rename t t) rows rows := by
  refine ⟨⟨fun c hc => ?_, fun c hc c' hc' hname => ?_⟩, ?_⟩
  · rw [hrename c hc]
    exact List.mem_map_of_mem hc
  · rw [hrename c hc] at hname
    obtain rfl : c' = c := List.inj_on_of_nodup_map ht hc' hc hname
    exact ⟨rfl, rfl⟩
  · refine List.forall₂_same.mpr fun row _ => ⟨fun c hc => ?_, fun c hc hnew => ?_⟩
    · rw [hrename c hc]
    · exact absurd (List.mem_map.mpr ⟨c.name, List.mem_map_of_mem hc, hrename c hc⟩) hnew

/-- The value of a column, `NULL` if the table does not have it. -/
def Table.value (t : Table) (row : Row ρ) (column : String) : Value ρ :=
  if column ∈ t.columnNames then row column else .null

theorem Table.value_of_mem {t : Table} {column : String} (h : column ∈ t.columnNames)
    (row : Row ρ) : t.value row column = row column := if_pos h

/-- A column that existed has its value under its new name. -/
theorem RowKept.value_rename {rename : String → String} {t t' : Table} {row row' : Row ρ}
    (ht : t.Extends rename t') (h : RowKept engine rename t t' row row') {column : String}
    (hmem : column ∈ t.columnNames) : t'.value row' (rename column) = t.value row column := by
  obtain ⟨c, hc, rfl⟩ := List.mem_map.mp hmem
  rw [Table.value_of_mem hmem, Table.value_of_mem (ht.mem c hc)]
  exact h.old c hc

/-- A column that is not renamed has its value, be it new or not, if its default is `NULL`. -/
theorem RowKept.value_eq {rename : String → String} {t t' : Table} {row row' : Row ρ}
    (ht : t.Extends rename t') (h : RowKept engine rename t t' row row') {column : String}
    (hname : ∀ name, rename name = column ↔ name = column)
    (hdefault : ∀ c ∈ t'.columns, c.default = .null) :
    t'.value row' column = t.value row column := by
  by_cases hmem : column ∈ t.columnNames
  · have hvalue := h.value_rename ht hmem
    rwa [(hname column).mpr rfl] at hvalue
  · rw [Table.value, Table.value, if_neg hmem]
    split
    · next hmem' =>
        obtain ⟨c, hc, rfl⟩ := List.mem_map.mp hmem'
        have hnew : c.name ∉ t.columnNames.map rename := by
          intro hold
          obtain ⟨name, hmemName, heq⟩ := List.mem_map.mp hold
          exact hmem ((hname name).mp heq ▸ hmemName)
        rw [h.new c hc hnew, Engine.default, engine.convert_eq_null, hdefault c hc]
        rfl
    · rfl

/-- The rows kept in two steps. -/
theorem forall₂_trans {α β γ : Type} {R : α → β → Prop} {S : β → γ → Prop} {T : α → γ → Prop}
    {l : List α} {l' : List β} {l'' : List γ} (hl : List.Forall₂ R l l')
    (hl' : List.Forall₂ S l' l'') (h : ∀ a b c, R a b → S b c → T a c) :
    List.Forall₂ T l l'' := by
  induction hl generalizing l'' with
  | nil =>
      cases hl'
      exact .nil
  | cons hab _ ih =>
      cases hl' with
      | cons hbc hl' => exact .cons (h _ _ _ hab hbc) (ih hl')

theorem Keeps.trans {rename rename' : String → String → String} {grows grows' : List String}
    {db db' db'' : Database ρ} (h : Keeps engine rename grows db db')
    (h' : Keeps engine rename' grows' db' db'') :
    Keeps engine (fun name => rename' name ∘ rename name) (grows ++ grows') db db'' := by
  intro name t ht
  obtain ⟨t', kept, added, ht', hextends, hrows, hgrows, hkept⟩ := h name t ht
  obtain ⟨t'', kept', added', ht'', hextends', hrows', hgrows', hkept'⟩ := h' name t' ht'
  -- of the rows kept in the second step, the first ones are those kept in the first step
  have hfirst := List.forall₂_take kept.length hkept'
  rw [hrows, List.take_left] at hfirst
  refine ⟨t'', kept'.take kept.length, kept'.drop kept.length ++ added', ht'',
    hextends.trans hextends', ?_, ?_, ?_⟩
  · rw [hrows', ← List.append_assoc, List.take_append_drop]
  · intro hne
    rw [List.mem_append]
    by_cases hadded : added = []
    · right
      refine hgrows' fun hadded' => hne ?_
      have hlength := hkept'.length_eq
      rw [hrows, hadded, List.append_nil] at hlength
      rw [hadded', List.append_nil, List.drop_of_length_le (Nat.le_of_eq hlength.symm)]
    · exact .inl (hgrows hadded)
  · exact forall₂_trans hkept hfirst fun _ _ _ => RowKept.trans hextends hextends'

end

/-! ## Statements that only add -/

/-- The columns that must not be `NULL` have a value. -/
def Table.filledBy (t : Table) (values : List (String × Literal)) : Bool :=
  t.columns.all fun c => !c.isNotNull || (match values.lookup c.name with
    | some v => v ≠ .null
    | none => t.rowId = some c.name || c.default ≠ .null)

/-- The statement adds a table, a column or a row, and succeeds whatever the rows are. -/
def Statement.additive (tables : List Table) : Statement → Bool
  | .createTable t => t.columnNames.Nodup
  | .addColumn name c => (find tables name).any fun t =>
      t.columnNames.Nodup && t.unique.all fun key => !key.columns.contains c.name
  | .insertValues name columns values => (find tables name).any fun t =>
      t.columnNames.Nodup && t.unique.isEmpty && t.filledBy (columns.zip values)
  | _ => false

/-- The schema after the statements, if all of them only add. -/
def additiveRun (tables : List Table) : List Statement → Option (List Table)
  | [] => some tables
  | s :: ss =>
      if s.additive tables then
        match execSchema tables s with
        | .ok tables' => additiveRun tables' ss
        | .error _ => none
      else none

theorem additiveRun_append (tables : List Table) (ss ss' : List Statement) :
    additiveRun tables (ss ++ ss')
      = (additiveRun tables ss).bind fun tables' => additiveRun tables' ss' := by
  induction ss generalizing tables with
  | nil => rfl
  | cons s ss ih =>
      rw [List.cons_append, additiveRun, additiveRun]
      by_cases hs : s.additive tables = true
      · rw [if_pos hs, if_pos hs]
        cases execSchema tables s with
        | error e => rfl
        | ok tables' => exact ih tables'
      · rw [if_neg hs, if_neg hs]
        rfl

/-- The schema after the statements is the one that they make. -/
theorem foldlM_of_additiveRun {tables tables' : List Table} {ss : List Statement}
    (h : additiveRun tables ss = some tables') : ss.foldlM execSchema tables = .ok tables' := by
  induction ss generalizing tables with
  | nil =>
      obtain rfl := Option.some.inj h
      rfl
  | cons s ss ih =>
      rw [additiveRun] at h
      split at h
      · rw [List.foldlM_cons]
        cases hexec : execSchema tables s with
        | error e => simp [hexec] at h
        | ok tables₁ =>
            simp only [hexec] at h
            exact ih h
      · cases h

/-- The tables that rows are inserted into. -/
def targets (ss : List Statement) : List String :=
  ss.filterMap fun
    | .insertValues name _ _ => some name
    | _ => none

section

variable {ρ : Type} {engine : Engine ρ}

theorem engine_literal_ne_null {l : Literal} (h : l ≠ .null) : engine.literal l ≠ .null := by
  cases l with
  | null => exact absurd rfl h
  | integer i => exact nofun
  | currentTimestamp => exact nofun

/-- The inserted row at a column. -/
theorem insertedRow_apply {t : Table} (ht : t.columnNames.Nodup) (rows : List (Row ρ))
    (values : List (String × Value ρ)) {c : Column} (hc : c ∈ t.columns) :
    insertedRow engine t rows values c.name
      = engine.convert c.affinity (insertedValue engine t rows values c) := by
  unfold insertedRow
  have hfind : t.columns.find? (fun c' => c'.name = c.name) = some c := by
    obtain ⟨c', hc'⟩ := Option.isSome_iff_exists.mp
      (List.find?_isSome (p := fun c' : Column => c'.name = c.name).mpr ⟨c, hc, by simp⟩)
    have hname : c'.name = c.name := by simpa using List.find?_some hc'
    obtain rfl := List.inj_on_of_nodup_map ht (List.mem_of_find?_eq_some hc') hc hname
    exact hc'
  rw [hfind]

/-- Values given by position. -/
theorem lookup_zip_map {α β : Type} (f : α → β) (columns : List String) (values : List α)
    (name : String) :
    (columns.zip (values.map f)).lookup name = ((columns.zip values).lookup name).map f := by
  induction columns generalizing values with
  | nil => rfl
  | cons c columns ih =>
      cases values with
      | nil => rfl
      | cons v values =>
          rw [List.map_cons, List.zip_cons_cons, List.zip_cons_cons, List.lookup_cons,
            List.lookup_cons, ih]
          cases name == c <;> rfl

/-- A row of constants is not `NULL` where it must not be. -/
theorem insertedRow_ne_null (engine : Engine ρ) {t : Table} (ht : t.columnNames.Nodup)
    (rows : List (Row ρ)) {columns : List String} {values : List Literal}
    (hfilled : t.filledBy (columns.zip values) = true) {c : Column} (hc : c ∈ t.columns)
    (hnotNull : c.isNotNull = true) :
    insertedRow engine t rows (columns.zip (values.map engine.literal)) c.name ≠ .null := by
  rw [insertedRow_apply ht rows _ hc, Ne, engine.convert_eq_null]
  have hvalue := List.all_eq_true.mp hfilled c hc
  rw [hnotNull] at hvalue
  unfold insertedValue
  rw [lookup_zip_map]
  cases hlookup : (columns.zip values).lookup c.name with
  | some v =>
      simp only [hlookup] at hvalue
      exact engine_literal_ne_null (by simpa using hvalue)
  | none =>
      simp only [hlookup] at hvalue
      dsimp only [Option.map_none]
      by_cases hid : t.rowId = some c.name
      · rw [if_pos hid]
        exact nofun
      · rw [if_neg hid]
        exact engine_literal_ne_null (by simpa [hid] using hvalue)

/-- The constraints of a table hold after a column has been added. -/
theorem Table.Holds.addColumn {t : Table} {rows : List (Row ρ)} (h : t.Holds engine rows)
    {c : Column} (hc : c.name ∉ t.columnNames) (hkeys : ∀ key ∈ t.unique, c.name ∉ key.columns)
    (hdefault : c.isNotNull = true → c.default ≠ .null) :
    (t.withColumn c).Holds engine
      (rows.map fun row => Function.update row c.name (engine.default c)) := by
  have hold : ∀ c' ∈ t.columns, c'.name ≠ c.name := fun c' hc' heq =>
    hc (heq ▸ List.mem_map_of_mem hc')
  constructor
  · show ((t.columns ++ [c]).map Column.name).Nodup
    rw [List.map_append]
    exact h.nodup.append (List.nodup_singleton _) (by simpa using hc)
  · intro row' hrow' c' hc' hnotNull
    obtain ⟨row, hrow, rfl⟩ := List.mem_map.mp hrow'
    rcases List.mem_append.mp hc' with hc' | hc'
    · rw [Function.update_of_ne (hold c' hc')]
      exact h.notNull row hrow c' hc' hnotNull
    · obtain rfl := List.mem_singleton.mp hc'
      rw [Function.update_self, Engine.default, Ne, engine.convert_eq_null]
      exact engine_literal_ne_null (hdefault hnotNull)
  · intro row' hrow' c' hc'
    obtain ⟨row, hrow, rfl⟩ := List.mem_map.mp hrow'
    rcases List.mem_append.mp hc' with hc' | hc'
    · rw [Function.update_of_ne (hold c' hc')]
      exact h.converted row hrow c' hc'
    · obtain rfl := List.mem_singleton.mp hc'
      rw [Function.update_self]
      exact engine.convert_convert _ _
  · intro key hkey
    rw [List.pairwise_map]
    refine (h.unique key hkey).imp fun {r s} hconflict hconflict' => hconflict fun n hn => ?_
    have hne : n ≠ c.name := fun heq => hkeys key hkey (heq ▸ hn)
    have hn' := hconflict' n hn
    rwa [Function.update_of_ne hne, Function.update_of_ne hne] at hn'

/-- A new column holds its default in every row. -/
theorem keeps_addColumn (engine : Engine ρ) {t : Table} {c : Column} (ht : t.columnNames.Nodup)
    (hc : c.name ∉ t.columnNames) (rows : List (Row ρ)) :
    t.Extends id (t.withColumn c) ∧
    List.Forall₂ (RowKept engine id t (t.withColumn c)) rows
      (rows.map fun row => Function.update row c.name (engine.default c)) := by
  have hold : ∀ c' ∈ t.columns, c'.name ≠ c.name := fun c' hc' heq =>
    hc (heq ▸ List.mem_map_of_mem hc')
  refine ⟨⟨fun c' hc' => ?_, fun c₁ hc₁ c₂ hc₂ hname => ?_⟩, ?_⟩
  · rw [Table.columnNames, Table.withColumn, List.map_append, List.mem_append]
    exact .inl (List.mem_map_of_mem hc')
  · rcases List.mem_append.mp hc₂ with hc₂ | hc₂
    · obtain rfl : c₂ = c₁ := List.inj_on_of_nodup_map ht hc₂ hc₁ hname
      exact ⟨rfl, rfl⟩
    · obtain rfl := List.mem_singleton.mp hc₂
      exact absurd hname.symm (hold c₁ hc₁)
  · rw [List.forall₂_map_right_iff]
    refine List.forall₂_same.mpr fun row _ => ⟨fun c' hc' => ?_, fun c' hc' hnew => ?_⟩
    · exact Function.update_of_ne (hold c' hc') _ _
    · rcases List.mem_append.mp hc' with hc' | hc'
      · refine absurd ?_ hnew
        rw [List.map_id]
        exact List.mem_map_of_mem hc'
      · obtain rfl := List.mem_singleton.mp hc'
        exact Function.update_self _ _ _

variable [DecidableEq ρ]

/-- A row that meets the constraints and has no key in common with the others is added. -/
theorem insertRow_of_fresh {t : Table} {rows : List (Row ρ)} {values : List (String × Value ρ)}
    (hnotNull : ∀ c ∈ t.columns, c.isNotNull = true →
      insertedRow engine t rows values c.name ≠ .null)
    (hfresh : ∀ r ∈ rows, ∀ key ∈ t.unique,
      ¬ key.Conflicts r (insertedRow engine t rows values)) :
    insertRow engine t rows values = .ok (rows ++ [insertedRow engine t rows values]) := by
  have hway : ∀ conflict, ∀ r ∈ rows,
      inTheWay t conflict (insertedRow engine t rows values) r = false := by
    intro conflict r hr
    unfold inTheWay
    rw [List.any_eq_false]
    intro key hkey h
    exact hfresh r hr key hkey (of_decide_eq_true h).2
  have hnone : t.columns.find? (fun c =>
      c.isNotNull ∧ insertedRow engine t rows values c.name = .null) = none := by
    rw [List.find?_eq_none]
    intro c hc h
    have hc' := of_decide_eq_true h
    exact hnotNull c hc hc'.1 hc'.2
  have hany : ∀ conflict,
      ¬ (rows.any (inTheWay t conflict (insertedRow engine t rows values)) = true) := by
    intro conflict h
    obtain ⟨r, hr, hin⟩ := List.any_eq_true.mp h
    rw [hway conflict r hr] at hin
    cases hin
  unfold insertRow
  simp only [hnone]
  rw [if_neg (hany .abort), if_neg (hany .ignore), List.filter_eq_self.mpr]
  intro r hr
  rw [hway .replace r hr]
  rfl

theorem exec_createTable {db : Database ρ} {t : Table} (hnew : find db.tables t.name = none) :
    exec engine db (.createTable t)
      = .ok ⟨db.tables ++ [t], Function.update db.rows t.name []⟩ := by
  simp [exec, execSchema, hnew, execRows, bind, Except.bind, pure, Except.pure]

theorem exec_addColumn {db : Database ρ} {name : String} {c : Column} {t : Table}
    (hfind : find db.tables name = some t) (hnew : c.name ∉ t.columnNames)
    (hdefault : ¬ (c.default = .currentTimestamp ∨ (c.isNotNull = true ∧ c.default = .null))) :
    exec engine db (.addColumn name c)
      = .ok ⟨setTable db.tables name (t.withColumn c), Function.update db.rows name
          ((db.rows name).map fun row => Function.update row c.name (engine.default c))⟩ := by
  simp [exec, execSchema, hfind, hnew, hdefault, execRows, bind, Except.bind, pure, Except.pure]

theorem exec_insertValues {db : Database ρ} {name : String} {columns : List String}
    {values : List Literal} {t : Table} {rows : List (Row ρ)}
    (htarget : findTarget db.tables name columns values.length = .ok t)
    (hrows : insertRow engine t (db.rows name) (columns.zip (values.map engine.literal))
      = .ok rows) :
    exec engine db (.insertValues name columns values)
      = .ok ⟨db.tables, Function.update db.rows name rows⟩ := by
  simp [exec, execSchema, htarget, execRows, bind, Except.bind, pure, Except.pure, Except.map,
    hrows]

/-- What an additive statement does, if the schema admits it. -/
theorem exec_additive_cases (engine : Engine ρ) {db : Database ρ} {s : Statement}
    {tables : List Table} (hs : s.additive db.tables = true)
    (htables : execSchema db.tables s = .ok tables) :
    (∃ t, s = .createTable t ∧ t.columnNames.Nodup ∧ find db.tables t.name = none ∧
      tables = db.tables ++ [t] ∧
      exec engine db s = .ok ⟨tables, Function.update db.rows t.name []⟩) ∨
    (∃ name c t, s = .addColumn name c ∧ find db.tables name = some t ∧ t.columnNames.Nodup ∧
      c.name ∉ t.columnNames ∧ (∀ key ∈ t.unique, c.name ∉ key.columns) ∧
      (c.isNotNull = true → c.default ≠ .null) ∧
      tables = setTable db.tables name (t.withColumn c) ∧
      exec engine db s = .ok ⟨tables, Function.update db.rows name
        ((db.rows name).map fun row => Function.update row c.name (engine.default c))⟩) ∨
    (∃ name columns values t row, s = .insertValues name columns values ∧
      find db.tables name = some t ∧ t.columnNames.Nodup ∧ t.unique = [] ∧ tables = db.tables ∧
      (∀ c ∈ t.columns, c.isNotNull = true → row c.name ≠ .null) ∧
      (∀ c ∈ t.columns, engine.convert c.affinity (row c.name) = row c.name) ∧
      exec engine db s
        = .ok ⟨tables, Function.update db.rows name (db.rows name ++ [row])⟩) := by
  cases s with
  | createTable t =>
      left
      unfold execSchema at htables
      cases hfind : find db.tables t.name with
      | some t' =>
          simp only [hfind] at htables
          cases htables
      | none =>
          simp only [hfind] at htables
          obtain rfl := Except.ok.inj htables
          exact ⟨t, rfl, of_decide_eq_true hs, hfind, rfl, exec_createTable hfind⟩
  | addColumn name c =>
      right
      left
      obtain ⟨t, hfind, hvalid⟩ := (Option.any_eq_true _ _).mp hs
      rw [Bool.and_eq_true, decide_eq_true_eq] at hvalid
      unfold execSchema at htables
      simp only [hfind] at htables
      split at htables
      · cases htables
      · next hnew =>
          split at htables
          · cases htables
          · next hdefault =>
              obtain rfl := Except.ok.inj htables
              refine ⟨name, c, t, rfl, hfind, hvalid.1, hnew, ?_, ?_, rfl, ?_⟩
              · simpa using hvalid.2
              · exact fun hnotNull hnull => hdefault (.inr ⟨hnotNull, hnull⟩)
              · exact exec_addColumn hfind hnew hdefault
  | insertValues name columns values =>
      right
      right
      obtain ⟨t, hfind, hvalid⟩ := (Option.any_eq_true _ _).mp hs
      simp only [Bool.and_eq_true, decide_eq_true_eq, List.isEmpty_iff] at hvalid
      obtain ⟨⟨hnodup, hunique⟩, hfilled⟩ := hvalid
      simp only [execSchema] at htables
      cases htarget : findTarget db.tables name columns values.length with
      | error e =>
          rw [htarget] at htables
          cases htables
      | ok t' =>
          have hfind' := (findTarget_eq_ok htarget).1
          obtain rfl : t = t' := Option.some.inj (hfind.symm.trans hfind')
          rw [htarget] at htables
          obtain rfl := Except.ok.inj htables
          have hnotNull : ∀ c ∈ t.columns, c.isNotNull = true →
              insertedRow engine t (db.rows name) (columns.zip (values.map engine.literal)) c.name
                ≠ .null :=
            fun _ hc => insertedRow_ne_null engine hnodup (db.rows name) hfilled hc
          refine ⟨name, columns, values, t,
            insertedRow engine t (db.rows name) (columns.zip (values.map engine.literal)), rfl,
            hfind, hnodup, hunique, rfl, hnotNull, fun c hc => ?_, ?_⟩
          · rw [insertedRow_apply hnodup _ _ hc]
            exact engine.convert_convert _ _
          · have hinsert := insertRow_of_fresh hnotNull
              (fun r _ key hkey => by rw [hunique] at hkey; cases hkey)
            exact exec_insertValues htarget hinsert
  | insertSelect => cases hs
  | dropTable => cases hs
  | renameTable => cases hs

/-- An additive statement succeeds. -/
theorem exists_exec (engine : Engine ρ) {db : Database ρ} {s : Statement} {tables : List Table}
    (hs : s.additive db.tables = true) (htables : execSchema db.tables s = .ok tables) :
    ∃ db', exec engine db s = .ok db' ∧ db'.tables = tables := by
  rcases exec_additive_cases engine hs htables with
    ⟨_, -, -, -, -, h⟩ | ⟨_, _, _, -, -, -, -, -, -, -, h⟩ |
    ⟨_, _, _, _, _, -, -, -, -, -, -, -, h⟩
  · exact ⟨_, h, rfl⟩
  · exact ⟨_, h, rfl⟩
  · exact ⟨_, h, rfl⟩

/-- An additive statement keeps the rows. -/
theorem exec_additive_keeps {db db' : Database ρ} {s : Statement} {tables : List Table}
    (hwf : db.WellFormed engine) (hs : s.additive db.tables = true)
    (htables : execSchema db.tables s = .ok tables) (hexec : exec engine db s = .ok db') :
    Keeps engine sameNames (targets [s]) db db' := by
  intro name t ht
  have hnodup := (hwf name t ht).nodup
  obtain ⟨hextends, hrows⟩ : t.Extends (sameNames name) t ∧
      List.Forall₂ (RowKept engine (sameNames name) t t) (db.rows name) (db.rows name) :=
    keeps_untouched engine hnodup (fun _ _ => rfl) (db.rows name)
  rcases exec_additive_cases engine hs htables with
    ⟨t₀, rfl, -, hfind, rfl, h⟩ | ⟨n, c, t₀, rfl, hfind, -, hc, -, -, rfl, h⟩ |
    ⟨n, columns, values, t₀, row, rfl, hfind, -, -, rfl, -, -, h⟩
  · obtain rfl := Except.ok.inj (h.symm.trans hexec)
    have hne : name ≠ t₀.name := by
      rintro rfl
      rw [hfind] at ht
      cases ht
    refine ⟨t, db.rows name, [], ?_, hextends, ?_, fun h => absurd rfl h, hrows⟩
    · rw [find_append, ht]
      rfl
    · rw [List.append_nil]
      exact Function.update_of_ne hne _ _
  · obtain rfl := Except.ok.inj (h.symm.trans hexec)
    have hname : (t₀.withColumn c).name = n := (name_of_find hfind : t₀.name = n)
    by_cases hn : name = n
    · subst hn
      obtain rfl : t = t₀ := Option.some.inj (ht.symm.trans hfind)
      obtain ⟨hextends, hrows⟩ := keeps_addColumn engine hnodup hc (db.rows name)
      refine ⟨_, _, [], ?_, hextends, ?_, fun h => absurd rfl h, hrows⟩
      · dsimp only
        rw [find_setTable _ hname, if_pos rfl, ht]
        rfl
      · rw [List.append_nil]
        exact Function.update_self _ _ _
    · refine ⟨t, db.rows name, [], ?_, hextends, ?_, fun h => absurd rfl h, hrows⟩
      · dsimp only
        rw [find_setTable _ hname, if_neg hn, ht]
      · rw [List.append_nil]
        exact Function.update_of_ne hn _ _
  · obtain rfl := Except.ok.inj (h.symm.trans hexec)
    by_cases hn : name = n
    · subst hn
      exact ⟨t, db.rows name, [row], ht, hextends, Function.update_self _ _ _,
        fun _ => List.mem_singleton_self _, hrows⟩
    · refine ⟨t, db.rows name, [], ht, hextends, ?_, fun h => absurd rfl h, hrows⟩
      rw [List.append_nil]
      exact Function.update_of_ne hn _ _

/-- An additive statement keeps the constraints. -/
theorem exec_additive_wellFormed {db db' : Database ρ} {s : Statement} {tables : List Table}
    (hwf : db.WellFormed engine) (hs : s.additive db.tables = true)
    (htables : execSchema db.tables s = .ok tables) (hexec : exec engine db s = .ok db') :
    db'.WellFormed engine := by
  intro name t ht
  rcases exec_additive_cases engine hs htables with
    ⟨t₀, rfl, hnodup, hfind, rfl, h⟩ |
    ⟨n, c, t₀, rfl, hfind, hnodup, hc, hkeys, hdefault, rfl, h⟩ |
    ⟨n, columns, values, t₀, row, rfl, hfind, hnodup, hunique, rfl, hnotNull, hconverted, h⟩
  · obtain rfl := Except.ok.inj (h.symm.trans hexec)
    dsimp only at ht ⊢
    rw [find_append] at ht
    by_cases hname : name = t₀.name
    · -- the new table has no rows
      subst hname
      rw [hfind, Option.none_or, if_pos rfl] at ht
      obtain rfl := Option.some.inj ht
      rw [Function.update_self]
      exact ⟨hnodup, nofun, nofun, fun _ _ => .nil⟩
    · rw [if_neg (Ne.symm hname), Option.or_none] at ht
      rw [Function.update_of_ne hname]
      exact hwf name t ht
  · obtain rfl := Except.ok.inj (h.symm.trans hexec)
    have hname : (t₀.withColumn c).name = n := (name_of_find hfind : t₀.name = n)
    dsimp only at ht ⊢
    rw [find_setTable _ hname] at ht
    by_cases hn : name = n
    · subst hn
      rw [if_pos rfl, hfind] at ht
      obtain rfl := Option.some.inj ht
      rw [Function.update_self]
      exact (hwf name t₀ hfind).addColumn hc hkeys hdefault
    · rw [if_neg hn] at ht
      rw [Function.update_of_ne hn]
      exact hwf name t ht
  · obtain rfl := Except.ok.inj (h.symm.trans hexec)
    dsimp only at ht ⊢
    by_cases hn : name = n
    · subst hn
      obtain rfl : t = t₀ := Option.some.inj (ht.symm.trans hfind)
      rw [Function.update_self]
      have hholds := hwf name t ht
      refine ⟨hnodup, ?_, ?_, fun key hkey => by rw [hunique] at hkey; cases hkey⟩
      · rw [List.forall_mem_append]
        exact ⟨hholds.notNull, by simpa using hnotNull⟩
      · rw [List.forall_mem_append]
        exact ⟨hholds.converted, by simpa using hconverted⟩
    · rw [Function.update_of_ne hn]
      exact hwf name t ht

/-- **Additive migrations.** Statements that only add, as the schema tells, succeed on every
content; they keep the rows and the constraints. -/
theorem exists_execAll {db : Database ρ} {ss : List Statement} {tables : List Table}
    (hwf : db.WellFormed engine) (hrun : additiveRun db.tables ss = some tables) :
    ∃ db', execAll engine db ss = .ok db' ∧ db'.tables = tables ∧ db'.WellFormed engine ∧
      Keeps engine sameNames (targets ss) db db' := by
  induction ss generalizing db with
  | nil =>
      obtain rfl := Option.some.inj hrun
      refine ⟨db, rfl, rfl, hwf, fun name t ht => ?_⟩
      obtain ⟨hextends, hrows⟩ : t.Extends (sameNames name) t ∧
          List.Forall₂ (RowKept engine (sameNames name) t t) (db.rows name) (db.rows name) :=
        keeps_untouched engine (hwf name t ht).nodup (fun _ _ => rfl) (db.rows name)
      exact ⟨t, db.rows name, [], ht, hextends, (List.append_nil _).symm, fun h => absurd rfl h,
        hrows⟩
  | cons s ss ih =>
      unfold additiveRun at hrun
      split at hrun
      · next hs =>
          cases htables : execSchema db.tables s with
          | error e => simp [htables] at hrun
          | ok tables₁ =>
              simp only [htables] at hrun
              obtain ⟨db₁, hexec, hschema⟩ := exists_exec engine hs htables
              have hwf₁ := exec_additive_wellFormed hwf hs htables hexec
              have hkeeps := exec_additive_keeps hwf hs htables hexec
              rw [← hschema] at hrun
              obtain ⟨db', hall, hschema', hwf', hkeeps'⟩ := ih hwf₁ hrun
              refine ⟨db', ?_, hschema', hwf', ?_⟩
              · unfold execAll at hall ⊢
                rw [List.foldlM_cons, hexec]
                exact hall
              · have htargets : targets (s :: ss) = targets [s] ++ targets ss := by
                  rw [targets, ← List.singleton_append, List.filterMap_append]
                  rfl
                rw [htargets]
                exact hkeeps.trans hkeeps'
      · cases hrun

end

end Sql
