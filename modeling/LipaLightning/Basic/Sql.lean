import Mathlib.Data.List.Forall2
import Mathlib.Data.List.Nodup
import Mathlib.Logic.Function.Basic

set_option autoImplicit false

/-! # A fragment of SQL

The statements a schema migration is made of: `CREATE TABLE`, `ALTER TABLE … ADD COLUMN`,
`ALTER TABLE … RENAME TO`, `DROP TABLE` and the two forms of `INSERT`. A database is the list of its
tables with the rows of each. A row gives a value to every column name; the names that are no
column of its table do not matter.

The constraints are the ones SQLite enforces: `NOT NULL`, `UNIQUE` with its conflict clause, and
the affinity of a column, which converts what is written to it. How values are converted is left to
the `Engine`.
-/

namespace Sql

/-! ## Schemas and statements -/

/-- A stored value; `ρ` is the type of the floating point numbers. -/
inductive Value (ρ : Type) where
  | null
  | integer (i : Int)
  | real (x : ρ)
  | text (s : String)
  | blob (bytes : List UInt8)
  deriving DecidableEq, Repr

inductive Affinity where
  | text
  | integer
  deriving DecidableEq, Repr

/-- A constant in a statement. -/
inductive Literal where
  | null
  | integer (i : Int)
  | currentTimestamp
  deriving DecidableEq, Repr

structure Column where
  name : String
  affinity : Affinity
  isNotNull : Bool
  default : Literal
  deriving DecidableEq, Repr

namespace Column

def text (name : String) : Column := ⟨name, .text, false, .null⟩

def integer (name : String) : Column := ⟨name, .integer, false, .null⟩

def notNull (c : Column) : Column := { c with isNotNull := true }

def withDefault (c : Column) (default : Literal) : Column := { c with default := default }

end Column

/-- What an `INSERT` does when a row with the same key is there. -/
inductive Conflict where
  | abort
  | ignore
  | replace
  deriving DecidableEq, Repr

structure UniqueKey where
  columns : List String
  onConflict : Conflict
  deriving DecidableEq, Repr

structure Table where
  name : String
  columns : List Column
  /-- The column that is declared `INTEGER PRIMARY KEY`. -/
  rowId : Option String
  unique : List UniqueKey
  deriving DecidableEq, Repr

def Table.columnNames (t : Table) : List String := t.columns.map Column.name

def Table.withColumn (t : Table) (c : Column) : Table := { t with columns := t.columns ++ [c] }

inductive Statement where
  | createTable (t : Table)
  | addColumn (table : String) (column : Column)
  | insertValues (table : String) (columns : List String) (values : List Literal)
  | insertSelect (table : String) (columns : List String) (source : String)
      (selected : List String)
  | dropTable (table : String)
  | renameTable (table newName : String)
  deriving DecidableEq, Repr

inductive SqlError where
  | tableExists (table : String)
  | noSuchTable (table : String)
  | noSuchColumn (table : String)
  | duplicateColumn (column : String)
  | invalidDefault (column : String)
  | wrongNumberOfValues
  | rowIdGiven
  | notNullFailed (column : String)
  | uniqueFailed (table : String)
  deriving DecidableEq, Repr

/-! ## What a statement does to the schema -/

def find (tables : List Table) (name : String) : Option Table :=
  tables.find? fun t => t.name = name

def setTable (tables : List Table) (name : String) (t' : Table) : List Table :=
  tables.map fun t => if t.name = name then t' else t

/-- The table, if it has the columns; its row id cannot be written. -/
def findWith (tables : List Table) (name : String) (columns : List String) :
    Except SqlError Table :=
  match find tables name with
  | none => .error (.noSuchTable name)
  | some t =>
      if ∀ c ∈ columns, c ∈ t.columnNames then .ok t else .error (.noSuchColumn name)

/-- The table an `INSERT` writes to. -/
def findTarget (tables : List Table) (name : String) (columns : List String) (values : Nat) :
    Except SqlError Table :=
  match findWith tables name columns with
  | .error e => .error e
  | .ok t =>
      if columns.length ≠ values then .error .wrongNumberOfValues
      else if ∃ c ∈ columns, t.rowId = some c then .error .rowIdGiven
      else .ok t

def execSchema (tables : List Table) : Statement → Except SqlError (List Table)
  | .createTable t =>
      match find tables t.name with
      | some _ => .error (.tableExists t.name)
      | none => .ok (tables ++ [t])
  | .addColumn name c =>
      match find tables name with
      | none => .error (.noSuchTable name)
      | some t =>
          if c.name ∈ t.columnNames then .error (.duplicateColumn c.name)
          else if c.default = .currentTimestamp ∨ (c.isNotNull ∧ c.default = .null) then
            .error (.invalidDefault c.name)
          else .ok (setTable tables name (t.withColumn c))
  | .insertValues name columns values =>
      (findTarget tables name columns values.length).map fun _ => tables
  | .insertSelect name columns source selected =>
      match findWith tables source selected with
      | .error e => .error e
      | .ok _ => (findTarget tables name columns selected.length).map fun _ => tables
  | .dropTable name =>
      match find tables name with
      | none => .error (.noSuchTable name)
      | some _ => .ok (tables.filter fun t => t.name ≠ name)
  | .renameTable name newName =>
      match find tables name, find tables newName with
      | none, _ => .error (.noSuchTable name)
      | some _, some _ => .error (.tableExists newName)
      | some t, none => .ok (setTable tables name { t with name := newName })

/-! ## What a statement does to the rows -/

abbrev Row (ρ : Type) := String → Value ρ

/-- How values are converted to the affinity of a column, and the text that `CURRENT_TIMESTAMP`
stands for. -/
structure Engine (ρ : Type) where
  convert : Affinity → Value ρ → Value ρ
  now : String
  convert_eq_null : ∀ a v, convert a v = .null ↔ v = .null
  convert_integer : ∀ i, convert .integer (.integer i) = .integer i
  convert_convert : ∀ a v, convert a (convert a v) = convert a v

section

variable {ρ : Type} [DecidableEq ρ] (engine : Engine ρ)

def Engine.literal : Literal → Value ρ
  | .null => .null
  | .integer i => .integer i
  | .currentTimestamp => .text engine.now

/-- What a column without a value holds. -/
def Engine.default (c : Column) : Value ρ := engine.convert c.affinity (engine.literal c.default)

/-- The row id that is chosen for the next row. -/
def nextRowId (rows : List (Row ρ)) (rowId : String) : Int :=
  rows.foldl (fun next row => match row rowId with
    | .integer i => max next (i + 1)
    | _ => next) 1

/-- The value an `INSERT` writes to a column. -/
def insertedValue (t : Table) (rows : List (Row ρ)) (values : List (String × Value ρ))
    (c : Column) : Value ρ :=
  match values.lookup c.name with
  | some v => v
  | none =>
      if t.rowId = some c.name then .integer (nextRowId rows c.name) else engine.literal c.default

def insertedRow (t : Table) (rows : List (Row ρ)) (values : List (String × Value ρ)) : Row ρ :=
  fun name => match t.columns.find? fun c => c.name = name with
    | some c => engine.convert c.affinity (insertedValue engine t rows values c)
    | none => .null

/-- The rows have the same key; `NULL` is not the same as anything. -/
def UniqueKey.Conflicts (key : UniqueKey) (r s : Row ρ) : Prop :=
  ∀ c ∈ key.columns, r c ≠ .null ∧ r c = s c

instance (key : UniqueKey) (r s : Row ρ) : Decidable (key.Conflicts r s) :=
  inferInstanceAs (Decidable (∀ c ∈ key.columns, r c ≠ .null ∧ r c = s c))

/-- The row has the same key as `row`, for one of the keys with this conflict clause. -/
def inTheWay (t : Table) (conflict : Conflict) (row r : Row ρ) : Bool :=
  t.unique.any fun key => key.onConflict = conflict ∧ key.Conflicts r row

def insertRow (t : Table) (rows : List (Row ρ)) (values : List (String × Value ρ)) :
    Except SqlError (List (Row ρ)) :=
  let row := insertedRow engine t rows values
  match t.columns.find? fun c => c.isNotNull ∧ row c.name = .null with
  | some c => .error (.notNullFailed c.name)
  | none =>
      if rows.any (inTheWay t .abort row) then .error (.uniqueFailed t.name)
      else if rows.any (inTheWay t .ignore row) then .ok rows
      else .ok (rows.filter (fun r => !inTheWay t .replace row r) ++ [row])

structure Database (ρ : Type) where
  tables : List Table
  rows : String → List (Row ρ)

/-- The rows after the statement, given the schema before it. -/
def execRows (db : Database ρ) : Statement → Except SqlError (String → List (Row ρ))
  | .createTable t => .ok (Function.update db.rows t.name [])
  | .addColumn name c =>
      .ok (Function.update db.rows name
        ((db.rows name).map fun row => Function.update row c.name (engine.default c)))
  | .insertValues name columns values => do
      let t ← findTarget db.tables name columns values.length
      let rows ← insertRow engine t (db.rows name) (columns.zip (values.map engine.literal))
      return Function.update db.rows name rows
  | .insertSelect name columns source selected => do
      let t ← findTarget db.tables name columns selected.length
      let rows ← (db.rows source).foldlM
        (fun rows row => insertRow engine t rows (columns.zip (selected.map row))) (db.rows name)
      return Function.update db.rows name rows
  | .dropTable name => .ok (Function.update db.rows name [])
  | .renameTable name newName =>
      .ok (Function.update (Function.update db.rows newName (db.rows name)) name [])

def exec (db : Database ρ) (s : Statement) : Except SqlError (Database ρ) := do
  let tables ← execSchema db.tables s
  let rows ← execRows engine db s
  return ⟨tables, rows⟩

def execAll (db : Database ρ) (ss : List Statement) : Except SqlError (Database ρ) :=
  ss.foldlM (exec engine) db

theorem exec_tables {engine : Engine ρ} {db db' : Database ρ} {s : Statement}
    (h : exec engine db s = .ok db') : execSchema db.tables s = .ok db'.tables := by
  unfold exec at h
  cases htables : execSchema db.tables s with
  | error e => simp [htables, bind, Except.bind] at h
  | ok tables =>
      cases hrows : execRows engine db s with
      | error e => simp [htables, hrows, bind, Except.bind] at h
      | ok rows =>
          simp only [htables, hrows, bind, Except.bind, pure, Except.pure] at h
          obtain rfl := Except.ok.inj h
          rfl

/-- The schema does not depend on the rows. -/
theorem execAll_tables {engine : Engine ρ} {db db' : Database ρ} {ss : List Statement}
    (h : execAll engine db ss = .ok db') : ss.foldlM execSchema db.tables = .ok db'.tables := by
  unfold execAll at h
  induction ss generalizing db with
  | nil =>
      obtain rfl := Except.ok.inj h
      rfl
  | cons s ss ih =>
      rw [List.foldlM_cons] at h ⊢
      cases hexec : exec engine db s with
      | error e => simp [hexec, bind, Except.bind] at h
      | ok db₁ =>
          rw [hexec] at h
          rw [exec_tables hexec]
          exact ih h

/-! ## The constraints -/

/-- No two columns have the same name, and the rows meet the constraints of the table. -/
structure Table.Holds (t : Table) (rows : List (Row ρ)) : Prop where
  nodup : t.columnNames.Nodup
  notNull : ∀ row ∈ rows, ∀ c ∈ t.columns, c.isNotNull = true → row c.name ≠ .null
  converted : ∀ row ∈ rows, ∀ c ∈ t.columns, engine.convert c.affinity (row c.name) = row c.name
  unique : ∀ key ∈ t.unique, rows.Pairwise fun r s => ¬ key.Conflicts r s

def Database.WellFormed (db : Database ρ) : Prop :=
  ∀ name t, find db.tables name = some t → t.Holds engine (db.rows name)

end

end Sql
