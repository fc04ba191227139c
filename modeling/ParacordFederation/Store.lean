import ParacordFederation.Python

/-!
The SQLite stores the scripts write to. Both versions of `clone_shared_guild_and_channel`
copy whole rows (`SELECT *`, then `dict(row)`) out of node A's store into another node's
through `insert_row`, which runs `INSERT OR IGNORE`. A row is its columns in table order, with
SQLite's storage classes as values; a store is its tables by name, each in `rowid` order, the
order a query without `ORDER BY` returns them in.

What `INSERT OR IGNORE` does with a row depends on the constraints the server's migrations
declare, which the scripts never see: they are the `Schema` parameter. A row that breaks a
`NOT NULL` or `CHECK` constraint, or collides with a stored row on a `PRIMARY KEY` or `UNIQUE`
one, is skipped; under `PRAGMA foreign_keys = ON` (`db_connect`) a row whose `FOREIGN KEY` does
not resolve raises instead, since `OR IGNORE` does not cover foreign keys.
-/

namespace ParacordFederation

inductive SqlValue where
  | null
  | integer (value : Int)
  | real (value : ℚ)
  | text (value : String)
  | blob (bytes : List UInt8)
  deriving DecidableEq

/-- SQLite's `=` on two column values: numbers compare by value whatever their class, text and
blobs by content, and `NULL` equals nothing. -/
def SqlValue.sqlEq : SqlValue → SqlValue → Bool
  | .integer a, .integer b => a == b
  | .integer a, .real b => (a : ℚ) == b
  | .real a, .integer b => a == (b : ℚ)
  | .real a, .real b => a == b
  | .text a, .text b => a == b
  | .blob a, .blob b => a == b
  | _, _ => false

theorem lookup_cons_ite {β : Type} (name key : String) (value : β) (rest : List (String × β)) :
    List.lookup name ((key, value) :: rest) = if name = key then some value else rest.lookup name := by
  by_cases same : name = key <;> simp [List.lookup_cons, same, beq_false_of_ne]

/-- A row as `dict(row)` gives it: each column's name and value, in the table's column order. -/
structure Row where
  columns : List (String × SqlValue)
  deriving DecidableEq

namespace Row

def get (row : Row) (column : String) : Option SqlValue := row.columns.lookup column

/-- Python's `row[column] = value` on a dict: a column the row has keeps its place, a new one
goes last. -/
def set (row : Row) (column : String) (value : SqlValue) : Row := ⟨setColumn row.columns⟩
where
  setColumn : List (String × SqlValue) → List (String × SqlValue)
    | [] => [(column, value)]
    | (name, old) :: rest =>
        if column = name then (name, value) :: rest else (name, old) :: setColumn rest

def eqInt (row : Row) (column : String) (value : Int) : Bool :=
  (row.get column).any (·.sqlEq (.integer value))

def project (row : Row) (columns : List String) : Row :=
  ⟨columns.map fun column => (column, (row.get column).getD .null)⟩

theorem setColumn_lookup (column : String) (value : SqlValue) :
    ∀ columns : List (String × SqlValue), (set.setColumn column value columns).lookup column = some value
  | [] => by simp [set.setColumn, lookup_cons_ite]
  | (name, old) :: rest => by
      by_cases same : column = name <;>
        simp [set.setColumn, same, lookup_cons_ite, setColumn_lookup column value rest]

@[simp] theorem get_set (row : Row) (column : String) (value : SqlValue) :
    (row.set column value).get column = some value :=
  setColumn_lookup column value row.columns

end Row

/-- A node's SQLite store: each table's name and rows, in `rowid` order. -/
structure Store where
  tables : List (String × List Row)
  deriving DecidableEq

namespace Store

/-- The rows of a table; a table the store lacks reads as empty. -/
def rows (store : Store) (table : String) : List Row := (store.tables.lookup table).getD []

def select (store : Store) (table : String) (conditions : List (String × Int)) : List Row :=
  (store.rows table).filter fun row => conditions.all fun (column, value) => row.eqInt column value

def append (store : Store) (table : String) (row : Row) : Store := ⟨appendTo store.tables⟩
where
  appendTo : List (String × List Row) → List (String × List Row)
    | [] => [(table, [row])]
    | (name, rows) :: rest =>
        if table = name then (name, rows ++ [row]) :: rest else (name, rows) :: appendTo rest

theorem appendTo_lookup (table : String) (row : Row) (name : String) :
    ∀ tables : List (String × List Row),
      ((append.appendTo table row tables).lookup name).getD [] =
        if name = table then (tables.lookup table).getD [] ++ [row] else (tables.lookup name).getD []
  | [] => by by_cases same : name = table <;> simp [append.appendTo, lookup_cons_ite, same]
  | (key, rows) :: rest => by
      by_cases here : table = key
      · subst here
        by_cases same : name = table <;> simp [append.appendTo, lookup_cons_ite, same]
      · have later := appendTo_lookup table row name rest
        by_cases same : name = table
        · subst same
          simp_all [append.appendTo, lookup_cons_ite]
        · by_cases there : name = key <;> simp_all [append.appendTo, lookup_cons_ite]

@[simp] theorem rows_append (store : Store) (table : String) (row : Row) (name : String) :
    (store.append table row).rows name =
      if name = table then store.rows table ++ [row] else store.rows name :=
  appendTo_lookup table row name store.tables

def Extends (before after : Store) : Prop := ∀ table, before.rows table <+: after.rows table

end Store

/-- The constraints of the server's schema that decide an `INSERT OR IGNORE`. -/
structure Schema where
  /-- Whether a row satisfies its table's `NOT NULL` and `CHECK` constraints. -/
  checks : String → Row → Bool
  /-- Whether a new row (the second) collides with a stored one (the first) on one of its
  table's `PRIMARY KEY` or `UNIQUE` constraints. -/
  collides : String → Row → Row → Bool
  /-- Whether a row's `FOREIGN KEY` references resolve in the store it goes into. -/
  resolves : Store → String → Row → Bool

namespace Schema

/-- Whether `INSERT OR IGNORE` skips a row: it breaks a row constraint, or collides with a row
the table holds. -/
def ignores (schema : Schema) (store : Store) (table : String) (row : Row) : Bool :=
  !schema.checks table row || (store.rows table).any fun stored => schema.collides table stored row

/-- Every table has a key: a row collides with itself. -/
def Keyed (schema : Schema) : Prop := ∀ table row, schema.collides table row row = true

theorem ignores_mono (schema : Schema) {before after : Store} (grown : before.Extends after)
    {table : String} {row : Row} (skipped : schema.ignores before table row = true) :
    schema.ignores after table row = true := by
  obtain ⟨added, grows⟩ := grown table
  simp only [ignores, ← grows, List.any_append, Bool.or_eq_true] at skipped ⊢
  rcases skipped with broken | collision
  · exact .inl broken
  · exact .inr (.inl collision)

theorem ignores_of_mem (schema : Schema) (keyed : schema.Keyed) {store : Store} {table : String}
    {row : Row} (stored : row ∈ store.rows table) : schema.ignores store table row = true := by
  simp only [ignores, Bool.or_eq_true, List.any_eq_true]
  exact .inr ⟨row, stored, keyed table row⟩

end Schema

def foreignKeyFailed : PyException := ⟨"IntegrityError", "FOREIGN KEY constraint failed"⟩

/-- `insert_row(conn, table, row)`: `INSERT OR IGNORE INTO table (cols) VALUES (...)` with the
dict's columns and values. -/
def insertRow (schema : Schema) (conn : Store) (table : String) (row : Row) :
    Except PyException Store :=
  if schema.ignores conn table row then .ok conn
  else if schema.resolves conn table row then .ok (conn.append table row)
  else .error foreignKeyFailed

theorem insertRow_of_ignores {schema : Schema} {conn : Store} {table : String} {row : Row}
    (skipped : schema.ignores conn table row = true) : insertRow schema conn table row = .ok conn :=
  if_pos skipped

theorem insertRow_cases {schema : Schema} {conn after : Store} {table : String} {row : Row}
    (inserted : insertRow schema conn table row = .ok after) :
    (schema.ignores conn table row = true ∧ after = conn) ∨
      (schema.ignores conn table row = false ∧ after = conn.append table row) := by
  unfold insertRow at inserted
  split at inserted
  · exact .inl ⟨‹_›, (Except.ok.inj inserted).symm⟩
  · split at inserted
    · exact .inr ⟨Bool.eq_false_iff.2 ‹_›, (Except.ok.inj inserted).symm⟩
    · cases inserted

theorem insertRow_error {schema : Schema} {conn : Store} {table : String} {row : Row}
    {error : PyException} (failed : insertRow schema conn table row = .error error) :
    error = foreignKeyFailed := by
  unfold insertRow at failed
  split at failed
  · cases failed
  · split at failed
    · cases failed
    · exact (Except.error.inj failed).symm

theorem bind_eq_ok {α β ε : Type} {x : Except ε α} {f : α → Except ε β} {b : β} :
    x >>= f = .ok b ↔ ∃ a, x = .ok a ∧ f a = .ok b := by
  cases x <;> simp [bind, Except.bind]

theorem bind_eq_error {α β ε : Type} {x : Except ε α} {f : α → Except ε β} {error : ε} :
    x >>= f = .error error ↔ x = .error error ∨ ∃ a, x = .ok a ∧ f a = .error error := by
  cases x <;> simp [bind, Except.bind]

/-- The `insert_row` calls of one clone, run in order in the target's open transaction; the
first error ends the run. -/
def insertAll (schema : Schema) (conn : Store) (plan : List (String × Row)) :
    Except PyException Store :=
  plan.foldlM (fun conn entry => insertRow schema conn entry.1 entry.2) conn

def plannedRows (plan : List (String × Row)) (table : String) : List Row :=
  plan.filterMap fun entry => if entry.1 = table then some entry.2 else none

theorem mem_plannedRows {plan : List (String × Row)} {table : String} {row : Row} :
    row ∈ plannedRows plan table ↔ (table, row) ∈ plan := by
  simp only [plannedRows, List.mem_filterMap, Option.ite_none_right_eq_some, Option.some.injEq]
  constructor
  · rintro ⟨⟨name, planned⟩, mem, rfl, rfl⟩
    exact mem
  · exact fun mem => ⟨(table, row), mem, rfl, rfl⟩

/-- `Grows before plan after`: each table of `after` is its rows in `before` followed by some
of the rows the plan holds for it, in plan order. -/
def Grows (before : Store) (plan : List (String × Row)) (after : Store) : Prop :=
  ∀ table, ∃ added, after.rows table = before.rows table ++ added ∧ added.Sublist (plannedRows plan table)

theorem Grows.toExtends {before after : Store} {plan : List (String × Row)}
    (grown : Grows before plan after) : before.Extends after := fun table => by
  obtain ⟨added, grows, -⟩ := grown table
  exact ⟨added, grows.symm⟩

theorem Grows.added_planned {before after : Store} {plan : List (String × Row)}
    (grown : Grows before plan after) (table : String) :
    ∃ added, after.rows table = before.rows table ++ added ∧ ∀ row ∈ added, (table, row) ∈ plan := by
  obtain ⟨added, grows, planned⟩ := grown table
  exact ⟨added, grows, fun row mem => mem_plannedRows.1 (planned.subset mem)⟩

section Runs

variable (schema : Schema)

@[simp] theorem insertAll_nil (conn : Store) : insertAll schema conn [] = .ok conn := rfl

theorem insertAll_cons (conn : Store) (entry : String × Row) (plan : List (String × Row)) :
    insertAll schema conn (entry :: plan) =
      insertRow schema conn entry.1 entry.2 >>= fun conn => insertAll schema conn plan := rfl

theorem insertAll_append (conn : Store) (plan rest : List (String × Row)) :
    insertAll schema conn (plan ++ rest) =
      insertAll schema conn plan >>= fun conn => insertAll schema conn rest :=
  List.foldlM_append _ _ _ _

theorem insertAll_grows : ∀ (plan : List (String × Row)) (conn after : Store),
    insertAll schema conn plan = .ok after → Grows conn plan after
  | [], conn, after, ran => by
      cases ran
      exact fun table => ⟨[], by simp, List.nil_sublist _⟩
  | (table, row) :: plan, conn, after, ran => by
      obtain ⟨next, first, rest⟩ := bind_eq_ok.1 ran
      intro name
      obtain ⟨added, grows, planned⟩ := insertAll_grows plan next after rest name
      rcases insertRow_cases first with ⟨-, rfl⟩ | ⟨-, rfl⟩
      · refine ⟨added, grows, planned.trans ?_⟩
        by_cases same : table = name <;> simp [plannedRows, same]
      · by_cases same : name = table
        · subst same
          exact ⟨row :: added, by simpa using grows, by simpa [plannedRows] using planned⟩
        · refine ⟨added, by simpa [same] using grows, planned.trans ?_⟩
          simp [plannedRows, Ne.symm same]

theorem insertAll_covers (keyed : schema.Keyed) : ∀ (plan : List (String × Row)) (conn after : Store),
    insertAll schema conn plan = .ok after → ∀ entry ∈ plan, schema.ignores after entry.1 entry.2
  | [], _, _, _ => by simp
  | (table, row) :: plan, conn, after, ran => by
      obtain ⟨next, first, rest⟩ := bind_eq_ok.1 ran
      have grown := (insertAll_grows schema plan next after rest).toExtends
      have skipped : schema.ignores next table row = true := by
        rcases insertRow_cases first with ⟨skipped, rfl⟩ | ⟨-, rfl⟩
        · exact skipped
        · exact schema.ignores_of_mem keyed (by simp)
      rintro entry (_ | ⟨_, later⟩)
      · exact schema.ignores_mono grown skipped
      · exact insertAll_covers keyed plan next after rest entry later

theorem insertAll_of_ignores : ∀ (plan : List (String × Row)) (conn : Store),
    (∀ entry ∈ plan, schema.ignores conn entry.1 entry.2) → insertAll schema conn plan = .ok conn
  | [], _, _ => rfl
  | entry :: plan, conn, skipped => by
      rw [insertAll_cons, insertRow_of_ignores (skipped entry (.head _))]
      exact insertAll_of_ignores plan conn fun later mem => skipped later (.tail _ mem)

theorem insertAll_idempotent (keyed : schema.Keyed) {plan : List (String × Row)}
    {conn after : Store} (ran : insertAll schema conn plan = .ok after) :
    insertAll schema after plan = .ok after :=
  insertAll_of_ignores schema plan after (insertAll_covers schema keyed plan conn after ran)

theorem insertAll_error : ∀ (plan : List (String × Row)) (conn : Store) (error : PyException),
    insertAll schema conn plan = .error error → error = foreignKeyFailed
  | [], _, _, failed => by cases failed
  | (table, row) :: plan, conn, error, failed => by
      rcases bind_eq_error.1 failed with first | ⟨next, -, rest⟩
      · exact insertRow_error first
      · exact insertAll_error plan next error rest

end Runs

end ParacordFederation
