import FactStore.RowSet
import FactStore.Tuple

/-
  This file defines relations.  A memory relation keeps a
  set of rows in ascending order; a log relation keeps every
  row in the order of arrival.

  Key definitions include:
    * `Storage`
    * `Relation`
    * `Relation.signature`
    * `Relation.insert`
    * `Relation.contains`
    * `Relation.insertRow`, `Relation.extendRows`
    * `Relation.encodeRow`
-/

namespace FactStore

------------------------------------------------------------
-- Relations
------------------------------------------------------------

/- How a relation keeps its rows. -/
inductive Storage where
| memory (rows : RowSet)
| log (rows : List Row)
deriving DecidableEq, Repr

/- The rows of a storage, in the order of iteration. -/
def Storage.rows : Storage → List Row
| memory rows => rows.rows
| log rows => rows

/-
  A relation: its schema, the table that its symbol cells
  are ids of, and its rows.
-/
structure Relation where
  schema : Schema
  table : TableId
  storage : Storage
deriving DecidableEq, Repr

namespace Relation

/- An empty relation that keeps a set of rows. -/
def memory
    (schema : Schema)
    (table : TableId) : Relation :=
  ⟨schema, table, .memory .empty⟩

/-
  An empty relation that keeps every row.  Its columns carry
  no names of declared types.
-/
def log
    (schema : Schema)
    (table : TableId) : Relation :=
  ⟨schema.withoutTypeNames, table, .log []⟩

instance : Inhabited Relation := ⟨memory default default⟩

/- The rows, in the order of iteration. -/
def rows (r : Relation) : List Row :=
  r.storage.rows

/- The number of rows. -/
def size (r : Relation) : Nat :=
  r.rows.length

/- Whether there are no rows. -/
def isEmpty (r : Relation) : Bool :=
  r.size == 0

/- The name of the relation. -/
def name (r : Relation) : String :=
  r.schema.name

/- The number of columns. -/
def arity (r : Relation) : Nat :=
  r.schema.arity

/- A column of the relation. -/
def attributeAt
    (r : Relation)
    (column : Nat) : Except Violation Attribute :=
  match r.schema.attributes[column]? with
  | some a => .ok a
  | none => .error (.indexOutOfBounds r.arity column)

/-
  The name under which the type of a column was declared.
  A log relation knows none, for any column.
-/
def typeName
    (r : Relation)
    (column : Nat) : Except Violation (Option String) :=
  match r.storage with
  | .log _ => .ok none
  | .memory _ => (r.attributeAt column).map (·.typeName)

/-
  The type of a column as text: its tag, and the name of the
  declared type behind a colon where there is one.
-/
def columnText
    (r : Relation)
    (column : Nat) : Except Violation String := do
  let tag := (← r.attributeAt column).type.tag.toString
  match ← r.typeName column with
  | some name => return tag ++ ":" ++ name
  | none => return tag

/-
  The signature of the relation, written column by column
  from what it says about each of them.
-/
def signature (r : Relation) : Except Violation String := do
  let texts ← (List.range r.arity).mapM r.columnText
  return "<" ++ ",".intercalate texts ++ ">"

/- A tuple of zero cells that is bound to the relation. -/
def blankTuple (r : Relation) : Tuple :=
  .blank r.schema r.table

/- The rows as a set. -/
def rowSet (r : Relation) : RowSet :=
  match r.storage with
  | .memory rows => rows
  | .log rows => RowSet.empty.extend rows

/- The relation with a given set of rows. -/
def withRowSet
    (r : Relation)
    (rows : RowSet) : Relation :=
  { r with storage := .memory rows }

------------------------------------------------------------
-- Rows of Cells
------------------------------------------------------------

/- Remove every row. -/
def purge (r : Relation) : Relation :=
  match r.storage with
  | .memory _ => { r with storage := .memory .empty }
  | .log _ => { r with storage := .log [] }

/- Whether a row is stored. -/
def containsRow
    (r : Relation)
    (row : Row) : Bool :=
  r.rows.contains row

/-
  Store one row; the answer says whether it is new.  A
  memory relation takes only rows as wide as its schema.
-/
def insertRow
    (r : Relation)
    (row : Row) : Except Violation (Bool × Relation) :=
  match r.storage with
  | .memory rows =>
      if row.length = r.arity then
        .ok
          (!rows.contains row,
            { r with storage := .memory (rows.insert row) })
      else
        .error (.rowWidth r.name row.length r.arity)
  | .log rows =>
      .ok (true, { r with storage := .log (rows ++ [row]) })

/-
  Store many rows at once; the answer counts the new ones.
  The widths of the rows are not looked at.
-/
def extendRows
    (r : Relation)
    (added : List Row) : Nat × Relation :=
  match r.storage with
  | .memory rows =>
      let rows' := rows.extend added
      (rows'.size - rows.size, { r with storage := .memory rows' })
  | .log rows =>
      (added.length, { r with storage := .log (rows ++ added) })

------------------------------------------------------------
-- Tuples
------------------------------------------------------------

/-
  Store a tuple.  A memory relation takes only tuples whose
  relation has the same signature as its own.
-/
def insert
    (r : Relation)
    (t : Tuple) : Except Violation Relation :=
  match r.storage with
  | .memory _ =>
      if t.schema.signature = r.schema.signature then
        (r.insertRow t.cells).map (·.2)
      else
        .error
          (.signatureMismatch t.schema.name r.name
            t.schema.signature r.schema.signature)
  | .log _ => (r.insertRow t.cells).map (·.2)

/- Whether the cells of a tuple are stored. -/
def contains
    (r : Relation)
    (t : Tuple) : Bool :=
  r.containsRow t.cells

/- The tuple of the row at an offset. -/
def tupleAt
    (r : Relation)
    (offset : Nat) : Except Violation Tuple :=
  match r.rows[offset]? with
  | some row => Tuple.ofStored r.schema r.table row
  | none => .error (.indexOutOfBounds r.size offset)

/-
  Encode a row of values against the relation's own table.
  A row of another width is refused before anything is
  interned.
-/
def encodeRow
    (r : Relation)
    (table : SymbolTable)
    (row : List Element) :
    Except Failure Tuple × SymbolTable :=
  if row.length = r.arity then
    match r.blankTuple.appendAll table row with
    | (.ok t, table') => (.ok t, table')
    | (.error v, table') => (.error (.violation v), table')
  else
    (.error (.error (.arityMismatch r.name r.arity row.length)),
      table)

end Relation

end FactStore
