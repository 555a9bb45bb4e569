import FactStore.Schema
import FactStore.SymbolTable
import FactStore.Violation

/-
  This file defines tuples: one record of a relation with a
  cursor that typed writes and typed reads move from left to
  right.  Each checks the column under the cursor before it
  touches anything, and a text is interned only after that.

  Key definitions include:
    * `ElementKind`, `Element`
    * `Tuple`
    * `Tuple.expect`
    * `Tuple.append`
    * `Tuple.appendAll`
    * `Tuple.read`

  Main statements include:
    * `Tuple.append_of_expect`
    * `Tuple.frame_of_append`
-/

namespace FactStore

------------------------------------------------------------
-- Elements
------------------------------------------------------------

/- The kinds of values that a typed write or read passes. -/
inductive ElementKind where
| text
| signed
| unsigned
| float
deriving DecidableEq, Repr

/-
  The columns that a kind of value may be written to or read
  from.  Any numeric column may be treated as signed.
-/
def ElementKind.fits : ElementKind → AttrType → Bool
| text, type => type.isSymbol
| signed, type => type.isNumeric
| unsigned, type => type = .unsigned
| float, type => type = .float

/- A value on the host's side of a tuple. -/
inductive Element where
| text (s : String)
| signed (n : Cell)
| unsigned (n : UInt32)
| float (x : Single)
deriving DecidableEq, Repr

/- The kind of a value. -/
def Element.kind : Element → ElementKind
| text _ => .text
| signed _ => .signed
| unsigned _ => .unsigned
| float _ => .float

/-
  The cell that stands for a value.  A text is looked up in
  the table; a number is stored by its bits.
-/
def Element.encode
    (e : Element)
    (table : SymbolTable) :
    Except Violation Cell × SymbolTable :=
  match e with
  | .text s => table.lookup s
  | .signed n => (.ok n, table)
  | .unsigned n => (.ok (Cell.ofUnsigned n), table)
  | .float x => (.ok (Cell.ofSingle x), table)

/- The value of a given kind that a cell stands for. -/
def Element.decode
    (kind : ElementKind)
    (table : SymbolTable)
    (c : Cell) : Except Violation Element :=
  match kind with
  | .text =>
      match table.resolve? c with
      | some s => .ok (.text s)
      | none => .error (.unknownSymbol c)
  | .signed => .ok (.signed c)
  | .unsigned => .ok (.unsigned (Cell.toUnsigned c))
  | .float => .ok (.float (Cell.toSingle c))

------------------------------------------------------------
-- Tuples
------------------------------------------------------------

/- The name under which a store keeps a symbol table. -/
structure TableId where
  index : Nat
deriving DecidableEq, Repr, Inhabited

/-
  A record that is bound to a relation: the relation's
  schema, the table that its symbol cells are ids of, the
  cells, and the column that the next typed write or read
  goes to.
-/
structure Tuple where
  schema : Schema
  table : TableId
  cells : Row
  position : Nat
deriving DecidableEq, Repr

namespace Tuple

/- The tuple of zero cells, at its first column. -/
def blank
    (schema : Schema)
    (table : TableId) : Tuple :=
  ⟨schema, table, List.replicate schema.arity 0, 0⟩

/- A tuple of given cells behind its last column. -/
def ofCells
    (schema : Schema)
    (table : TableId)
    (cells : Row) : Except AccessError Tuple :=
  if cells.length = schema.arity then
    .ok ⟨schema, table, cells, cells.length⟩
  else
    .error
      (.arityMismatch schema.name schema.arity cells.length)

/- A tuple of a stored row, at its first column. -/
def ofStored
    (schema : Schema)
    (table : TableId)
    (row : Row) : Except Violation Tuple :=
  if row.length = schema.arity then
    .ok ⟨schema, table, row, 0⟩
  else
    .error (.storedRowWidth row.length schema.arity)

/- Move the cursor to the first column. -/
def rewind (t : Tuple) : Tuple :=
  { t with position := 0 }

/- The cell of a column, whatever its type. -/
def get
    (t : Tuple)
    (column : Nat) : Except Violation Cell :=
  match t.cells[column]? with
  | some c => .ok c
  | none => .error (.indexOutOfBounds t.cells.length column)

/- Replace the cell of a column, whatever its type. -/
def set
    (t : Tuple)
    (column : Nat)
    (c : Cell) : Except Violation Tuple :=
  if column < t.cells.length then
    .ok { t with cells := t.cells.set column c }
  else
    .error (.indexOutOfBounds t.cells.length column)

/-
  Tuples are equal when their cells are, and the names of
  their relations; the cursor does not count.
-/
def sameRecord (t u : Tuple) : Bool :=
  t.cells = u.cells && t.schema.name = u.schema.name

/-
  Check that there is a column under the cursor and that it
  takes values of a kind.
-/
def expect
    (t : Tuple)
    (kind : ElementKind) : Except Violation Unit :=
  if t.position < t.cells.length then
    match t.schema.attributes[t.position]? with
    | some a =>
        if kind.fits a.type then .ok ()
        else
          .error (.wrongElement t.schema.name t.position a.type)
    | none =>
        .error (.indexOutOfBounds t.schema.arity t.position)
  else
    .error (.cursorOverrun t.schema.name t.cells.length)

/- Write a cell under the cursor and move on. -/
def put
    (t : Tuple)
    (c : Cell) : Tuple :=
  { t with
    cells := t.cells.set t.position c
    position := t.position + 1 }

/- Move the cursor to the next column. -/
def advance (t : Tuple) : Tuple :=
  { t with position := t.position + 1 }

------------------------------------------------------------
-- Typed Writes
------------------------------------------------------------

/-
  Write a value under the cursor and move on.  The column is
  checked first; only then is the cell found, which may teach
  the table a text, and put into its place.  The answer comes
  with the tuple and the table as the write leaves them.
-/
def append
    (t : Tuple)
    (table : SymbolTable)
    (e : Element) :
    Except Violation Unit × Tuple × SymbolTable :=
  match t.expect e.kind with
  | .error v => (.error v, t, table)
  | .ok _ =>
      match e.encode table with
      | (.error v, table') => (.error v, t, table')
      | (.ok c, table') => (.ok (), t.put c, table')

/- A write that passes the check, in terms of the cell. -/
theorem append_of_expect
    {t : Tuple}
    {e : Element}
    (h : t.expect e.kind = .ok ())
    (table : SymbolTable) :
    t.append table e =
      match e.encode table with
      | (.error v, table') => (.error v, t, table')
      | (.ok c, table') => (.ok (), t.put c, table') := by
  rw [append, h]

/- A write that the check stops touches nothing. -/
theorem append_of_expect_error
    {t : Tuple}
    {e : Element}
    {v : Violation}
    (h : t.expect e.kind = .error v)
    (table : SymbolTable) :
    t.append table e = (.error v, t, table) := by
  rw [append, h]

/- A write that succeeds puts a cell that it found. -/
theorem append_eq_ok_iff
    {t t' : Tuple}
    {table table' : SymbolTable}
    {e : Element} :
    t.append table e = (.ok (), t', table') ↔
      t.expect e.kind = .ok () ∧
        ∃ c, e.encode table = (.ok c, table') ∧ t' = t.put c := by
  cases hExpect : t.expect e.kind with
  | error v => simp [append_of_expect_error hExpect]
  | ok u =>
      rw [append_of_expect hExpect]
      rcases e.encode table with ⟨_ | c, table₁⟩
      · simp
      · constructor
        · intro h
          cases h
          exact ⟨rfl, c, rfl, rfl⟩
        · rintro ⟨-, c', hSame, rfl⟩
          cases hSame
          rfl

/- A write keeps the schema, the table and the width. -/
theorem frame_of_append
    {t t' : Tuple}
    {table table' : SymbolTable}
    {e : Element}
    (h : t.append table e = (.ok (), t', table')) :
    t'.schema = t.schema ∧ t'.table = t.table ∧
      t'.cells.length = t.cells.length ∧
      t'.position = t.position + 1 := by
  rcases append_eq_ok_iff.mp h with ⟨_, c, _, rfl⟩
  simp [put]

/-
  Write values from left to right.  Texts that were interned
  before a refused write stay in the table.
-/
def appendAll
    (t : Tuple)
    (table : SymbolTable) :
    List Element → Except Violation Tuple × SymbolTable
| [] => (.ok t, table)
| e :: es =>
    match t.append table e with
    | (.error v, _, table') => (.error v, table')
    | (.ok _, t', table') => appendAll t' table' es

------------------------------------------------------------
-- Typed Reads
------------------------------------------------------------

/-
  Read a value of a kind under the cursor and move on.  A
  refused read moves nothing; a symbol cell whose id is not
  known is passed over all the same.
-/
def read
    (t : Tuple)
    (table : SymbolTable)
    (kind : ElementKind) :
    Except Violation Element × Tuple :=
  match t.expect kind with
  | .error v => (.error v, t)
  | .ok _ =>
      (Element.decode kind table (t.cells.getD t.position 0),
        t.advance)

------------------------------------------------------------
-- Description
------------------------------------------------------------

/- A tuple written out with its relation, cells and cursor. -/
def describe (t : Tuple) : String :=
  let cells :=
    t.cells.map fun c => String.ofList (Integer.digits c.toInt)
  "Tuple \x7b relation: " ++ Text.quoted t.schema.name ++
    ", values: [" ++ ", ".intercalate cells ++
    "], pos: " ++ toString t.position ++ " \x7d"

end Tuple

end FactStore
