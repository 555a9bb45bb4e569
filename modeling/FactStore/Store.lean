import FactStore.Cursor
import FactStore.Facts.File
import FactStore.FileTree

/-
  This file defines the store: all symbol tables and
  relations, each under an id, and the files that they are
  loaded from and stored to.  An action on the store answers
  or fails, and what it did before it failed stays done.

  Key definitions include:
    * `Store`
    * `Action`
    * `Store.addTable`, `Store.addRelation`
    * `Action.append`, `Action.insert`
    * `Action.insertRow`, `Action.containsRow`
    * `Action.load`, `Action.store`
    * `Action.dump`
    * `Access`, `Tuple.access`

  Main statements include:
    * `Store.relation_setRelation`
    * `Store.table_setTable`
    * `Store.setTable_table`
    * `Action.run_bind`
-/

namespace FactStore

------------------------------------------------------------
-- Stores
------------------------------------------------------------

/-
  Symbol tables and relations by the order in which they were
  made, and a tree of files.
-/
structure Store where
  tables : List SymbolTable
  relations : List Relation
  files : FileTree

namespace Store

/- A store without tables and relations. -/
def ofFiles (files : FileTree) : Store :=
  ⟨[], [], files⟩

instance : Inhabited Store := ⟨ofFiles .empty⟩

/- The symbol table with an id; an unused id has an empty one. -/
def table
    (s : Store)
    (id : TableId) : SymbolTable :=
  s.tables.getD id.index .empty

/- The relation with an id; an unused id has an empty one. -/
def relation
    (s : Store)
    (id : RelationId) : Relation :=
  s.relations.getD id.index default

/- Replace the symbol table with an id. -/
def setTable
    (s : Store)
    (id : TableId)
    (table : SymbolTable) : Store :=
  { s with tables := s.tables.set id.index table }

/- Replace the relation with an id. -/
def setRelation
    (s : Store)
    (id : RelationId)
    (r : Relation) : Store :=
  { s with relations := s.relations.set id.index r }

/- Add a symbol table; the answer is its id. -/
def addTable
    (s : Store)
    (table : SymbolTable) : TableId × Store :=
  (⟨s.tables.length⟩, { s with tables := s.tables ++ [table] })

/- Add a relation; the answer is its id. -/
def addRelation
    (s : Store)
    (r : Relation) : RelationId × Store :=
  (⟨s.relations.length⟩,
    { s with relations := s.relations ++ [r] })

/-
  Write a value into a tuple of the store: the answer, and
  the tuple and the store as the write leaves them.
-/
def write
    (s : Store)
    (t : Tuple)
    (e : Element) : Except Violation Unit × Tuple × Store :=
  let (outcome, t', table') := t.append (s.table t.table) e
  (outcome, t', s.setTable t.table table')

/- Replace a relation and the table of its symbols. -/
def setBoth
    (s : Store)
    (id : RelationId)
    (r : Relation)
    (table : SymbolTable) : Store :=
  (s.setRelation id r).setTable r.table table

/- What is set under a used id is what is found there. -/
theorem relation_setRelation
    {s : Store}
    {id : RelationId}
    (r : Relation)
    (h : id.index < s.relations.length) :
    (s.setRelation id r).relation id = r := by
  simp [relation, setRelation, h]

/- Setting one relation leaves the others as they are. -/
theorem relation_setRelation_of_ne
    {s : Store}
    {id other : RelationId}
    (r : Relation)
    (h : other ≠ id) :
    (s.setRelation id r).relation other = s.relation other := by
  have hIndex : id.index ≠ other.index := by
    intro hEq
    apply h
    cases other
    cases id
    simp_all
  simp [relation, setRelation, List.getElem?_set_ne hIndex]

/- What is set under a used id is what is found there. -/
theorem table_setTable
    {s : Store}
    {id : TableId}
    (table' : SymbolTable)
    (h : id.index < s.tables.length) :
    (s.setTable id table').table id = table' := by
  simp [table, setTable, h]

/- Setting a table to what it is changes nothing. -/
theorem setTable_table
    (s : Store)
    (id : TableId) : s.setTable id (s.table id) = s := by
  rw [setTable]
  rcases Nat.lt_or_ge id.index s.tables.length with hUsed | hUnused
  · have hTable : s.table id = s.tables[id.index] := by
      simp [table, hUsed]
    rw [hTable, List.set_getElem_self]
  · rw [List.set_eq_of_length_le hUnused]

/- Setting one symbol table leaves the others as they are. -/
theorem table_setTable_of_ne
    {s : Store}
    {id other : TableId}
    (table' : SymbolTable)
    (h : other ≠ id) :
    (s.setTable id table').table other = s.table other := by
  have hIndex : id.index ≠ other.index := by
    intro hEq
    apply h
    cases other
    cases id
    simp_all
  simp [table, setTable, List.getElem?_set_ne hIndex]

/- Setting a relation touches no symbol table. -/
@[simp]
theorem table_setRelation
    (s : Store)
    (id : RelationId)
    (r : Relation)
    (other : TableId) :
    (s.setRelation id r).table other = s.table other := rfl

/- Setting a symbol table touches no relation. -/
@[simp]
theorem relation_setTable
    (s : Store)
    (id : TableId)
    (table' : SymbolTable)
    (other : RelationId) :
    (s.setTable id table').relation other =
      s.relation other := rfl

end Store

------------------------------------------------------------
-- Actions
------------------------------------------------------------

/- A step on the store that answers or fails. -/
abbrev Action (α : Type) := ExceptT Failure (StateM Store) α

namespace Action

/- Run an action from a store. -/
def run
    {α : Type}
    (action : Action α)
    (s : Store) : Except Failure α × Store :=
  (ExceptT.run action).run s

/- The action given by a function on stores. -/
def ofStep
    {α : Type}
    (step : Store → Except Failure α × Store) : Action α :=
  ExceptT.mk step

/- Fail with a violation. -/
def violate
    {α : Type}
    (v : Violation) : Action α :=
  throw (.violation v)

/- Fail with an error. -/
def fail
    {α : Type}
    (e : AccessError) : Action α :=
  throw (.error e)

/- An outcome that may be a violation. -/
def ofOutcome
    {α : Type} : Except Violation α → Action α
| .ok a => pure a
| .error v => violate v

/- The relation with an id, as it is now. -/
def relation (id : RelationId) : Action Relation :=
  return (← get).relation id

/- The symbol table with an id, as it is now. -/
def table (id : TableId) : Action SymbolTable :=
  return (← get).table id

/- Add a symbol table. -/
def addTable (table : SymbolTable) : Action TableId :=
  ofStep fun s =>
    let (id, s') := s.addTable table
    (.ok id, s')

/- Add a relation. -/
def addRelation (r : Relation) : Action RelationId :=
  ofStep fun s =>
    let (id, s') := s.addRelation r
    (.ok id, s')

------------------------------------------------------------
-- Running Actions
------------------------------------------------------------

/- An action that only answers leaves the store as it is. -/
@[simp]
theorem run_pure
    {α : Type}
    (a : α)
    (s : Store) :
    run (pure a) s = (.ok a, s) := rfl

/-
  A second action runs from the store that the first one
  left, unless that one failed.
-/
theorem run_bind
    {α β : Type}
    (action : Action α)
    (next : α → Action β)
    (s : Store) :
    run (action >>= next) s =
      match run action s with
      | (.ok a, s') => run (next a) s'
      | (.error f, s') => (.error f, s') := by
  change
    ExceptT.run (ExceptT.bind action next) s = _
  unfold ExceptT.bind run
  change
    ExceptT.bindCont next (action s).1 (action s).2 = _
  cases h : action s with
  | mk outcome s' =>
      cases outcome <;>
        simp [ExceptT.run, StateT.run, h] <;> rfl

@[simp]
theorem run_ofStep
    {α : Type}
    (step : Store → Except Failure α × Store)
    (s : Store) :
    run (ofStep step) s = step s := rfl

@[simp]
theorem run_violate
    {α : Type}
    (v : Violation)
    (s : Store) :
    run (violate v : Action α) s =
      (.error (.violation v), s) := rfl

@[simp]
theorem run_fail
    {α : Type}
    (e : AccessError)
    (s : Store) :
    run (fail e : Action α) s = (.error (.error e), s) := rfl

@[simp]
theorem run_relation
    (id : RelationId)
    (s : Store) :
    run (relation id) s = (.ok (s.relation id), s) := rfl

@[simp]
theorem run_table
    (id : TableId)
    (s : Store) :
    run (table id) s = (.ok (s.table id), s) := rfl

@[simp]
theorem run_modify
    (change : Store → Store)
    (s : Store) :
    run (modify change) s = (.ok (), change s) := rfl

/- An outcome touches no store. -/
theorem run_ofOutcome
    {α : Type}
    (outcome : Except Violation α)
    (s : Store) :
    run (ofOutcome outcome) s =
      (outcome.mapError Failure.violation, s) := by
  cases outcome <;> rfl

------------------------------------------------------------
-- Symbols and Tuples
------------------------------------------------------------

/- The id of a text in a table, which knows it from then on. -/
def intern
    (id : TableId)
    (symbol : String) : Action Cell :=
  ofStep fun s =>
    let (outcome, table') := (s.table id).lookup symbol
    (outcome.mapError .violation, s.setTable id table')

/- The text with an id, which must be known. -/
def resolve
    (id : TableId)
    (c : Cell) : Action String := do
  match (← table id).resolve? c with
  | none => violate (.unknownSymbol c)
  | some s => return s

/-
  Write a value into a tuple.  A host that is refused gives
  the tuple up.
-/
def append
    (t : Tuple)
    (e : Element) : Action Tuple :=
  ofStep fun s =>
    let (outcome, t', s') := s.write t e
    ((outcome.map fun _ => t').mapError .violation, s')

------------------------------------------------------------
-- Relations
------------------------------------------------------------

/- Store a tuple in a relation. -/
def insert
    (id : RelationId)
    (t : Tuple) : Action Unit := do
  let r' ← ofOutcome ((← relation id).insert t)
  modify (·.setRelation id r')

/- Encode a row of values against a relation's table. -/
def encodeRow
    (id : RelationId)
    (row : List Element) : Action Tuple :=
  ofStep fun s =>
    let r := s.relation id
    let (outcome, table') := r.encodeRow (s.table r.table) row
    (outcome, s.setTable r.table table')

/- Encode a row of values and store it. -/
def insertRow
    (id : RelationId)
    (row : List Element) : Action Unit := do
  insert id (← encodeRow id row)

/- Encode a row of values and ask whether it is stored. -/
def containsRow
    (id : RelationId)
    (row : List Element) : Action Bool := do
  let t ← encodeRow id row
  return (← relation id).contains t

/- Store a row of cells; the answer says whether it is new. -/
def insertCells
    (id : RelationId)
    (row : Row) : Action Bool := do
  let (isNew, r') ← ofOutcome ((← relation id).insertRow row)
  modify (·.setRelation id r')
  return isNew

/- Store many rows of cells; the answer counts the new ones. -/
def extendCells
    (id : RelationId)
    (rows : List Row) : Action Nat := do
  let (count, r') := (← relation id).extendRows rows
  modify (·.setRelation id r')
  return count

/- Remove every row of a relation. -/
def purge (id : RelationId) : Action Unit := do
  let r ← relation id
  modify (·.setRelation id r.purge)

------------------------------------------------------------
-- Lines
------------------------------------------------------------

/- A tuple as a line. -/
def format
    (t : Tuple)
    (delimiter : Char) : Action String := do
  ofOutcome (Line.format t (← table t.table) delimiter)

/-
  A line as a tuple of a relation; the inner error says why
  the line is rejected.
-/
def parse
    (id : RelationId)
    (line : String)
    (delimiter : Char) : Action (Except LineFault Tuple) :=
  ofStep fun s =>
    let r := s.relation id
    let (outcome, table') :=
      Line.parse r (s.table r.table) line.toList delimiter
    let s' := s.setTable r.table table'
    match outcome with
    | .error fault => (.ok (.error fault), s')
    | .ok (.error v) => (.error (.violation v), s')
    | .ok (.ok t) => (.ok (.ok t), s')

------------------------------------------------------------
-- Fact Files
------------------------------------------------------------

/- Load a fact file; the answer counts its tuples. -/
def load
    (id : RelationId)
    (path : String)
    (options : FactOptions) : Action Nat :=
  ofStep fun s =>
    match s.files.read path with
    | .error fault => (.error (.error (.io fault)), s)
    | .ok content =>
        let r := s.relation id
        let (outcome, r', table') :=
          FactFile.load path options content r (s.table r.table)
        (outcome, s.setBoth id r' table')

/-
  Store a relation as a fact file; the answer counts its
  rows.  A row that cannot be written ends the file there.
-/
def store
    (id : RelationId)
    (path : String)
    (delimiter : Char) : Action Nat :=
  ofStep fun s =>
    let r := s.relation id
    let (outcome, text) :=
      FactFile.store r (s.table r.table) delimiter
    match s.files.write path text.toUTF8 with
    | .error fault => (.error (.error (.io fault)), s)
    | .ok files =>
        match outcome with
        | .error v => (.error (.violation v), { s with files })
        | .ok count => (.ok count, { s with files })

/-
  The frame and lines in which a relation is shown.  A row
  that cannot be written ends the text there.
-/
def dumpOne
    (id : RelationId) : Action (Except Violation Unit × String) := do
  let r ← relation id
  let (outcome, text) := FactFile.store r (← table r.table) '\t'
  let thin := String.ofList (List.replicate 15 '-')
  let thick := String.ofList (List.replicate 15 '=')
  let shown := thin ++ "\n" ++ r.name ++ "\n" ++ thick ++ "\n" ++ text
  match outcome with
  | .error v => return (.error v, shown)
  | .ok _ => return (.ok (), shown ++ thick ++ "\n")

/-
  Show relations one after the other, until one cannot be
  shown; the text that was written before stands.
-/
def dump :
    List RelationId → Action (Except Violation Unit × String)
| [] => return (.ok (), "")
| id :: ids => do
    let (outcome, first) ← dumpOne id
    match outcome with
    | .error v => return (.error v, first)
    | .ok _ =>
        let (outcome, rest) ← dump ids
        return (outcome, first ++ rest)

end Action

------------------------------------------------------------
-- Accesses
------------------------------------------------------------

/- What a host does with one tuple that it has. -/
inductive Access where
| write (e : Element)
| read (kind : ElementKind)
| rewind
| set (column : Nat) (c : Cell)

/-
  What an access answers, and the tuple and the store as it
  leaves them.  Only a read answers with a value.
-/
def Tuple.access
    (t : Tuple)
    (s : Store) :
    Access → Except Violation (Option Element) × Tuple × Store
| .write e =>
    let (outcome, t', s') := s.write t e
    (outcome.map fun _ => none, t', s')
| .read kind =>
    let (outcome, t') := t.read (s.table t.table) kind
    (outcome.map some, t', s)
| .rewind => (.ok none, t.rewind, s)
| .set column c =>
    match t.set column c with
    | .ok t' => (.ok none, t', s)
    | .error v => (.error v, t, s)

end FactStore
