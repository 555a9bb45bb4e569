import FactStore.Program.Catalog
import FactStore.Program.Closure
import FactStore.Store

/-
  This file defines programs: a catalog of relations over one
  symbol table, and an engine that evaluates them.  The one
  engine that does something is that of the transitive
  closure of a symbol graph.

  Key definitions include:
    * `Engine`
    * `Program`
    * `Program.closure`, `Program.idle`
    * `Program.run`
    * `Program.loadAll`, `Program.printAll`
    * `Program.runAll`
    * `Program.call`
    * `Program.purgeView`
-/

namespace FactStore

------------------------------------------------------------
-- Programs
------------------------------------------------------------

/-
  What a program does when it runs: it closes a graph under
  walks, or nothing at all.
-/
inductive Engine where
| closure
    (edge path delta : RelationId)
    (options : FactOptions)
| idle
deriving DecidableEq, Repr

/-
  A program: its relations, the table of their symbols, a
  hint for the number of threads, and its engine.
-/
structure Program where
  catalog : Catalog
  table : TableId
  threads : Nat
  engine : Engine
deriving DecidableEq, Repr

namespace Program

/- A relation between two symbols, a source and a target. -/
def symbolPair (name : String) : Schema :=
  ⟨name, [⟨"src", .symbol, none⟩, ⟨"dst", .symbol, none⟩]⟩

/-
  What the transitive closure registers: `edge` as its input,
  `path` as its output, and `delta_path` as neither.
-/
def declared
    (edge path delta : RelationId) : List Catalog.Entry :=
  [⟨"edge", edge, true, false⟩,
    ⟨"path", path, false, true⟩,
    ⟨"delta_path", delta, false, false⟩]

/- A new program for the transitive closure. -/
def closure (options : FactOptions) : Action Program := do
  let table ← Action.addTable .empty
  let edge ←
    Action.addRelation (.memory (symbolPair "edge") table)
  let path ←
    Action.addRelation (.memory (symbolPair "path") table)
  let delta ←
    Action.addRelation (.memory (symbolPair "delta_path") table)
  let (added, catalog) :=
    Catalog.empty.addAll (declared edge path delta)
  Action.ofOutcome added
  return {
    catalog
    table
    threads := 1
    engine := .closure edge path delta options }

/- A new program without relations, with a thread hint. -/
def idle (threads : Nat) : Action Program := do
  let table ← Action.addTable .empty
  return { catalog := .empty, table, threads, engine := .idle }

/- Register a relation under a name that is not taken. -/
def add
    (p : Program)
    (e : Catalog.Entry) : Except Violation Unit × Program :=
  let (outcome, catalog) := p.catalog.add e
  (outcome, { p with catalog })

------------------------------------------------------------
-- Relations by Name
------------------------------------------------------------

/- The relation registered under a name, which must be there. -/
def named
    (p : Program)
    (name : String) : Action RelationId :=
  match p.catalog.find? name with
  | some id => pure id
  | none => Action.fail (.relationNotFound name)

/- Store a row of values in the relation of a name. -/
def insertRow
    (p : Program)
    (name : String)
    (row : List Element) : Action Unit := do
  Action.insertRow (← p.named name) row

/- Ask whether the relation of a name stores a row of values. -/
def containsRow
    (p : Program)
    (name : String)
    (row : List Element) : Action Bool := do
  Action.containsRow (← p.named name) row

------------------------------------------------------------
-- Views
------------------------------------------------------------

/- Remove every row of the given relations. -/
def purgeAll : List RelationId → Action Unit
| [] => return ()
| id :: ids => do
    Action.purge id
    purgeAll ids

/- Remove every row of the relations that a view shows. -/
def purgeView
    (p : Program)
    (v : View) : Action Unit :=
  purgeAll (p.catalog.view v)

/- Show the relations of a view with their rows. -/
def dumpView
    (p : Program)
    (v : View) : Action (Except Violation Unit × String) :=
  Action.dump (p.catalog.view v)

------------------------------------------------------------
-- Evaluation
------------------------------------------------------------

/-
  Close `path` under the edges.  Neither `edge` nor any other
  relation but `path` and `delta_path` is touched, and the
  latter is empty afterwards.
-/
def evaluate
    (edge path delta : RelationId) : Action Unit := do
  let edges ← Action.relation edge
  let known ← Action.relation path
  let (state, _) ←
    Action.ofOutcome (Closure.evaluate edges.rowSet known.rowSet)
  modify (·.setRelation path (known.withRowSet state.path))
  Action.purge delta

/-
  Run a program.  The only stratum is the one with number
  zero; asking for any other does nothing.
-/
def run
    (p : Program)
    (stratum : Option Nat) : Action Unit :=
  match p.engine, stratum.getD 0 with
  | .closure edge path delta _, 0 => evaluate edge path delta
  | _, _ => pure ()

------------------------------------------------------------
-- Fact Files
------------------------------------------------------------

/- Load each relation from the file of its name. -/
def loadFrom
    (directory : String)
    (options : FactOptions) :
    List RelationId → Action Unit
| [] => return ()
| id :: ids => do
    let r ← Action.relation id
    let file := FilePath.join directory (r.name ++ ".facts")
    let _ ← Action.load id file options
    loadFrom directory options ids

/- Store each relation in the file of its name. -/
def storeTo
    (directory : String)
    (delimiter : Char) :
    List RelationId → Action Unit
| [] => return ()
| id :: ids => do
    let r ← Action.relation id
    let file := FilePath.join directory (r.name ++ ".csv")
    let _ ← Action.store id file delimiter
    storeTo directory delimiter ids

/- Load all inputs from a directory. -/
def loadAll
    (p : Program)
    (directory : String) : Action Unit :=
  match p.engine with
  | .closure _ _ _ options =>
      loadFrom directory options (p.catalog.view .input)
  | .idle => pure ()

/- Store all outputs in a directory. -/
def printAll
    (p : Program)
    (directory : String) : Action Unit :=
  match p.engine with
  | .closure _ _ _ options =>
      storeTo directory options.delimiter (p.catalog.view .output)
  | .idle => pure ()

/- Load all inputs, run, and store all outputs. -/
def runAll
    (p : Program)
    (inputDirectory outputDirectory : String)
    (stratum : Option Nat) : Action Unit := do
  p.loadAll inputDirectory
  p.run stratum
  p.printAll outputDirectory

------------------------------------------------------------
-- Subroutines
------------------------------------------------------------

/-
  Call a subroutine of a program; the answer is what it
  returns and its error flags.  The closure knows one, which
  asks whether `path` holds a pair; no other name returns
  anything.
-/
def call
    (p : Program)
    (name : String)
    (args : Row) : Action (List Cell × List Bool) := do
  match p.engine with
  | .closure _ path _ _ =>
      if name ≠ "reachable" then return ([], [])
      else if args.length = 2 then
        let holds := (← Action.relation path).containsRow args
        return ([if holds then 1 else 0], [false])
      else
        return ([0], [true])
  | .idle => return ([], [])

end Program

end FactStore
