import FactStore.Program
import FactStore.Proofs.Closure.Rounds
import FactStore.Proofs.Program.Registration
import FactStore.Proofs.Store.Evolution

/-
  This file proves what a run of the transitive closure does
  to a store, and that everything the host of such a program
  asks of it leaves the program ready for the next run.

  Key definitions include:
    * `Program.Closes`
    * `Program.Request`
    * `Program.serveAll`

  Main statements include:
    * `Program.closes_closure`
    * `Program.Closes.run_eq`
    * `Program.Closes.run_spec`
    * `Program.Closes.serveAll`
-/

namespace FactStore

namespace Program

------------------------------------------------------------
-- Programs That Close a Graph
------------------------------------------------------------

/- A set of rows between two symbols that a store keeps. -/
structure KeepsPairs
    (s : Store)
    (table : TableId)
    (name : String)
    (id : RelationId) : Prop where
  used : id.index < s.relations.length
  schema : (s.relation id).schema = symbolPair name
  table : (s.relation id).table = table
  memory : (s.relation id).IsMemory

/-
  The program closes `edge` into `path`, and the store keeps
  its relations.  Only the widths of edges matter to a run.
-/
structure Closes
    (p : Program)
    (edge path delta : RelationId)
    (s : Store) : Prop where
  engine : ∃ options, p.engine = .closure edge path delta options
  catalog : p.catalog.Registers (declared edge path delta)
  distinct : [edge, path, delta].Nodup
  keepsEdge : KeepsPairs s p.table "edge" edge
  keepsPath : KeepsPairs s p.table "path" path
  keepsDelta : KeepsPairs s p.table "delta_path" delta
  uniform : (s.relation edge).Uniform

theorem KeepsPairs.of_evolves
    {s s' : Store}
    {table : TableId}
    {name : String}
    {id : RelationId}
    (h : KeepsPairs s table name id)
    (hEvolves : s.Evolves s') : KeepsPairs s' table name id where
  used := by
    rw [hEvolves.relation_length]
    exact h.used
  schema := (hEvolves.relation id).schema.trans h.schema
  table := (hEvolves.relation id).table.trans h.table
  memory := (hEvolves.relation id).memory h.memory

variable {p : Program}
variable {edge path delta : RelationId}
variable {s s' : Store}

/- A program keeps closing while its store evolves. -/
theorem Closes.of_evolves
    (h : Closes p edge path delta s)
    (hEvolves : s.Evolves s') : Closes p edge path delta s' where
  engine := h.engine
  catalog := h.catalog
  distinct := h.distinct
  keepsEdge := h.keepsEdge.of_evolves hEvolves
  keepsPath := h.keepsPath.of_evolves hEvolves
  keepsDelta := h.keepsDelta.of_evolves hEvolves
  uniform :=
    (hEvolves.relation edge).uniform h.keepsEdge.memory
      h.uniform

/- The relations of a program that closes, by their names. -/
theorem Closes.find?_edge
    (h : Closes p edge path delta s) :
    p.catalog.find? "edge" = some edge :=
  h.catalog.find?_of_mem List.mem_cons_self

theorem Closes.find?_path
    (h : Closes p edge path delta s) :
    p.catalog.find? "path" = some path :=
  h.catalog.find?_of_mem
    (List.mem_cons_of_mem _ List.mem_cons_self)

theorem Closes.find?_delta
    (h : Closes p edge path delta s) :
    p.catalog.find? "delta_path" = some delta :=
  h.catalog.find?_of_mem
    (List.mem_cons_of_mem _ (List.mem_cons_of_mem _
      List.mem_cons_self))

/- Its views list these relations by their roles. -/
theorem Closes.view_all
    (h : Closes p edge path delta s) :
    p.catalog.view .all = [edge, path, delta] :=
  h.catalog.view_all

theorem Closes.view_input
    (h : Closes p edge path delta s) :
    p.catalog.view .input = [edge] :=
  h.catalog.view .input

theorem Closes.view_output
    (h : Closes p edge path delta s) :
    p.catalog.view .output = [path] :=
  h.catalog.view .output

/- Each edge is a pair of cells. -/
theorem Closes.length_eq_two
    (h : Closes p edge path delta s)
    {row : Row}
    (hRow : row ∈ (s.relation edge).rows) : row.length = 2 := by
  have hWidth := h.uniform row hRow
  rw [Relation.arity, h.keepsEdge.schema] at hWidth
  exact hWidth

/- A relation that was just added keeps pairs. -/
theorem keepsPairs_of_getElem?
    {table : TableId}
    {name : String}
    {id : RelationId}
    (h :
      s.relations[id.index]? =
        some (.memory (symbolPair name) table)) :
    KeepsPairs s table name id := by
  have hUsed := (List.getElem?_eq_some_iff.mp h).1
  have hRelation :
      s.relation id = .memory (symbolPair name) table := by
    simp [Store.relation, List.getD, h]
  refine ⟨hUsed, ?_, ?_, ?_⟩
  · rw [hRelation]
    rfl
  · rw [hRelation]
    rfl
  · rw [hRelation]
    exact ⟨_, rfl⟩

/- What the closure declares is registered without fail. -/
theorem addAll_declared (edge path delta : RelationId) :
    let added := Catalog.empty.addAll (declared edge path delta)
    added.1 = .ok () ∧
      added.2.Registers (declared edge path delta) := by
  have hDistinct :
      ((declared edge path delta).map (·.name)).Nodup := by
    change ["edge", "path", "delta_path"].Nodup
    decide
  rcases Catalog.registers_addAll hDistinct with
    ⟨c, hAdded, hRegisters⟩
  rw [hAdded]
  exact ⟨rfl, hRegisters⟩

/-
  A new program for the transitive closure takes the next ids
  of the store, for an empty table and three empty relations.
-/
theorem eq_of_run_closure
    {options : FactOptions}
    (hNew : Action.run (closure options) s = (.ok p, s')) :
    let table : TableId := ⟨s.tables.length⟩
    let edge : RelationId := ⟨s.relations.length⟩
    let path : RelationId := ⟨s.relations.length + 1⟩
    let delta : RelationId := ⟨s.relations.length + 2⟩
    p.catalog.Registers (declared edge path delta) ∧
      p.table = table ∧
      p.engine = .closure edge path delta options ∧
      s' =
        { s with
          tables := s.tables ++ [.empty]
          relations :=
            s.relations ++
              [.memory (symbolPair "edge") table,
                .memory (symbolPair "path") table,
                .memory (symbolPair "delta_path") table] } := by
  simp only [closure, Action.addTable, Action.addRelation,
    Action.run_bind, Action.run_ofStep, Store.addTable,
    Store.addRelation, Action.run_ofOutcome,
    (addAll_declared _ _ _).1, Except.mapError, Action.run_pure,
    Prod.mk.injEq, Except.ok.injEq] at hNew
  rcases hNew with ⟨rfl, rfl⟩
  refine ⟨?_, rfl, ?_, ?_⟩
  · simpa using (addAll_declared ⟨s.relations.length⟩
      ⟨s.relations.length + 1⟩ ⟨s.relations.length + 2⟩).2
  · simp
  · simp

/- Such a program closes. -/
theorem closes_closure
    {options : FactOptions}
    (hNew : Action.run (closure options) s = (.ok p, s')) :
    Closes p ⟨s.relations.length⟩ ⟨s.relations.length + 1⟩
      ⟨s.relations.length + 2⟩ s' := by
  rcases eq_of_run_closure hNew with
    ⟨hCatalog, hTable, hEngine, rfl⟩
  refine ⟨⟨options, hEngine⟩, hCatalog, ?_, ?_, ?_, ?_, ?_⟩
  · simp
  · exact keepsPairs_of_getElem? (by simp [hTable])
  · exact keepsPairs_of_getElem? (by simp [hTable])
  · exact keepsPairs_of_getElem? (by simp [hTable])
  · intro row hRow
    simp [Store.relation, Relation.rows, Relation.memory,
      Storage.rows, RowSet.empty] at hRow

------------------------------------------------------------
-- Runs
------------------------------------------------------------

/- The store in which `path` has given rows and `delta_path` none. -/
def closed
    (s : Store)
    (path delta : RelationId)
    (rows : RowSet) : Store :=
  (s.setRelation path
    ((s.relation path).withRowSet rows)).setRelation delta
      (s.relation delta).purge

/- The three relations of a program that closes are distinct. -/
theorem Closes.ne
    (h : Closes p edge path delta s) :
    edge ≠ path ∧ edge ≠ delta ∧ path ≠ delta := by
  simpa [and_assoc] using h.distinct

theorem Closes.relation_path_closed
    (h : Closes p edge path delta s)
    (rows : RowSet) :
    (closed s path delta rows).relation path =
      (s.relation path).withRowSet rows := by
  rw [closed, Store.relation_setRelation_of_ne _ h.ne.2.2,
    Store.relation_setRelation _ h.keepsPath.used]

theorem Closes.relation_delta_closed
    (h : Closes p edge path delta s)
    (rows : RowSet) :
    (closed s path delta rows).relation delta =
      (s.relation delta).purge := by
  have hUsed :
      delta.index <
        (s.setRelation path
          ((s.relation path).withRowSet rows)).relations.length := by
    simpa [Store.setRelation] using h.keepsDelta.used
  rw [closed, Store.relation_setRelation _ hUsed]

theorem Closes.rows_delta_closed
    (h : Closes p edge path delta s)
    (rows : RowSet) :
    ((closed s path delta rows).relation delta).rows = [] := by
  rw [h.relation_delta_closed]
  exact Relation.rows_purge _

/- No other relation is touched. -/
theorem relation_closed_of_ne
    {id : RelationId}
    (hPath : id ≠ path)
    (hDelta : id ≠ delta)
    (s : Store)
    (rows : RowSet) :
    (closed s path delta rows).relation id = s.relation id := by
  rw [closed, Store.relation_setRelation_of_ne _ hDelta,
    Store.relation_setRelation_of_ne _ hPath]

/-
  A run succeeds.  It adds to `path` the pairs derived from
  the edges, and empties `delta_path`.
-/
theorem Closes.run_eq
    (h : Closes p edge path delta s)
    {stratum : Option Nat}
    (hStratum : stratum = none ∨ stratum = some 0) :
    ∃ rows : RowSet,
      Action.run (p.run stratum) s =
          (.ok (), closed s path delta rows) ∧
        ∀ row, row ∈ rows ↔
          row ∈ (s.relation path).rows ∨
            ∃ x z, row = [x, z] ∧
              Closure.Fresh (s.relation edge).rows
                (s.relation path).rows x z := by
  have hPairs :
      ∀ row ∈ (s.relation edge).rowSet.rows, row.length = 2 := by
    intro row hRow
    rw [← h.keepsEdge.memory.rows_eq] at hRow
    exact h.length_eq_two hRow
  rcases Closure.evaluate_eq_ok (s.relation path).rowSet hPairs with
    ⟨state, rounds, hEvaluate, _, hPath⟩
  simp only [RowSet.mem_def, ← h.keepsEdge.memory.rows_eq,
    ← h.keepsPath.memory.rows_eq] at hPath
  refine ⟨state.path, ?_, hPath⟩
  have hDelta :
      (s.setRelation path
        ((s.relation path).withRowSet state.path)).relation delta =
        s.relation delta :=
    Store.relation_setRelation_of_ne _ h.ne.2.2.symm
  rcases h.engine with ⟨options, hEngine⟩
  rcases hStratum with rfl | rfl <;>
    simp only [run, hEngine, Option.getD_none,
      Option.getD_some, evaluate, Action.run_bind,
      Action.run_relation, Action.run_ofOutcome, hEvaluate,
      Except.mapError, Action.run_modify, Action.run_purge,
      hDelta, closed]

/- What a run leaves behind, and that it only evolves a store. -/
theorem Closes.run_spec
    (h : Closes p edge path delta s)
    {stratum : Option Nat}
    (hStratum : stratum = none ∨ stratum = some 0) :
    ∃ s', Action.run (p.run stratum) s = (.ok (), s') ∧
      s.Evolves s' ∧
      (∀ row, row ∈ (s'.relation path).rows ↔
        row ∈ (s.relation path).rows ∨
          ∃ x z, row = [x, z] ∧
            Closure.Fresh (s.relation edge).rows
              (s.relation path).rows x z) ∧
      (s'.relation delta).rows = [] ∧
      s'.relation edge = s.relation edge ∧
      s'.tables = s.tables ∧
      s'.files = s.files := by
  rcases h.run_eq hStratum with ⟨rows, hRun, hPath⟩
  have hPath₁ :
      s.Evolves
        (s.setRelation path
          ((s.relation path).withRowSet rows)) := by
    refine Store.evolves_setRelation
      ⟨rfl, rfl, fun _ => ⟨_, rfl⟩, ?_⟩
    intro _ hUniform row hRow
    rcases (hPath row).mp hRow with hOld | ⟨x, z, rfl, _⟩
    · exact hUniform row hOld
    · change _ = (s.relation path).arity
      rw [Relation.arity, h.keepsPath.schema]
      rfl
  have hDelta :
      ((s.setRelation path
        ((s.relation path).withRowSet rows)).relation delta).Evolves
          (s.relation delta).purge := by
    rw [Store.relation_setRelation_of_ne _ h.ne.2.2.symm]
    exact Relation.evolves_purge _
  refine
    ⟨_, hRun, hPath₁.trans (Store.evolves_setRelation hDelta),
      fun row => ?_, h.rows_delta_closed rows,
      relation_closed_of_ne h.ne.1 h.ne.2.1 s rows, rfl, rfl⟩
  rw [h.relation_path_closed]
  exact hPath row

------------------------------------------------------------
-- Requests
------------------------------------------------------------

/-
  What the host of a program asks of it between two runs.
  Between two requests the files may become any others.
-/
inductive Request where
| insertRow (row : List Element)
| insertTuple (t : Tuple)
| loadAll (directory : String)
| run (stratum : Option Nat)
| purgeView (v : View)
| replaceFiles (files : FileTree)

/- What a request does. -/
def perform
    (p : Program) :
    Request → Action Unit
| .insertRow row => p.insertRow "edge" row
| .insertTuple t => do Action.insert (← p.named "edge") t
| .loadAll directory => p.loadAll directory
| .run stratum => p.run stratum
| .purgeView v => p.purgeView v
| .replaceFiles files => modify ({ · with files })

/-
  Serve requests one after the other.  One that fails leaves
  behind what it did until then, and the next one is served.
-/
def serveAll
    (p : Program) :
    List Request → Store → Store
| [], s => s
| request :: requests, s =>
    serveAll p requests (Action.run (p.perform request) s).2

theorem evolves_named
    (p : Program)
    (name : String)
    (s : Store) : s.Evolves (Action.run (p.named name) s).2 := by
  unfold named
  split <;> exact Store.Evolves.refl s

theorem evolves_loadFrom
    (directory : String)
    (options : FactOptions)
    (ids : List RelationId)
    (s : Store) :
    s.Evolves
      (Action.run (loadFrom directory options ids) s).2 := by
  induction ids generalizing s with
  | nil => exact Store.Evolves.refl s
  | cons id ids ih =>
      refine Action.evolves_bind (Action.evolves_relation id) ?_ s
      intro r
      refine Action.evolves_bind
        (Action.evolves_load id _ options) ?_
      exact fun _ => ih

theorem evolves_purgeAll
    (ids : List RelationId)
    (s : Store) :
    s.Evolves (Action.run (purgeAll ids) s).2 := by
  induction ids generalizing s with
  | nil => exact Store.Evolves.refl s
  | cons id ids ih =>
      exact Action.evolves_bind (Action.evolves_purge id)
        (fun _ => ih) s

theorem evolves_loadAll
    (p : Program)
    (directory : String)
    (s : Store) :
    s.Evolves (Action.run (p.loadAll directory) s).2 := by
  unfold loadAll
  split
  · exact evolves_loadFrom directory _ _ s
  · exact Store.Evolves.refl s

/- A run for another stratum than the only one does nothing. -/
theorem run_of_ne_zero
    (p : Program)
    {stratum : Option Nat}
    (hStratum : stratum.getD 0 ≠ 0)
    (s : Store) :
    Action.run (p.run stratum) s = (.ok (), s) := by
  unfold run
  split
  · rename_i hZero
    exact absurd hZero hStratum
  · rfl

/- A program has one stratum, which is run unless another is named. -/
theorem eq_of_getD_eq_zero
    {stratum : Option Nat}
    (hOnly : stratum.getD 0 = 0) :
    stratum = none ∨ stratum = some 0 := by
  cases stratum with
  | none => exact Or.inl rfl
  | some n => exact Or.inr (congrArg some hOnly)

/- Whatever a request does, the store only evolves. -/
theorem Closes.evolves_perform
    (h : Closes p edge path delta s)
    (request : Request) :
    s.Evolves (Action.run (p.perform request) s).2 := by
  cases request with
  | insertRow row =>
      exact Action.evolves_bind (evolves_named p "edge")
        (fun id => Action.evolves_insertRow id row) s
  | insertTuple t =>
      exact Action.evolves_bind (evolves_named p "edge")
        (fun id => Action.evolves_insert id t) s
  | loadAll directory => exact evolves_loadAll p directory s
  | run stratum =>
      change s.Evolves (Action.run (p.run stratum) s).2
      by_cases hStratum : stratum.getD 0 = 0
      · rcases h.run_spec (eq_of_getD_eq_zero hStratum) with
          ⟨s', hRun, hEvolves, _⟩
        rw [hRun]
        exact hEvolves
      · rw [run_of_ne_zero p hStratum]
        exact Store.Evolves.refl s
  | purgeView v => exact evolves_purgeAll _ s
  | replaceFiles files => exact Store.evolves_files s files

/- A program still closes after any requests. -/
theorem Closes.serveAll
    (h : Closes p edge path delta s)
    (requests : List Request) :
    Closes p edge path delta (p.serveAll requests s) := by
  induction requests generalizing s with
  | nil => exact h
  | cons request requests ih =>
      exact ih (h.of_evolves (h.evolves_perform request))

end Program

end FactStore
