import FactStore.Store
import FactStore.Proofs.Tuple.Codec

/-
  This file proves what no action changes.  A relation keeps
  its schema and its table, a set of rows stays a set whose
  rows are as wide as the schema, and a symbol table only
  grows at its end.

  Key definitions include:
    * `Relation.IsMemory`, `Relation.Uniform`
    * `Relation.Evolves`
    * `Store.Evolves`

  Main statements include:
    * `Action.evolves_insertRow`
    * `Action.evolves_load`
    * `Action.evolves_purge`
-/

namespace FactStore

------------------------------------------------------------
-- Relations
------------------------------------------------------------

namespace Relation

/- The relation keeps a set of rows. -/
def IsMemory (r : Relation) : Prop :=
  ∃ rows, r.storage = .memory rows

/- Every stored row is as wide as the schema. -/
def Uniform (r : Relation) : Prop :=
  ∀ row ∈ r.rows, row.length = r.arity

instance (r : Relation) : Decidable r.Uniform := by
  unfold Uniform
  infer_instance

/- What a relation keeps while rows come and go. -/
structure Evolves (r r' : Relation) : Prop where
  schema : r'.schema = r.schema
  table : r'.table = r.table
  memory : r.IsMemory → r'.IsMemory
  uniform : r.IsMemory → r.Uniform → r'.Uniform

theorem Evolves.refl (r : Relation) : r.Evolves r :=
  ⟨rfl, rfl, id, fun _ h => h⟩

theorem Evolves.trans
    {r r' r'' : Relation}
    (h : r.Evolves r')
    (h' : r'.Evolves r'') : r.Evolves r'' where
  schema := h'.schema.trans h.schema
  table := h'.table.trans h.table
  memory := fun hMemory => h'.memory (h.memory hMemory)
  uniform := fun hMemory hUniform =>
    h'.uniform (h.memory hMemory) (h.uniform hMemory hUniform)

/- The rows of a memory relation are those of its set. -/
theorem rows_eq_of_storage
    {r : Relation}
    {rows : RowSet}
    (h : r.storage = .memory rows) : r.rows = rows.rows := by
  rw [Relation.rows, h]
  rfl

theorem rowSet_eq_of_storage
    {r : Relation}
    {rows : RowSet}
    (h : r.storage = .memory rows) : r.rowSet = rows := by
  rw [rowSet, h]

/- The set of rows of a memory relation has those rows. -/
theorem IsMemory.rows_eq
    {r : Relation}
    (h : r.IsMemory) : r.rows = r.rowSet.rows := by
  rcases h with ⟨rows, hRows⟩
  rw [rows_eq_of_storage hRows, rowSet_eq_of_storage hRows]

/- A set of rows holds each of its rows once. -/
theorem IsMemory.nodup_rows
    {r : Relation}
    (h : r.IsMemory) : r.rows.Nodup := by
  rw [h.rows_eq]
  exact r.rowSet.ascending.nodup

/- A purged relation has no rows. -/
theorem rows_purge (r : Relation) : r.purge.rows = [] := by
  unfold purge
  split <;> rfl

/- Purging a relation twice is purging it once. -/
theorem purge_purge (r : Relation) : r.purge.purge = r.purge := by
  rcases r with ⟨schema, table, rows | rows⟩ <;> rfl

theorem evolves_purge (r : Relation) : r.Evolves r.purge := by
  have hUniform : r.purge.Uniform := by
    intro row hRow
    rw [rows_purge] at hRow
    cases hRow
  refine ⟨?_, ?_, ?_, fun _ _ => hUniform⟩
  · unfold purge
    split <;> rfl
  · unfold purge
    split <;> rfl
  · rintro ⟨rows, hMemory⟩
    simp only [purge, hMemory]
    exact ⟨_, rfl⟩

/- A memory relation takes exactly rows of its own width. -/
theorem insertRow_eq_ok_iff
    {r r' : Relation}
    {rows : RowSet}
    {row : Row}
    {isNew : Bool}
    (hMemory : r.storage = .memory rows) :
    r.insertRow row = .ok (isNew, r') ↔
      row.length = r.arity ∧ isNew = !rows.contains row ∧
        r' = { r with storage := .memory (rows.insert row) } := by
  simp only [insertRow, hMemory]
  split
  · rename_i hWidth
    simp [hWidth, eq_comm]
  · rename_i hWidth
    simp [hWidth]

theorem evolves_insertRow
    {r r' : Relation}
    {row : Row}
    {isNew : Bool}
    (h : r.insertRow row = .ok (isNew, r')) :
    r.Evolves r' := by
  cases hStorage : r.storage with
  | memory rows =>
      rcases (insertRow_eq_ok_iff hStorage).mp h with ⟨hWidth, _, rfl⟩
      refine ⟨rfl, rfl, fun _ => ⟨_, rfl⟩, ?_⟩
      intro _ hUniform row' hRow'
      rcases RowSet.mem_insert.mp hRow' with rfl | hOld
      · exact hWidth
      · exact hUniform row' (by
          rw [rows_eq_of_storage hStorage]
          exact hOld)
  | log rows =>
      simp only [insertRow, hStorage] at h
      cases h
      refine ⟨rfl, rfl, ?_, ?_⟩
      · rintro ⟨rows', hMemory⟩
        rw [hStorage] at hMemory
        cases hMemory
      · rintro ⟨rows', hMemory⟩
        rw [hStorage] at hMemory
        cases hMemory

/-
  A memory relation takes a tuple exactly when signatures and
  widths agree.
-/
theorem insert_eq_ok_iff
    {r r' : Relation}
    {rows : RowSet}
    {t : Tuple}
    (hMemory : r.storage = .memory rows) :
    r.insert t = .ok r' ↔
      t.schema.signature = r.schema.signature ∧
        t.cells.length = r.arity ∧
        r' =
          { r with storage := .memory (rows.insert t.cells) } := by
  simp only [insert, hMemory]
  split
  · rename_i hSignature
    by_cases hWidth : t.cells.length = r.arity
    · simp [insertRow, hMemory, hSignature, hWidth, Except.map,
        eq_comm]
    · simp [insertRow, hMemory, hWidth, Except.map]
  · rename_i hSignature
    simp [hSignature]

/- A tuple that is taken is stored as the row of its cells. -/
theorem insertRow_of_insert
    {r r' : Relation}
    {t : Tuple}
    (h : r.insert t = .ok r') :
    ∃ isNew, r.insertRow t.cells = .ok (isNew, r') := by
  have hMap : (r.insertRow t.cells).map (·.2) = .ok r' := by
    unfold insert at h
    split at h
    · split at h
      · exact h
      · cases h
    · exact h
  cases hInsert : r.insertRow t.cells with
  | error v =>
      rw [hInsert] at hMap
      cases hMap
  | ok found =>
      rw [hInsert] at hMap
      cases hMap
      exact ⟨found.1, rfl⟩

theorem evolves_insert
    {r r' : Relation}
    {t : Tuple}
    (h : r.insert t = .ok r') : r.Evolves r' := by
  rcases insertRow_of_insert h with ⟨isNew, hRow⟩
  exact evolves_insertRow hRow

/- Encoding a row adds texts behind those of a table. -/
theorem prefix_of_encodeRow
    (r : Relation)
    (table : SymbolTable)
    (row : List Element) :
    table.symbols <+: (r.encodeRow table row).2.symbols := by
  unfold encodeRow
  split
  · have hAll :=
      Tuple.prefix_of_appendAll row r.blankTuple table
    split <;> rename_i hEq <;> rwa [hEq] at hAll
  · exact List.prefix_refl _

end Relation

------------------------------------------------------------
-- Fact Files
------------------------------------------------------------

namespace FactFile

/- Parsing a line adds texts behind those of a table. -/
theorem prefix_of_parse
    (r : Relation)
    (table : SymbolTable)
    (line : List Char)
    (delimiter : Char) :
    table.symbols <+:
      (Line.parse r table line delimiter).2.symbols := by
  unfold Line.parse
  split
  · exact List.prefix_refl _
  · exact Tuple.prefix_of_appendAll _ r.blankTuple table

/- Loading lines keeps what no action changes. -/
theorem evolves_loadLines
    (path : String)
    (options : FactOptions) :
    ∀ (ls : List (Except IoFault (List Char)))
      (number loaded : Nat) (r : Relation)
      (table : SymbolTable),
      let outcome :=
        loadLines path options ls number loaded r table
      r.Evolves outcome.2.1 ∧
        table.symbols <+: outcome.2.2.symbols
| [], _, _, r, table =>
    ⟨Relation.Evolves.refl r, List.prefix_refl _⟩
| .error _ :: _, _, _, r, table =>
    ⟨Relation.Evolves.refl r, List.prefix_refl _⟩
| .ok text :: rest, number, loaded, r, table => by
    have hPrefix :=
      prefix_of_parse r table (dropLast '\r' text) options.delimiter
    simp only [loadLines]
    split
    · exact evolves_loadLines path options rest (number + 1)
        loaded r table
    · split <;> rename_i table' hParse <;> rw [hParse] at hPrefix
      · split
        · exact ⟨Relation.Evolves.refl r, hPrefix⟩
        · rcases
              evolves_loadLines path options rest (number + 1)
                loaded r table' with
            ⟨hRest, hRestPrefix⟩
          exact ⟨hRest, hPrefix.trans hRestPrefix⟩
      · exact ⟨Relation.Evolves.refl r, hPrefix⟩
      · split
        · exact ⟨Relation.Evolves.refl r, hPrefix⟩
        · rename_i r' hInsert
          rcases
              evolves_loadLines path options rest (number + 1)
                (loaded + 1) r' table' with
            ⟨hRest, hRestPrefix⟩
          exact
            ⟨(Relation.evolves_insert hInsert).trans hRest,
              hPrefix.trans hRestPrefix⟩

end FactFile

------------------------------------------------------------
-- Stores
------------------------------------------------------------

namespace Store

/- What a store keeps whatever is done to it. -/
structure Evolves (s s' : Store) : Prop where
  relation_length : s'.relations.length = s.relations.length
  table_length : s'.tables.length = s.tables.length
  relation : ∀ id, (s.relation id).Evolves (s'.relation id)
  table : ∀ id, (s.table id).symbols <+: (s'.table id).symbols

theorem Evolves.refl (s : Store) : s.Evolves s :=
  ⟨rfl, rfl, fun _ => Relation.Evolves.refl _,
    fun _ => List.prefix_refl _⟩

theorem Evolves.trans
    {s s' s'' : Store}
    (h : s.Evolves s')
    (h' : s'.Evolves s'') : s.Evolves s'' where
  relation_length := h'.relation_length.trans h.relation_length
  table_length := h'.table_length.trans h.table_length
  relation := fun id => (h.relation id).trans (h'.relation id)
  table := fun id => (h.table id).trans (h'.table id)

/- An unused id finds the same after it is set. -/
theorem relation_setRelation_of_unused
    {s : Store}
    {id other : RelationId}
    (r : Relation)
    (h : ¬ id.index < s.relations.length) :
    (s.setRelation id r).relation other = s.relation other := by
  simp only [setRelation, relation]
  rw [List.set_eq_of_length_le (Nat.le_of_not_lt h)]

/- Each relation is the one that was set, or what it was. -/
theorem relation_setRelation_or
    (s : Store)
    (id : RelationId)
    (r : Relation)
    (other : RelationId) :
    (other = id ∧ (s.setRelation id r).relation other = r) ∨
      (s.setRelation id r).relation other = s.relation other := by
  by_cases hUsed : id.index < s.relations.length
  · by_cases hSame : other = id
    · subst hSame
      exact Or.inl ⟨rfl, relation_setRelation r hUsed⟩
    · exact Or.inr (relation_setRelation_of_ne r hSame)
  · exact Or.inr (relation_setRelation_of_unused r hUsed)

/- A relation that is set to what it is changes nothing. -/
theorem setRelation_relation
    (s : Store)
    (id : RelationId) :
    s.setRelation id (s.relation id) = s := by
  have hSet :
      s.relations.set id.index (s.relation id) = s.relations := by
    rcases Nat.lt_or_ge id.index s.relations.length with
      hUsed | hUnused
    · have hFound : s.relation id = s.relations[id.index] := by
        simp [relation, hUsed]
      rw [hFound, List.set_getElem_self]
    · exact List.set_eq_of_length_le hUnused
  rw [setRelation, hSet]

theorem table_setTable_of_unused
    {s : Store}
    {id other : TableId}
    (table' : SymbolTable)
    (h : ¬ id.index < s.tables.length) :
    (s.setTable id table').table other = s.table other := by
  simp only [setTable, table]
  rw [List.set_eq_of_length_le (Nat.le_of_not_lt h)]

theorem evolves_setRelation
    {s : Store}
    {id : RelationId}
    {r : Relation}
    (h : (s.relation id).Evolves r) :
    s.Evolves (s.setRelation id r) where
  relation_length := by simp [setRelation]
  table_length := rfl
  relation := by
    intro other
    rcases s.relation_setRelation_or id r other with
      ⟨rfl, hNew⟩ | hOld
    · rw [hNew]
      exact h
    · rw [hOld]
      exact Relation.Evolves.refl _
  table := fun _ => List.prefix_refl _

theorem evolves_setTable
    {s : Store}
    {id : TableId}
    {table' : SymbolTable}
    (h : (s.table id).symbols <+: table'.symbols) :
    s.Evolves (s.setTable id table') where
  relation_length := rfl
  table_length := by simp [setTable]
  relation := fun _ => Relation.Evolves.refl _
  table := by
    intro other
    by_cases hUsed : id.index < s.tables.length
    · by_cases hSame : other = id
      · rw [hSame, table_setTable table' hUsed]
        exact h
      · simp only [table_setTable_of_ne table' hSame,
          List.prefix_rfl]
    · simp only [table_setTable_of_unused table' hUsed,
        List.prefix_rfl]

/- Files are no part of what is kept. -/
theorem evolves_files
    (s : Store)
    (files : FileTree) : s.Evolves { s with files } :=
  ⟨rfl, rfl, fun _ => Relation.Evolves.refl _,
    fun _ => List.prefix_refl _⟩

end Store

------------------------------------------------------------
-- Actions
------------------------------------------------------------

namespace Action

/-
  A sequence of two actions leaves a store that is related to
  the first one, if each action does.
-/
theorem related_bind
    {α β : Type}
    (related : Store → Store → Prop)
    (hTrans :
      ∀ {a b c}, related a b → related b c → related a c)
    {action : Action α}
    {next : α → Action β}
    {s : Store}
    (h : related s (run action s).2)
    (hNext :
      ∀ (a : α) (s' : Store),
        run action s = (.ok a, s') →
          related s' (run (next a) s').2) :
    related s (run (action >>= next) s).2 := by
  rw [run_bind]
  split
  · rename_i a s' hRun
    rw [hRun] at h
    exact hTrans h (hNext a s' hRun)
  · rename_i f s' hRun
    rw [hRun] at h
    exact h

theorem evolves_bind
    {α β : Type}
    {action : Action α}
    {next : α → Action β}
    (h : ∀ s : Store, s.Evolves (run action s).2)
    (hNext :
      ∀ (a : α) (s : Store), s.Evolves (run (next a) s).2)
    (s : Store) :
    s.Evolves (run (action >>= next) s).2 :=
  related_bind Store.Evolves Store.Evolves.trans (h s)
    fun a s' _ => hNext a s'

theorem evolves_relation
    (id : RelationId)
    (s : Store) : s.Evolves (run (relation id) s).2 :=
  Store.Evolves.refl s

/- Storing a tuple, in terms of the relation it is stored in. -/
theorem run_insert
    (id : RelationId)
    (t : Tuple)
    (s : Store) :
    run (insert id t) s =
      match (s.relation id).insert t with
      | .ok r' => (.ok (), s.setRelation id r')
      | .error v => (.error (.violation v), s) := by
  simp only [insert, run_bind, run_relation, run_ofOutcome]
  cases (s.relation id).insert t <;> rfl

theorem evolves_insert
    (id : RelationId)
    (t : Tuple)
    (s : Store) : s.Evolves (run (insert id t) s).2 := by
  rw [run_insert]
  split
  · rename_i r' hInsert
    exact Store.evolves_setRelation
      (Relation.evolves_insert hInsert)
  · exact Store.Evolves.refl s

theorem evolves_encodeRow
    (id : RelationId)
    (row : List Element)
    (s : Store) : s.Evolves (run (encodeRow id row) s).2 := by
  simp only [encodeRow, run_ofStep]
  exact Store.evolves_setTable
    (Relation.prefix_of_encodeRow _ _ _)

theorem evolves_insertRow
    (id : RelationId)
    (row : List Element)
    (s : Store) : s.Evolves (run (insertRow id row) s).2 :=
  evolves_bind (evolves_encodeRow id row)
    (fun t => evolves_insert id t) s

theorem run_purge
    (id : RelationId)
    (s : Store) :
    run (purge id) s =
      (.ok (), s.setRelation id (s.relation id).purge) := rfl

theorem evolves_purge
    (id : RelationId)
    (s : Store) : s.Evolves (run (purge id) s).2 :=
  Store.evolves_setRelation (Relation.evolves_purge _)

theorem evolves_load
    (id : RelationId)
    (path : String)
    (options : FactOptions)
    (s : Store) :
    s.Evolves (run (load id path options) s).2 := by
  simp only [load, run_ofStep, FactFile.load]
  split
  · exact Store.Evolves.refl s
  · rename_i content hContent
    rcases
        FactFile.evolves_loadLines path options
          (FactFile.lines content) 1 0 (s.relation id)
          (s.table (s.relation id).table) with
      ⟨hRelation, hTable⟩
    apply (Store.evolves_setRelation hRelation).trans
    apply Store.evolves_setTable
    rw [Store.table_setRelation, hRelation.table]
    exact hTable

end Action

end FactStore
