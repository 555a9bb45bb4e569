import FactStore.Proofs.Store.Evolution

/-
  This file proves what is kept while nothing is removed: the
  rows of every relation stay, and so does every text of every
  symbol table, whatever else is looked up, written, encoded
  or stored.

  Key definitions include:
    * `Store.Gains`
    * `Store.Use`
    * `Store.useAll`

  Main statements include:
    * `Store.gains_use`
    * `Store.gains_useAll`
-/

namespace FactStore

------------------------------------------------------------
-- Gains
------------------------------------------------------------

/- A relation that takes a tuple keeps its rows. -/
theorem Relation.rows_subset_of_insert
    {r r' : Relation}
    {t : Tuple}
    (h : r.insert t = .ok r') : r.rows ⊆ r'.rows := by
  rcases insertRow_of_insert h with ⟨isNew, hRow⟩
  intro row hOld
  cases hStorage : r.storage with
  | memory rows =>
      rcases (insertRow_eq_ok_iff hStorage).mp hRow with
        ⟨_, _, rfl⟩
      rw [rows_eq_of_storage hStorage] at hOld
      exact RowSet.mem_insert.mpr (Or.inr hOld)
  | log rows =>
      have hRows : r.rows = rows := by
        rw [Relation.rows, hStorage]
        rfl
      rw [hRows] at hOld
      simp only [insertRow, hStorage] at hRow
      cases hRow
      exact List.mem_append_left _ hOld

namespace Store

/- A store that evolves without losing a row. -/
structure Gains (s s' : Store) : Prop where
  evolves : s.Evolves s'
  rows : ∀ id, (s.relation id).rows ⊆ (s'.relation id).rows

theorem Gains.refl (s : Store) : s.Gains s :=
  ⟨Evolves.refl s, fun _ => List.Subset.refl _⟩

theorem Gains.trans
    {s s' s'' : Store}
    (h : s.Gains s')
    (h' : s'.Gains s'') : s.Gains s'' where
  evolves := h.evolves.trans h'.evolves
  rows := fun id => List.Subset.trans (h.rows id) (h'.rows id)

theorem gains_setTable
    {s : Store}
    {id : TableId}
    {table' : SymbolTable}
    (h : (s.table id).symbols <+: table'.symbols) :
    s.Gains (s.setTable id table') :=
  ⟨evolves_setTable h, fun _ => List.Subset.refl _⟩

theorem gains_setRelation
    {s : Store}
    {id : RelationId}
    {r : Relation}
    (hEvolves : (s.relation id).Evolves r)
    (hRows : (s.relation id).rows ⊆ r.rows) :
    s.Gains (s.setRelation id r) where
  evolves := evolves_setRelation hEvolves
  rows := by
    intro other
    rcases s.relation_setRelation_or id r other with
      ⟨rfl, hNew⟩ | hOld
    · rw [hNew]
      exact hRows
    · rw [hOld]
      exact List.Subset.refl _

end Store

------------------------------------------------------------
-- Actions
------------------------------------------------------------

namespace Action

/- A typed write, in terms of the table of the tuple. -/
theorem run_append
    (t : Tuple)
    (e : Element)
    (s : Store) :
    run (append t e) s =
      match t.append (s.table t.table) e with
      | (.ok _, t', table') => (.ok t', s.setTable t.table table')
      | (.error v, _, table') =>
          (.error (.violation v), s.setTable t.table table') := by
  simp only [append, run_ofStep, Store.write]
  rcases t.append (s.table t.table) e with ⟨_ | _, _, _⟩ <;> rfl

/- A row that is encoded is stored next. -/
theorem run_insertRow
    (id : RelationId)
    (row : List Element)
    (s : Store) :
    let r := s.relation id
    run (insertRow id row) s =
      match r.encodeRow (s.table r.table) row with
      | (.ok t, table') =>
          run (insert id t) (s.setTable r.table table')
      | (.error f, table') =>
          (.error f, s.setTable r.table table') := by
  simp only [insertRow, run_bind, encodeRow, run_ofStep]
  rcases (s.relation id).encodeRow
    (s.table (s.relation id).table) row with ⟨_ | _, _⟩ <;> rfl

/- A row that is encoded is looked for among the stored ones. -/
theorem run_containsRow
    (id : RelationId)
    (row : List Element)
    (s : Store) :
    let r := s.relation id
    run (containsRow id row) s =
      match r.encodeRow (s.table r.table) row with
      | (.ok t, table') =>
          (.ok (r.contains t), s.setTable r.table table')
      | (.error f, table') =>
          (.error f, s.setTable r.table table') := by
  simp only [containsRow, run_bind, encodeRow, run_ofStep]
  rcases (s.relation id).encodeRow
    (s.table (s.relation id).table) row with ⟨_ | _, _⟩ <;> rfl

theorem gains_intern
    (id : TableId)
    (symbol : String)
    (s : Store) : s.Gains (run (intern id symbol) s).2 :=
  Store.gains_setTable ((s.table id).prefix_of_lookup symbol)

theorem gains_append
    (t : Tuple)
    (e : Element)
    (s : Store) : s.Gains (run (append t e) s).2 :=
  Store.gains_setTable (t.prefix_of_append _ e)

theorem gains_insert
    (id : RelationId)
    (t : Tuple)
    (s : Store) : s.Gains (run (insert id t) s).2 := by
  rw [run_insert]
  split
  · rename_i hInsert
    exact Store.gains_setRelation
      (Relation.evolves_insert hInsert)
      (Relation.rows_subset_of_insert hInsert)
  · exact Store.Gains.refl s

theorem gains_encodeRow
    (id : RelationId)
    (row : List Element)
    (s : Store) : s.Gains (run (encodeRow id row) s).2 := by
  simp only [encodeRow, run_ofStep]
  exact Store.gains_setTable (Relation.prefix_of_encodeRow _ _ _)

theorem gains_insertRow
    (id : RelationId)
    (row : List Element)
    (s : Store) : s.Gains (run (insertRow id row) s).2 :=
  related_bind Store.Gains Store.Gains.trans
    (gains_encodeRow id row s) fun t s' _ => gains_insert id t s'

theorem gains_containsRow
    (id : RelationId)
    (row : List Element)
    (s : Store) : s.Gains (run (containsRow id row) s).2 :=
  related_bind Store.Gains Store.Gains.trans
    (gains_encodeRow id row s) fun _ s' _ => Store.Gains.refl s'

end Action

------------------------------------------------------------
-- Uses
------------------------------------------------------------

namespace Store

/- What a host does with texts, tuples and rows of values. -/
inductive Use where
| lookUp (id : TableId) (text : String)
| push (t : Tuple) (e : Element)
| insert (id : RelationId) (t : Tuple)
| encodeRow (id : RelationId) (row : List Element)
| insertRow (id : RelationId) (row : List Element)
| containsRow (id : RelationId) (row : List Element)

/- The store after a use, whether or not it succeeds. -/
def use (s : Store) : Use → Store
| .lookUp id text => (Action.run (Action.intern id text) s).2
| .push t e => (Action.run (Action.append t e) s).2
| .insert id t => (Action.run (Action.insert id t) s).2
| .encodeRow id row =>
    (Action.run (Action.encodeRow id row) s).2
| .insertRow id row =>
    (Action.run (Action.insertRow id row) s).2
| .containsRow id row =>
    (Action.run (Action.containsRow id row) s).2

/- The store after uses, one after the other. -/
def useAll
    (s : Store)
    (uses : List Use) : Store :=
  uses.foldl use s

/- A use removes nothing. -/
theorem gains_use
    (s : Store)
    (u : Use) : s.Gains (s.use u) := by
  cases u with
  | lookUp id text => exact Action.gains_intern id text s
  | push t e => exact Action.gains_append t e s
  | insert id t => exact Action.gains_insert id t s
  | encodeRow id row => exact Action.gains_encodeRow id row s
  | insertRow id row => exact Action.gains_insertRow id row s
  | containsRow id row => exact Action.gains_containsRow id row s

/- No number of uses removes anything. -/
theorem gains_useAll
    (s : Store)
    (uses : List Use) : s.Gains (s.useAll uses) := by
  induction uses generalizing s with
  | nil => exact Gains.refl s
  | cons u uses ih => exact (s.gains_use u).trans (ih _)

end Store

end FactStore
