import FactStore.Proofs.Store.Evolution

/-
  This file defines what a relation holds, as values instead
  of cells, and proves that every row of a relation that was
  only written through typed writes can be read as values.

  Key definitions include:
    * `Relation.values`
    * `Relation.Readable`
    * `Relation.Stores`, `Relation.Adds`
    * `Relation.Written`

  Main statements include:
    * `Relation.IsMemory.stores_insert`
    * `Relation.Stores.adds`
    * `Relation.readable_of_written`
-/

namespace FactStore

namespace Relation

------------------------------------------------------------
-- Rows as Values
------------------------------------------------------------

/- The rows of a relation that can be read, as their values. -/
def values
    (r : Relation)
    (table : SymbolTable) : List (List Element) :=
  r.rows.filterMap fun row =>
    (Row.decode table r.schema.attributes row).toOption

/- Every row of a set of rows can be read. -/
structure Readable
    (r : Relation)
    (table : SymbolTable) : Prop where
  memory : r.IsMemory
  uniform : r.Uniform
  decodes :
    ∀ row ∈ r.rows,
      ∃ es, Row.decode table r.schema.attributes row = .ok es

theorem mem_values_iff
    {r : Relation}
    {table : SymbolTable}
    {es : List Element} :
    es ∈ r.values table ↔
      ∃ row ∈ r.rows,
        Row.decode table r.schema.attributes row = .ok es := by
  unfold values
  rw [List.mem_filterMap]
  refine exists_congr fun row => and_congr_right fun _ => ?_
  cases Row.decode table r.schema.attributes row <;>
    simp [Except.toOption]

/- The values of a row are of the kinds of its columns. -/
theorem Readable.kinds_of_mem_values
    {r : Relation}
    {table : SymbolTable}
    (h : r.Readable table)
    {es : List Element}
    (hMem : es ∈ r.values table) :
    List.Forall₂ (fun a e => e.kind = Line.kindOf a.type)
      r.schema.attributes es := by
  rcases mem_values_iff.mp hMem with ⟨row, hRow, hDecode⟩
  exact Row.kinds_of_decode (h.uniform row hRow) hDecode

/- The texts of a row are known to its table. -/
theorem text_mem_of_mem_values
    {r : Relation}
    {table : SymbolTable}
    {es : List Element}
    (hMem : es ∈ r.values table)
    {s : String}
    (hText : Element.text s ∈ es) : s ∈ table.symbols := by
  rcases mem_values_iff.mp hMem with ⟨row, _, hDecode⟩
  exact Row.text_mem_of_decode hDecode hText

/- No two rows are read as the same values. -/
theorem Readable.nodup_values
    {r : Relation}
    {table : SymbolTable}
    (h : r.Readable table) : (r.values table).Nodup := by
  rw [values, List.Nodup, List.pairwise_filterMap]
  refine h.memory.nodup_rows.imp_of_mem fun {row row'} hRow hRow' hNe => ?_
  rintro es hDecode _ hDecode' rfl
  rcases h.decodes row hRow with ⟨es₁, hRead⟩
  rcases h.decodes row' hRow' with ⟨es₂, hRead'⟩
  rw [hRead] at hDecode
  rw [hRead'] at hDecode'
  cases hDecode
  cases hDecode'
  exact hNe
    (Row.decode_inj (h.uniform row hRow) (h.uniform row' hRow')
      hRead hRead')

/- A relation without rows holds nothing that is unreadable. -/
theorem readable_of_rows_eq_nil
    {r : Relation}
    (table : SymbolTable)
    (hMemory : r.IsMemory)
    (hEmpty : r.rows = []) : r.Readable table where
  memory := hMemory
  uniform := by
    intro row hRow
    rw [hEmpty] at hRow
    cases hRow
  decodes := by
    intro row hRow
    rw [hEmpty] at hRow
    cases hRow

/- Rows keep their values while their table grows. -/
theorem Readable.grow
    {r : Relation}
    {table table' : SymbolTable}
    (h : r.Readable table)
    (hPrefix : table.symbols <+: table'.symbols) :
    r.Readable table' ∧
      ∀ es, es ∈ r.values table' ↔ es ∈ r.values table := by
  refine ⟨⟨h.memory, h.uniform, ?_⟩, ?_⟩
  · intro row hRow
    rcases h.decodes row hRow with ⟨es, hDecode⟩
    exact ⟨es, Row.decode_of_prefix hPrefix hDecode⟩
  · intro es
    rw [mem_values_iff, mem_values_iff]
    refine exists_congr fun row => and_congr_right fun hRow => ?_
    rcases h.decodes row hRow with ⟨es', hDecode⟩
    rw [hDecode, Row.decode_of_prefix hPrefix hDecode]

/- A row that can be read is stored among others that can be. -/
theorem Readable.of_insert
    {r r' : Relation}
    {table : SymbolTable}
    {t : Tuple}
    {es : List Element}
    (h : r.Readable table)
    (hDecode :
      Row.decode table r.schema.attributes t.cells = .ok es)
    (hInsert : r.insert t = .ok r') : r'.Readable table := by
  have hEvolves := evolves_insert hInsert
  rcases h.memory with ⟨rows, hStorage⟩
  rcases (insert_eq_ok_iff hStorage).mp hInsert with
    ⟨_, _, hRelation⟩
  refine
    ⟨hEvolves.memory h.memory,
      hEvolves.uniform h.memory h.uniform, fun row hRow => ?_⟩
  rw [hRelation] at hRow ⊢
  rcases RowSet.mem_insert.mp hRow with rfl | hOld
  · exact ⟨es, hDecode⟩
  · exact h.decodes row (by rwa [rows_eq_of_storage hStorage])

------------------------------------------------------------
-- Added Rows
------------------------------------------------------------

/-
  A set of rows that holds more rows than before, one for
  each list of values, whatever the other rows are.
-/
structure Stores
    (r : Relation)
    (table : SymbolTable)
    (added : List (List Element))
    (r' : Relation)
    (table' : SymbolTable) : Prop where
  schema : r'.schema = r.schema
  memory : r'.IsMemory
  grows : table.symbols <+: table'.symbols
  held :
    ∀ es ∈ added, ∃ row,
      Row.Holds table' r.schema.attributes es row
  rows :
    ∀ row, row ∈ r'.rows ↔
      row ∈ r.rows ∨
        ∃ es ∈ added, Row.Holds table' r.schema.attributes es row

theorem Stores.refl
    {r : Relation}
    (table : SymbolTable)
    (h : r.IsMemory) : r.Stores table [] r table :=
  ⟨rfl, h, List.prefix_refl _, by simp, by simp⟩

theorem Stores.trans
    {r r' r'' : Relation}
    {table table' table'' : SymbolTable}
    {added added' : List (List Element)}
    (h : r.Stores table added r' table')
    (h' : r'.Stores table' added' r'' table'') :
    r.Stores table (added ++ added') r'' table'' where
  schema := h'.schema.trans h.schema
  memory := h'.memory
  grows := h.grows.trans h'.grows
  held := by
    intro es hMem
    rcases List.mem_append.mp hMem with hOld | hNew
    · rcases h.held es hOld with ⟨row, hHolds⟩
      exact ⟨row, hHolds.grow h'.grows⟩
    · rw [← h.schema]
      exact h'.held es hNew
  rows := by
    -- The row of values stays the same while the table grows.
    have hSame :
        ∀ es ∈ added, ∀ row,
          Row.Holds table'' r.schema.attributes es row ↔
            Row.Holds table' r.schema.attributes es row := by
      intro es hMem row
      rcases h.held es hMem with ⟨row', hHolds'⟩
      constructor
      · intro hHolds
        rwa [hHolds.unique (hHolds'.grow h'.grows)]
      · exact fun hHolds => hHolds.grow h'.grows
    intro row
    rw [h'.rows, h.rows, h.schema, or_assoc]
    refine or_congr_right ?_
    constructor
    · rintro (⟨es, hMem, hHolds⟩ | ⟨es, hMem, hHolds⟩)
      · exact ⟨es, List.mem_append_left _ hMem,
          (hSame es hMem row).mpr hHolds⟩
      · exact ⟨es, List.mem_append_right _ hMem, hHolds⟩
    · rintro ⟨es, hMem, hHolds⟩
      rcases List.mem_append.mp hMem with hOld | hNew
      · exact Or.inl ⟨es, hOld, (hSame es hOld row).mp hHolds⟩
      · exact Or.inr ⟨es, hNew, hHolds⟩

/-
  A tuple that is bound to a set of rows is stored by it as
  the row of its values.
-/
theorem IsMemory.stores_insert
    {r : Relation}
    {table table' : SymbolTable}
    (h : r.IsMemory)
    (hPrefix : table.symbols <+: table'.symbols)
    {t : Tuple}
    {es : List Element}
    (hBound : t.BoundTo r)
    (hDecode :
      Row.decode table' r.schema.attributes t.cells = .ok es) :
    ∃ r', r.insert t = .ok r' ∧
      r.Stores table [es] r' table' := by
  rcases h with ⟨rows, hStorage⟩
  let r' : Relation :=
    { r with storage := .memory (rows.insert t.cells) }
  have hInsert : r.insert t = .ok r' :=
    (insert_eq_ok_iff hStorage).mpr
      ⟨by rw [hBound.schema], hBound.width, rfl⟩
  have hHolds : Row.Holds table' r.schema.attributes es t.cells :=
    ⟨hBound.width, hDecode⟩
  refine ⟨r', hInsert, rfl, ⟨_, rfl⟩, hPrefix, ?_, ?_⟩
  · intro es' hMem
    rw [List.mem_singleton.mp hMem]
    exact ⟨t.cells, hHolds⟩
  · intro row
    rw [rows_eq_of_storage hStorage]
    refine RowSet.mem_insert.trans (or_comm.trans ?_)
    refine or_congr_right ?_
    constructor
    · rintro rfl
      exact ⟨es, List.mem_cons_self, hHolds⟩
    · rintro ⟨es', hMem, hRow⟩
      rw [List.mem_singleton.mp hMem] at hRow
      exact hRow.unique hHolds

/- A relation that holds more rows of values than before. -/
structure Adds
    (r : Relation)
    (table : SymbolTable)
    (added : List (List Element))
    (r' : Relation)
    (table' : SymbolTable) : Prop where
  schema : r'.schema = r.schema
  readable : r'.Readable table'
  values :
    ∀ es, es ∈ r'.values table' ↔
      es ∈ r.values table ∨ es ∈ added

/- Rows that are stored among readable ones are readable too. -/
theorem Stores.adds
    {r r' : Relation}
    {table table' : SymbolTable}
    {added : List (List Element)}
    (h : r.Stores table added r' table')
    (hReadable : r.Readable table) :
    r.Adds table added r' table' := by
  have hDecodes :
      ∀ row ∈ r'.rows, row.length = r.arity ∧
        ∃ es, Row.decode table' r.schema.attributes row =
          .ok es := by
    intro row hRow
    rcases (h.rows row).mp hRow with hOld | ⟨es, _, hHolds⟩
    · rcases hReadable.decodes row hOld with ⟨es, hDecode⟩
      exact ⟨hReadable.uniform row hOld, es,
        Row.decode_of_prefix h.grows hDecode⟩
    · exact ⟨hHolds.1, es, hHolds.2⟩
  refine ⟨h.schema, ⟨h.memory, ?_, ?_⟩, fun es => ?_⟩
  · intro row hRow
    rw [arity, h.schema]
    exact (hDecodes row hRow).1
  · intro row hRow
    rw [h.schema]
    exact (hDecodes row hRow).2
  · rw [mem_values_iff, ← (hReadable.grow h.grows).2 es,
      mem_values_iff, h.schema]
    constructor
    · rintro ⟨row, hRow, hDecode⟩
      rcases (h.rows row).mp hRow with hOld | ⟨es', hMem, hHolds⟩
      · exact Or.inl ⟨row, hOld, hDecode⟩
      · cases hHolds.2.symm.trans hDecode
        exact Or.inr hMem
    · rintro (⟨row, hOld, hDecode⟩ | hMem)
      · exact ⟨row, (h.rows row).mpr (Or.inl hOld), hDecode⟩
      · rcases h.held es hMem with ⟨row, hHolds⟩
        exact
          ⟨row, (h.rows row).mpr (Or.inr ⟨es, hMem, hHolds⟩),
            hHolds.2⟩

/- A tuple over a table that has grown adds its values. -/
theorem Readable.adds_insert
    {r : Relation}
    {table table' : SymbolTable}
    (h : r.Readable table)
    (hPrefix : table.symbols <+: table'.symbols)
    {t : Tuple}
    {es : List Element}
    (hBound : t.BoundTo r)
    (hDecode :
      Row.decode table' r.schema.attributes t.cells = .ok es) :
    ∃ r', r.insert t = .ok r' ∧ r.Adds table [es] r' table' := by
  rcases h.memory.stores_insert hPrefix hBound hDecode with
    ⟨r', hInsert, hStores⟩
  exact ⟨r', hInsert, hStores.adds h⟩

------------------------------------------------------------
-- Typed Writes
------------------------------------------------------------

/-
  A tuple of a relation with the symbol table, and the columns
  that were written to.  In between the cursor may be moved,
  and the table may learn texts from elsewhere.
-/
inductive Filled
    (r : Relation) :
    SymbolTable → List Nat → Tuple → Prop where
| blank (table : SymbolTable) : Filled r table [] r.blankTuple
| grow {table table' : SymbolTable} {columns : List Nat}
    {t : Tuple} :
    Filled r table columns t →
      table.symbols <+: table'.symbols →
      Filled r table' columns t
| rewind {table : SymbolTable} {columns : List Nat}
    {t : Tuple} :
    Filled r table columns t → Filled r table columns t.rewind
| read {table : SymbolTable} {columns : List Nat} {t : Tuple}
    (kind : ElementKind) :
    Filled r table columns t →
      Filled r table columns (t.read table kind).2
| append {table table' : SymbolTable} {columns : List Nat}
    {e : Element} {t t' : Tuple} :
    Filled r table columns t →
      t.append table e = (.ok (), t', table') →
      Filled r table' (t.position :: columns) t'

/-
  A relation with the symbol table after any typed writes:
  only tuples that were written in all columns are stored.
-/
inductive Written : Relation → SymbolTable → Prop where
| new (schema : Schema) (id : TableId) (table : SymbolTable) :
    Written (.memory schema id) table
| grow {r : Relation} {table table' : SymbolTable} :
    Written r table →
      table.symbols <+: table'.symbols → Written r table'
| insert {r r' : Relation} {table : SymbolTable}
    {columns : List Nat} {t : Tuple} :
    Written r table → Filled r table columns t →
      (∀ i < r.arity, i ∈ columns) →
      r.insert t = .ok r' → Written r' table
| purge {r : Relation} {table : SymbolTable} :
    Written r table → Written r.purge table

/- A filled tuple is bound, and its written columns are read. -/
theorem Filled.spec
    {r : Relation}
    {table : SymbolTable}
    {columns : List Nat}
    {t : Tuple}
    (h : Filled r table columns t) :
    t.BoundTo r ∧
      ∀ i ∈ columns,
        Row.ReadsAt table r.schema.attributes t.cells i := by
  induction h with
  | blank table =>
      refine ⟨⟨rfl, rfl, r.blankTuple_at.width⟩, ?_⟩
      intro i hMem
      cases hMem
  | grow _ hPrefix ih =>
      rcases ih with ⟨hBound, hReads⟩
      exact ⟨hBound, fun i hMem => (hReads i hMem).grow hPrefix⟩
  | rewind _ ih => exact ⟨⟨ih.1.schema, ih.1.table, ih.1.width⟩, ih.2⟩
  | @read table columns t kind _ ih =>
      have hBound := ih.1
      unfold Tuple.read
      split
      · exact ih
      · exact ⟨⟨hBound.schema, hBound.table, hBound.width⟩, ih.2⟩
  | @append table table' columns e t t' _ hAppend ih =>
      rcases ih with ⟨hBound, hReads⟩
      rcases Tuple.append_eq_ok_iff.mp hAppend with
        ⟨hExpect, c, hEncode, rfl⟩
      rcases Tuple.expect_eq_ok_iff.mp hExpect with
        ⟨hLt, a, hColumn, hFits⟩
      rw [hBound.schema] at hColumn
      refine ⟨⟨hBound.schema, hBound.table, ?_⟩, ?_⟩
      · simp only [Tuple.put, List.length_set, hBound.width]
      · have hHere :
            Row.ReadsAt table' r.schema.attributes (t.put c).cells
              t.position :=
          ⟨a, c, e.onColumn a.type, hColumn,
            List.getElem?_set_self hLt,
            Element.decode_of_encode hFits hEncode⟩
        intro i hMem
        by_cases hSame : i = t.position
        · rw [hSame]
          exact hHere
        · have hOld : i ∈ columns :=
            (List.mem_cons.mp hMem).resolve_left hSame
          rcases hReads i hOld with
            ⟨a', c', e', hColumn', hCell, hDecode⟩
          refine ⟨a', c', e', hColumn', ?_, ?_⟩
          · simp only [Tuple.put]
            rw [List.getElem?_set_ne (Ne.symm hSame)]
            exact hCell
          · exact Element.decode_of_prefix
              (Element.symbols_of_encode hEncode) hDecode

/- A tuple that is written in all columns can be read. -/
theorem Filled.decode
    {r : Relation}
    {table : SymbolTable}
    {columns : List Nat}
    {t : Tuple}
    (h : Filled r table columns t)
    (hAll : ∀ i < r.arity, i ∈ columns) :
    t.BoundTo r ∧
      ∃ es, Row.decode table r.schema.attributes t.cells =
        .ok es := by
  rcases h.spec with ⟨hBound, hReads⟩
  refine ⟨hBound, Row.exists_decode hBound.width ?_⟩
  intro i hLt
  exact hReads i (hAll i hLt)

/- What was only written through typed writes can be read. -/
theorem readable_of_written
    {r : Relation}
    {table : SymbolTable}
    (h : r.Written table) : r.Readable table := by
  induction h with
  | new schema id table =>
      exact readable_of_rows_eq_nil table ⟨_, rfl⟩ rfl
  | grow _ hPrefix ih => exact (ih.grow hPrefix).1
  | @insert r r' table columns t _ hFilled hAll hInsert ih =>
      rcases hFilled.decode hAll with ⟨_, es, hDecode⟩
      exact ih.of_insert hDecode hInsert
  | @purge r table _ ih =>
      exact readable_of_rows_eq_nil table
        (r.evolves_purge.memory ih.memory) r.rows_purge

/- Values written one after the other fill their columns. -/
theorem filled_of_appendAll
    {r : Relation}
    (es : List Element) :
    ∀ {columns : List Nat} {t t' : Tuple}
      {table table' : SymbolTable},
      Filled r table columns t →
        t.appendAll table es = (.ok t', table') →
          ∃ columns',
            Filled r table' columns' t' ∧ columns ⊆ columns' ∧
              ∀ i < es.length, t.position + i ∈ columns' := by
  induction es with
  | nil =>
      intro columns t t' table table' hFilled hAll
      cases hAll
      refine ⟨columns, hFilled, List.Subset.refl _, ?_⟩
      intro i hLt
      cases hLt
  | cons e es ih =>
      intro columns t t' table table' hFilled hAll
      unfold Tuple.appendAll at hAll
      split at hAll
      · cases hAll
      · rename_i t₁ table₁ hAppend
        rcases ih (hFilled.append hAppend) hAll with
          ⟨columns', hFilled', hSubset, hWritten⟩
        have hPosition : t₁.position = t.position + 1 :=
          (Tuple.frame_of_append hAppend).2.2.2
        refine ⟨columns', hFilled', ?_, ?_⟩
        · intro i hMem
          exact hSubset (List.mem_cons_of_mem _ hMem)
        · intro i hLt
          cases i with
          | zero => exact hSubset List.mem_cons_self
          | succ i =>
              have hNext := hWritten i (by simpa using hLt)
              rw [hPosition, Nat.add_assoc, Nat.add_comm 1] at hNext
              exact hNext

/- A row that is encoded and stored at once is typed as well. -/
theorem Written.insert_encodeRow
    {r r' : Relation}
    {table table' : SymbolTable}
    {row : List Element}
    {t : Tuple}
    (h : r.Written table)
    (hEncode : r.encodeRow table row = (.ok t, table'))
    (hInsert : r.insert t = .ok r') : r'.Written table' := by
  have hPrefix := r.prefix_of_encodeRow table row
  rw [hEncode] at hPrefix
  unfold encodeRow at hEncode
  split at hEncode
  · rename_i hLength
    split at hEncode
    · rename_i hAll
      cases hEncode
      rcases filled_of_appendAll row (Filled.blank table) hAll with
        ⟨columns, hFilled, _, hWritten⟩
      refine (h.grow hPrefix).insert hFilled ?_ hInsert
      intro i hLt
      have hColumn := hWritten i (by rwa [hLength])
      rwa [r.blankTuple_at.position, List.length_nil, Nat.zero_add]
        at hColumn
    · cases hEncode
  · cases hEncode

end Relation

end FactStore
