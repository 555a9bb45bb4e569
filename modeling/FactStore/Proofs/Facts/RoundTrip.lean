import FactStore.Proofs.Facts.Load
import FactStore.Proofs.FileTree

/-
  This file proves what is left of a relation that is stored
  in a fact file and loaded again: every row but those whose
  line is taken for a blank one.

  Key definitions include:
    * `Store.values`

  Main statements include:
    * `Action.written_insertRow`
    * `Action.exists_store_load`
    * `Action.store_load_exact_iff`
    * `Action.store_load_loses_row`
-/

namespace FactStore

/- What the relation with an id holds, as values. -/
def Store.values
    (s : Store)
    (id : RelationId) : List (List Element) :=
  (s.relation id).values (s.table (s.relation id).table)

/- Every row of a readable relation counts as its values. -/
theorem Relation.Readable.length_values
    {r : Relation}
    {table : SymbolTable}
    (h : r.Readable table) :
    (r.values table).length = r.size := by
  apply List.filterMap_length_eq_length.mpr
  intro row hRow
  rcases h.decodes row hRow with ⟨es, hDecode⟩
  rw [hDecode]
  rfl

/- A relation that is set with its table holds its rows. -/
theorem Store.values_setBoth
    {s : Store}
    {id : RelationId}
    {r : Relation}
    {table : SymbolTable}
    (hUsed : id.index < s.relations.length)
    (hTable : r.table.index < s.tables.length) :
    (s.setBoth id r table).values id = r.values table := by
  have hRelation : (s.setBoth id r table).relation id = r :=
    relation_setRelation r hUsed
  have hSymbols :
      (s.setBoth id r table).table r.table = table :=
    table_setTable table hTable
  rw [values, hRelation, hSymbols]

namespace Action

------------------------------------------------------------
-- Storing and Loading
------------------------------------------------------------

/- A readable relation is stored where a file can be created. -/
theorem run_store
    {s : Store}
    {id : RelationId}
    {path : String}
    {place : FilePath}
    (hReadable :
      (s.relation id).Readable
        (s.table (s.relation id).table))
    (hPath : s.files.creatable path = .ok place) :
    ∃ files,
      run (store id path (default : FactOptions).delimiter) s =
        (.ok (s.relation id).size, { s with files }) ∧
      files.read path =
        .ok (FactFile.ofRows (s.values id)).toUTF8 := by
  let text := FactFile.ofRows (s.values id)
  let files := s.files.put place text.toUTF8
  have hWrite : s.files.write path text.toUTF8 = .ok files := by
    rw [FileTree.write, hPath]
    rfl
  have hStore :
      FactFile.store (s.relation id)
          (s.table (s.relation id).table) '\t' =
        (.ok (s.relation id).size, text) :=
    FactFile.store_of_readable hReadable
  refine ⟨files, ?_, FileTree.read_of_write hWrite⟩
  have hDelimiter : (default : FactOptions).delimiter = '\t' := rfl
  simp only [store, run_ofStep, hDelimiter, hStore, hWrite]

/- A load answers what reading the lines of its file answers. -/
theorem run_load
    {s : Store}
    {id : RelationId}
    {path : String}
    {vs : List (List Element)}
    {loaded : Nat}
    {r : Relation}
    {table : SymbolTable}
    (hRead : s.files.read path = .ok (FactFile.ofRows vs).toUTF8)
    (hLoad :
      FactFile.loadLines path default
          ((vs.map Line.text).map .ok) 1 0 (s.relation id)
          (s.table (s.relation id).table) =
        (.ok loaded, r, table)) :
    run (load id path default) s =
      (.ok loaded, s.setBoth id r table) := by
  simp only [load, run_ofStep, hRead, FactFile.load,
    FactFile.lines_ofRows, hLoad]

/-
  A readable relation without NaNs is stored, row by row, and
  loaded into an empty relation of the same schema over an
  empty symbol table.  The rows that do not vanish are back.
-/
theorem exists_store_load
    {s : Store}
    {id id' : RelationId}
    {table' : TableId}
    {path : String}
    {place : FilePath}
    (hReadable :
      (s.relation id).Readable
        (s.table (s.relation id).table))
    (hNoNaNs : ∀ es ∈ s.values id, ∀ e ∈ es, e.NotNaN)
    (hUsed : id'.index < s.relations.length)
    (hTable : table'.index < s.tables.length)
    (hNew :
      s.relation id' = .memory (s.relation id).schema table')
    (hFresh : s.table table' = .empty)
    (hPath : s.files.creatable path = .ok place) :
    ∃ s₁ s₂,
      run (store id path (default : FactOptions).delimiter) s =
        (.ok (s.relation id).size, s₁) ∧
      run (load id' path default) s₁ =
        (.ok
          ((s.values id).filter (!Line.vanishes ·)).length, s₂) ∧
      ∀ es, es ∈ s₂.values id' ↔
        es ∈ s.values id ∧ Line.vanishes es = false := by
  rcases run_store hReadable hPath with ⟨files, hStore, hRead⟩
  have hTableId : (s.relation id').table = table' := by
    rw [hNew]
    rfl
  have hEmpty :
      (s.relation id').Readable
        (s.table (s.relation id').table) := by
    rw [hNew]
    exact Relation.readable_of_rows_eq_nil _ ⟨_, rfl⟩ rfl
  have hNone : s.values id' = [] := by
    rw [Store.values, hNew]
    rfl
  have hAttributes :
      (s.relation id').schema.attributes =
        (s.relation id).schema.attributes := by
    rw [hNew]
    rfl
  have hNoSymbols :
      (s.table (s.relation id').table).symbols ⊆
        (s.table (s.relation id).table).symbols := by
    rw [hTableId, hFresh]
    exact List.nil_subset _
  rcases
      FactFile.exists_loadLines path
        (s.table (s.relation id).table).bounded (s.values id)
        (fun _ hes => hReadable.kinds_of_mem_values hes)
        hNoNaNs
        (fun _ hes _ hText =>
          Relation.text_mem_of_mem_values hes hText)
        1 0 hAttributes hEmpty hNoSymbols with
    ⟨r', loadedTable, hLoad, _, hValues⟩
  rw [Nat.zero_add] at hLoad
  have hEvolves :=
    FactFile.evolves_loadLines path default
      (((s.values id).map Line.text).map .ok) 1 0
      (s.relation id') (s.table (s.relation id').table)
  rw [hLoad] at hEvolves
  let s₁ : Store := { s with files }
  refine
    ⟨s₁, s₁.setBoth id' r' loadedTable, hStore,
      run_load hRead hLoad, ?_⟩
  have hTable' : r'.table.index < s₁.tables.length := by
    rw [hEvolves.1.table, hTableId]
    exact hTable
  have hUsed' : id'.index < s₁.relations.length := hUsed
  intro es
  rw [Store.values_setBoth hUsed' hTable', hValues]
  change es ∈ s.values id' ∨ _ ↔ _
  rw [hNone]
  simp

/- Whether or not a row is taken, only typed rows are stored. -/
theorem written_insertRow
    {s : Store}
    {id : RelationId}
    (hUsed : id.index < s.relations.length)
    (hTable : (s.relation id).table.index < s.tables.length)
    (hWritten :
      (s.relation id).Written (s.table (s.relation id).table))
    (row : List Element) :
    let s' := (run (insertRow id row) s).2
    (s'.relation id).Written
      (s'.table (s'.relation id).table) := by
  let r := s.relation id
  cases hEncode : r.encodeRow (s.table r.table) row with
  | mk outcome table' =>
      let s₁ := s.setTable r.table table'
      have hSymbols : s₁.table r.table = table' :=
        Store.table_setTable table' hTable
      have hPrefix :=
        r.prefix_of_encodeRow (s.table r.table) row
      rw [hEncode] at hPrefix
      have hGrown : r.Written (s₁.table r.table) := by
        rw [hSymbols]
        exact hWritten.grow hPrefix
      have hRun : run (encodeRow id row) s = (outcome, s₁) := by
        simp only [encodeRow, run_ofStep]
        rw [hEncode]
      rw [insertRow, run_bind, hRun]
      cases outcome with
      | error e => exact hGrown
      | ok t =>
          simp only [run_insert]
          cases hInsert : (s₁.relation id).insert t with
          | error v => exact hGrown
          | ok r' =>
              have hRelation :
                  (s₁.setRelation id r').relation id = r' :=
                Store.relation_setRelation r' hUsed
              have hTableId : r'.table = r.table :=
                (Relation.evolves_insert hInsert).table
              simp only [hRelation, hTableId,
                Store.table_setRelation, hSymbols]
              exact hWritten.insert_encodeRow hEncode hInsert

/-
  What was written through typed writes and has no NaN is
  stored, row by row.  It comes back as it was, the count and
  every value of every row, exactly when no row vanishes; the
  rows that vanish are the ones that are lost.
-/
theorem store_load_exact_iff
    {s : Store}
    {id id' : RelationId}
    {table' : TableId}
    {path : String}
    {place : FilePath}
    (hWritten :
      (s.relation id).Written (s.table (s.relation id).table))
    (hNoNaNs : ∀ es ∈ s.values id, ∀ e ∈ es, e.NotNaN)
    (hUsed : id'.index < s.relations.length)
    (hTable : table'.index < s.tables.length)
    (hNew :
      s.relation id' = .memory (s.relation id).schema table')
    (hFresh : s.table table' = .empty)
    (hPath : s.files.creatable path = .ok place) :
    ∃ s₁ s₂ loaded,
      run (store id path (default : FactOptions).delimiter) s =
        (.ok (s.relation id).size, s₁) ∧
      run (load id' path default) s₁ = (.ok loaded, s₂) ∧
      loaded = ((s.values id).filter (!Line.vanishes ·)).length ∧
      (∀ es, es ∈ s₂.values id' ↔
        es ∈ s.values id ∧ Line.vanishes es = false) ∧
      ((loaded = (s.relation id).size ∧
          ∀ es, es ∈ s₂.values id' ↔ es ∈ s.values id) ↔
        ∀ es ∈ s.values id, Line.vanishes es = false) := by
  have hReadable := Relation.readable_of_written hWritten
  rcases
      exists_store_load hReadable hNoNaNs hUsed hTable hNew hFresh
        hPath with
    ⟨s₁, s₂, hStore, hLoad, hValues⟩
  refine ⟨s₁, s₂, _, hStore, hLoad, rfl, hValues, ?_⟩
  constructor
  · rintro ⟨_, hSame⟩ es hes
    exact ((hValues es).mp ((hSame es).mpr hes)).2
  · intro hStay
    constructor
    · have hAll :
          (s.values id).filter (!Line.vanishes ·) = s.values id := by
        rw [List.filter_eq_self]
        intro es hes
        rw [hStay es hes]
        rfl
      rw [hAll]
      exact hReadable.length_values
    · intro es
      rw [hValues]
      exact and_iff_left_of_imp (hStay es)

------------------------------------------------------------
-- Rows of Two Texts
------------------------------------------------------------

/- Pairs of symbols. -/
def pair : Schema :=
  ⟨"pair", [⟨"x", .symbol, none⟩, ⟨"y", .symbol, none⟩]⟩

/- Two empty relations of pairs, over a table each. -/
def pairs : Store where
  tables := [.empty, .empty]
  relations := [.memory pair ⟨0⟩, .memory pair ⟨1⟩]
  files := .empty

/- The store after one row was written to the first relation. -/
def ofRow (row : List Element) : Store :=
  (run (insertRow ⟨0⟩ row) pairs).2

theorem written_ofRow (row : List Element) :
    let s := ofRow row
    (s.relation ⟨0⟩).Written
      (s.table (s.relation ⟨0⟩).table) := by
  have hNew :
      (pairs.relation ⟨0⟩).Written
        (pairs.table (pairs.relation ⟨0⟩).table) :=
    .new pair ⟨0⟩ .empty
  exact written_insertRow (by decide) (by decide) hNew row

/- A row of texts holds no NaN. -/
theorem notNaN_of_texts
    (texts : List String) :
    ∀ es ∈ [texts.map Element.text], ∀ e ∈ es, e.NotNaN := by
  intro es hes e he x hFloat
  rw [List.mem_singleton] at hes
  rw [hes, List.mem_map] at he
  rcases he with ⟨text, _, hText⟩
  rw [hFloat] at hText
  cases hText

/- A row with a tab and an empty text comes back. -/
theorem store_load_exact_iff_tab :
    let s := ofRow [.text "a\tb", .text ""]
    ∃ s₁ s₂,
      run (store ⟨0⟩ "pair.facts"
        (default : FactOptions).delimiter) s = (.ok 1, s₁) ∧
      run (load ⟨1⟩ "pair.facts" default) s₁ = (.ok 1, s₂) ∧
      ∀ es, es ∈ s₂.values ⟨1⟩ ↔ es ∈ s.values ⟨0⟩ := by
  intro s
  have hValues :
      s.values ⟨0⟩ = [[.text "a\tb", .text ""]] := by
    rfl
  have hNew :
      s.relation ⟨1⟩ =
        .memory (s.relation ⟨0⟩).schema ⟨1⟩ := by
    rfl
  have hPath :
      s.files.creatable "pair.facts" = .ok ["pair.facts"] := by
    rfl
  have hNoNaNs :
      ∀ es ∈ s.values ⟨0⟩, ∀ e ∈ es, e.NotNaN := by
    rw [hValues]
    exact notNaN_of_texts ["a\tb", ""]
  rcases
      store_load_exact_iff (written_ofRow _) hNoNaNs
        (by decide) (by decide) hNew rfl hPath with
    ⟨s₁, s₂, loaded, hStore, hLoad, _, _, hExact⟩
  have hStay :
      ∀ es ∈ s.values ⟨0⟩, Line.vanishes es = false := by
    rw [hValues]
    decide
  have hSize : (s.relation ⟨0⟩).size = 1 := rfl
  rw [hSize] at hStore hExact
  rcases hExact.mpr hStay with ⟨hLoaded, hSame⟩
  rw [hLoaded] at hLoad
  exact ⟨s₁, s₂, hStore, hLoad, hSame⟩

/-
  A row of two empty texts is stored as a line that holds no
  more than the delimiter.  It counts as stored, but it does
  not come back.
-/
theorem store_load_loses_row :
    let s := ofRow [.text "", .text ""]
    (s.relation ⟨0⟩).Written (s.table ⟨0⟩) ∧
      s.values ⟨0⟩ = [[.text "", .text ""]] ∧
      s.relation ⟨1⟩ =
        .memory (s.relation ⟨0⟩).schema ⟨1⟩ ∧
      s.table ⟨1⟩ = .empty ∧
      ∃ s₁ s₂,
        run (store ⟨0⟩ "pair.facts"
          (default : FactOptions).delimiter) s = (.ok 1, s₁) ∧
        run (load ⟨1⟩ "pair.facts" default) s₁ = (.ok 0, s₂) ∧
        s₂.values ⟨1⟩ = [] := by
  intro s
  have hValues :
      s.values ⟨0⟩ = [[.text "", .text ""]] := by
    rfl
  have hNew :
      s.relation ⟨1⟩ =
        .memory (s.relation ⟨0⟩).schema ⟨1⟩ := by
    rfl
  have hPath :
      s.files.creatable "pair.facts" = .ok ["pair.facts"] := by
    rfl
  have hNoNaNs :
      ∀ es ∈ s.values ⟨0⟩, ∀ e ∈ es, e.NotNaN := by
    rw [hValues]
    exact notNaN_of_texts ["", ""]
  rcases
      exists_store_load
        (Relation.readable_of_written (written_ofRow _)) hNoNaNs
        (by decide) (by decide) hNew rfl hPath with
    ⟨s₁, s₂, hStore, hLoad, hSame⟩
  have hLost : Line.vanishes [.text "", .text ""] = true := by
    decide
  have hNone :
      (s.values ⟨0⟩).filter (!Line.vanishes ·) = [] := by
    rw [hValues]
    decide
  rw [hNone] at hLoad
  refine
    ⟨written_ofRow _, hValues, hNew, rfl, s₁, s₂, hStore, hLoad, ?_⟩
  rw [List.eq_nil_iff_forall_not_mem]
  intro es hMem
  rcases (hSame es).mp hMem with ⟨hOld, hStay⟩
  rw [hValues, List.mem_singleton] at hOld
  rw [hOld, hLost] at hStay
  cases hStay

end Action

end FactStore
