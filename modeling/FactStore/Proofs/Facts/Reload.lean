import FactStore.Proofs.Facts.LineRoundTrip
import FactStore.Proofs.Facts.RoundTrip
import FactStore.Proofs.RowSet

/-
  This file proves that a relation that is stored in a fact
  file and loads the file again stays as it is.  A line of the
  file is blank, or it is read as the cells it was written
  for, whose texts have their ids already.

  Key definitions include:
    * `FactFile.keeps`

  Main statements include:
    * `Relation.Stores.eq_of_held`
    * `FactFile.loadLines_of_values`
    * `Action.reload_changes_nothing`
-/

namespace FactStore

------------------------------------------------------------
-- Nothing New
------------------------------------------------------------

/- A relation that stores rows it has already stays the same. -/
theorem Relation.Stores.eq_of_held
    {r r' : Relation}
    {table table' : SymbolTable}
    {added : List (List Element)}
    (h : r.Stores table added r' table')
    (hMemory : r.IsMemory)
    (hTable : r'.table = r.table)
    (hHeld :
      ∀ es ∈ added, ∃ row ∈ r.rows,
        Row.Holds table' r.schema.attributes es row) :
    r' = r := by
  have hRows : ∀ row, row ∈ r'.rows ↔ row ∈ r.rows := by
    intro row
    rw [h.rows]
    refine or_iff_left_of_imp ?_
    rintro ⟨es, hMem, hHolds⟩
    rcases hHeld es hMem with ⟨old, hOld, hHolds'⟩
    rwa [hHolds.unique hHolds']
  rcases hMemory with ⟨rows, hStorage⟩
  rcases h.memory with ⟨rows', hStorage'⟩
  rw [rows_eq_of_storage hStorage, rows_eq_of_storage hStorage']
    at hRows
  have hSame : r'.storage = r.storage := by
    rw [hStorage, hStorage', RowSet.eq_of_mem_iff hRows]
  calc r' = ⟨r'.schema, r'.table, r'.storage⟩ := rfl
    _ = ⟨r.schema, r.table, r.storage⟩ := by
        rw [h.schema, hTable, hSame]
    _ = r := rfl

/- Setting a relation and its table to what they are does nothing. -/
theorem Store.setBoth_self
    (s : Store)
    (id : RelationId) :
    s.setBoth id (s.relation id)
        (s.table (s.relation id).table) = s := by
  rw [setBoth, setRelation_relation, setTable_table]

namespace FactFile

------------------------------------------------------------
-- Rows that are Read Again
------------------------------------------------------------

/- Whether the line that is written for a row is no blank one. -/
def keeps
    (r : Relation)
    (table : SymbolTable)
    (delimiter : Char)
    (row : Row) : Bool :=
  match rowLine r table delimiter row with
  | .ok line => !isBlank line.toList
  | .error _ => false

/- The rows whose lines are not blank are those that do not vanish. -/
theorem countP_keeps
    {r : Relation}
    {table : SymbolTable}
    (h : r.Readable table) :
    r.rows.countP (keeps r table '\t') =
      ((r.values table).filter (!Line.vanishes ·)).length := by
  rw [← List.countP_eq_length_filter, Relation.values,
    List.countP_filterMap]
  refine List.countP_congr fun row hRow => ?_
  rcases h.decodes row hRow with ⟨es, hDecode⟩
  have hLine :
      rowLine r table '\t' row =
        .ok (String.ofList (Line.text es)) := by
    rw [← Line.ofValues_tab]
    exact Line.rowLine_of_decode '\t' (h.uniform row hRow) hDecode
  have hKeeps : keeps r table '\t' row = !Line.vanishes es := by
    simp only [keeps, hLine, String.toList_ofList,
      Line.isBlank_text]
  rw [hKeeps, hDecode]
  rfl

/-
  A relation that reads the lines of its own rows counts those
  that do not vanish, and neither it nor its table changes.
-/
theorem loadLines_of_values
    (path : String)
    {r : Relation}
    {table : SymbolTable}
    (hReadable : r.Readable table)
    (hCanonical :
      ∀ es ∈ r.values table, ∀ e ∈ es, e.Canonical) :
    loadLines path default
        (((r.values table).map Line.text).map .ok) 1 0 r table =
      (.ok ((r.values table).filter (!Line.vanishes ·)).length,
        r, table) := by
  have hKinds :
      ∀ es ∈ r.values table,
        List.Forall₂ (fun a e => e.kind = Line.kindOf a.type)
          r.schema.attributes es :=
    fun _ hes => hReadable.kinds_of_mem_values hes
  have hKnown :
      ((r.values table).filter (!Line.vanishes ·)).flatMap
        Element.texts ⊆ table.symbols := by
    intro text hText
    rcases List.mem_flatMap.mp hText with ⟨es, hes, hMem⟩
    exact
      Relation.text_mem_of_mem_values (List.mem_of_mem_filter hes)
        (Element.mem_texts_iff.mp hMem)
  rcases
      loadLines_text path hReadable.memory hKinds hCanonical
        (SymbolTable.internEach?_of_subset hKnown) 1 0 with
    ⟨r', hLoad, hStores⟩
  have hEvolves :=
    (evolves_loadLines path default
      (((r.values table).map Line.text).map .ok) 1 0 r table).1
  rw [hLoad] at hEvolves
  have hSame : r' = r := by
    refine
      hStores.eq_of_held hReadable.memory hEvolves.table ?_
    intro es hes
    rcases Relation.mem_values_iff.mp (List.mem_of_mem_filter hes)
      with ⟨row, hRow, hDecode⟩
    exact ⟨row, hRow, hReadable.uniform row hRow, hDecode⟩
  rw [hLoad, hSame, Nat.zero_add]

end FactFile

namespace Action

------------------------------------------------------------
-- Storing and Loading Again
------------------------------------------------------------

/-
  Rows of issued ids, without NaNs but the one that is read,
  are stored in a file that the same relation then loads.  The
  load counts the rows whose lines are not blank, and leaves
  all relations and symbol tables as they were.
-/
theorem reload_changes_nothing
    {s : Store}
    {id : RelationId}
    {path : String}
    {place : FilePath}
    (hMemory : (s.relation id).IsMemory)
    (hUniform : (s.relation id).Uniform)
    (hIssued :
      ∀ row ∈ (s.relation id).rows,
        ∀ p ∈ (s.relation id).schema.attributes.zip row,
          p.1.type = .symbol →
            (s.table (s.relation id).table).Issued p.2)
    (hNaNs :
      ∀ row ∈ (s.relation id).rows,
        ∀ p ∈ (s.relation id).schema.attributes.zip row,
          p.1.type = .float →
            (Cell.toSingle p.2).isNaN = true →
              (Cell.toSingle p.2).bits = 0x7fc00000)
    (hPath : s.files.creatable path = .ok place) :
    let r := s.relation id
    let delimiter := (default : FactOptions).delimiter
    ∃ files,
      run (store id path delimiter) s =
        (.ok r.size, { s with files }) ∧
      run (load id path default) { s with files } =
        (.ok
          (r.rows.countP
            (FactFile.keeps r (s.table r.table) delimiter)),
          { s with files }) := by
  intro r delimiter
  have hReadable : r.Readable (s.table r.table) :=
    ⟨hMemory, hUniform, fun row hRow =>
      Row.exists_decode_of_issued (hIssued row hRow)⟩
  have hCanonical :
      ∀ es ∈ s.values id, ∀ e ∈ es, e.Canonical := by
    intro es hes
    rcases Relation.mem_values_iff.mp hes with
      ⟨row, hRow, hDecode⟩
    exact Row.float_of_decode (hNaNs row hRow) hDecode
  rcases run_store hReadable hPath with ⟨files, hStore, hRead⟩
  refine ⟨files, hStore, ?_⟩
  have hLoad := FactFile.loadLines_of_values path hReadable hCanonical
  rw [← FactFile.countP_keeps hReadable] at hLoad
  let s₁ : Store := { s with files }
  have hSame : s₁.setBoth id r (s.table r.table) = s₁ :=
    s₁.setBoth_self id
  have hRun := run_load (s := s₁) hRead hLoad
  rwa [hSame] at hRun

/-
  A text with a tab next to a NaN is read again.  The empty
  text alone leaves a blank line, which is not counted, but
  its row stays like the other one.
-/
theorem reload_changes_nothing_blank :
    let measured : Relation :=
      ⟨⟨"m", [⟨"who", .symbol, none⟩, ⟨"x", .float, none⟩]⟩, ⟨0⟩,
        .memory
          (RowSet.empty.insert [1, Cell.ofSingle ⟨0x7fc00000⟩])⟩
    let named : Relation :=
      ⟨⟨"n", [⟨"who", .symbol, none⟩]⟩, ⟨0⟩,
        .memory ((RowSet.empty.insert [0]).insert [1])⟩
    let s : Store :=
      ⟨[.holding ["", "a\tb"]], [measured, named], .empty⟩
    (∃ files,
      run (store ⟨0⟩ "m.facts" '\t') s = (.ok 1, { s with files }) ∧
        run (load ⟨0⟩ "m.facts" default) { s with files } =
          (.ok 1, { s with files })) ∧
      ∃ files,
        run (store ⟨1⟩ "n.facts" '\t') s =
            (.ok 2, { s with files }) ∧
          run (load ⟨1⟩ "n.facts" default) { s with files } =
            (.ok 1, { s with files }) := by
  intro measured named s
  have hMeasured :
      measured.rows.countP
        (FactFile.keeps measured (s.table ⟨0⟩) '\t') = 1 := by
    decide
  have hNamed :
      named.rows.countP
        (FactFile.keeps named (s.table ⟨0⟩) '\t') = 1 := by
    decide
  constructor
  · rcases
        @reload_changes_nothing s ⟨0⟩ "m.facts" ["m.facts"]
          ⟨_, rfl⟩ (by decide) (by decide) (by decide) rfl with
      ⟨files, hStore, hLoad⟩
    exact
      ⟨files, hStore, hLoad.trans (by rw [← hMeasured]; rfl)⟩
  · rcases
        @reload_changes_nothing s ⟨1⟩ "n.facts" ["n.facts"]
          ⟨_, rfl⟩ (by decide) (by decide) (by decide) rfl with
      ⟨files, hStore, hLoad⟩
    exact
      ⟨files, hStore, hLoad.trans (by rw [← hNamed]; rfl)⟩

end Action

end FactStore
