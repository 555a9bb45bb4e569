import FactStore.Proofs.Relation.Contents
import FactStore.Proofs.Store.Growth
import FactStore.Proofs.SymbolTable.Lookups

/-
  This file proves that a relation keeps rows of values as a
  set of values.  A row is found exactly when a row of the
  same values was inserted since the last purge, whatever ids
  its texts have been given, and whether or not it was asked
  for before any of them was known.

  Key definitions include:
    * `Element.Same`
    * `Store.RowCall`
    * `Store.Ledger`
    * `Store.Ledger.Kept`

  Main statements include:
    * `Element.onColumn_eq_iff_same`
    * `Relation.Readable.contains_iff`
    * `Store.Ledger.Kept.call`
    * `Store.containsRow_iff_inserted`
-/

namespace FactStore

------------------------------------------------------------
-- Equal Values
------------------------------------------------------------

namespace Element

/-
  Two values are the same when they are equal texts, or
  numbers with equal bits.
-/
inductive Same : Element → Element → Prop where
| text (x : String) : Same (.text x) (.text x)
| number {e e' : Element} :
    e.kind ≠ .text → e'.kind ≠ .text → e.bits = e'.bits →
      Same e e'

/- What is read from a column has the bits that were written. -/
theorem bits_onColumn
    (type : AttrType)
    (e : Element) : (e.onColumn type).bits = e.bits := by
  cases e <;> cases type <;> rfl

/- A column tells numbers apart by their bits alone. -/
theorem onColumn_of_number
    (type : AttrType)
    {e : Element}
    (hNumber : e.kind ≠ .text) :
    e.onColumn type = (signed e.bits).onColumn type := by
  cases e with
  | text x => exact absurd rfl hNumber
  | signed n => rfl
  | unsigned n => cases type <;> rfl
  | float x => cases type <;> rfl

/- A column keeps texts and numbers apart. -/
theorem kind_onColumn_eq_text_iff
    (type : AttrType)
    (e : Element) :
    (e.onColumn type).kind = .text ↔ e.kind = .text := by
  cases e <;> cases type <;> simp [onColumn, kind]

/- A column reads two values alike when they are the same. -/
theorem onColumn_eq_iff_same
    (type : AttrType)
    {e e' : Element} :
    e.onColumn type = e'.onColumn type ↔ e.Same e' := by
  constructor
  · intro hEq
    have hKind : e.kind = .text ↔ e'.kind = .text := by
      rw [← kind_onColumn_eq_text_iff type e, hEq,
        kind_onColumn_eq_text_iff]
    by_cases hText : e.kind = .text
    · have hText' := hKind.mp hText
      cases e with
      | text x =>
          cases e' with
          | text y =>
              have hxy : text x = text y := hEq
              rw [hxy]
              exact .text y
          | _ => cases hText'
      | _ => cases hText
    · refine .number hText (mt hKind.mpr hText) ?_
      rw [← bits_onColumn type e, hEq, bits_onColumn]
  · intro hSame
    cases hSame with
    | text x => rfl
    | number hNumber hNumber' hBits =>
        rw [onColumn_of_number type hNumber, hBits,
          ← onColumn_of_number type hNumber']

/- Columns read two rows alike when their values are the same. -/
theorem zipWith_onColumn_eq_iff
    {attributes : List Attribute}
    {es es' : List Element}
    (hLength : es.length = attributes.length)
    (hLength' : es'.length = attributes.length) :
    List.zipWith (fun a e => e.onColumn a.type) attributes es =
        List.zipWith (fun a e => e.onColumn a.type)
          attributes es' ↔
      List.Forall₂ Same es es' := by
  induction attributes generalizing es es' with
  | nil =>
      rw [List.length_eq_zero_iff.mp hLength,
        List.length_eq_zero_iff.mp hLength']
      simp
  | cons a attributes ih =>
      rcases List.exists_of_length_succ es hLength with
        ⟨e, es, rfl⟩
      rcases List.exists_of_length_succ es' hLength' with
        ⟨e', es', rfl⟩
      rw [List.zipWith_cons_cons, List.zipWith_cons_cons,
        List.cons.injEq, List.forall₂_cons,
        onColumn_eq_iff_same,
        ih (by simpa using hLength) (by simpa using hLength')]

end Element

------------------------------------------------------------
-- Encoded Rows
------------------------------------------------------------

namespace Relation

/- A row of another width is refused, and nothing is interned. -/
theorem encodeRow_of_width_ne
    {r : Relation}
    {row : List Element}
    (hWidth : row.length ≠ r.arity)
    (table : SymbolTable) :
    r.encodeRow table row =
      (.error
        (.error (.arityMismatch r.name r.arity row.length)),
        table) := by
  unfold encodeRow
  rw [if_neg hWidth]

/-
  A row that fits its columns is encoded exactly when a cell
  can number its texts with those known before.
-/
theorem encodeRow_of_fits
    {r : Relation}
    {row : List Element}
    (hFits :
      List.Forall₂ (fun a e => e.kind.fits a.type = true)
        r.schema.attributes row)
    (table : SymbolTable) :
    let texts := table.symbols ++ Element.texts row
    (texts.toFinset.card ≤ SymbolTable.capacity →
        ∃ t table', r.encodeRow table row = (.ok t, table')) ∧
      (SymbolTable.capacity < texts.toFinset.card →
        ∃ table',
          r.encodeRow table row =
            (.error (.violation .symbolsExhausted), table')) := by
  have hLength : row.length = r.arity := hFits.length_eq.symm
  have hRoom :=
    table.internEach?_isSome_iff (Element.texts row)
  have hAll :=
    @Tuple.appendAll_of_fits row r.blankTuple table _ _
      r.blankTuple_at hFits
  simp only [encodeRow, if_pos hLength]
  cases hTexts : table.internEach? (Element.texts row) with
  | none =>
      rw [hTexts] at hAll hRoom
      rcases hAll with ⟨table', hAll⟩
      rw [hAll]
      refine ⟨fun hFew => ?_, fun _ => ⟨table', rfl⟩⟩
      cases hRoom.mpr hFew
  | some table' =>
      rw [hTexts] at hAll hRoom
      rcases hAll with ⟨t, hAll⟩
      rw [hAll]
      refine ⟨fun _ => ⟨t, table', rfl⟩, fun hMany => ?_⟩
      exact absurd (hRoom.mp rfl) (Nat.not_le.mpr hMany)

/- A tuple is found when its values are held. -/
theorem Readable.contains_iff
    {r : Relation}
    {table : SymbolTable}
    (h : r.Readable table)
    {t : Tuple}
    {es : List Element}
    (hBound : t.BoundTo r)
    (hDecode :
      Row.decode table r.schema.attributes t.cells = .ok es) :
    r.contains t = true ↔ es ∈ r.values table := by
  rw [contains, containsRow, List.contains_iff_mem,
    mem_values_iff]
  constructor
  · exact fun hRow => ⟨t.cells, hRow, hDecode⟩
  · rintro ⟨row, hRow, hRead⟩
    have hSame : row = t.cells :=
      Row.decode_inj (h.uniform row hRow) hBound.width
        hRead hDecode
    rwa [← hSame]

end Relation

namespace Action

/- Asking for a row changes no stored row. -/
theorem relations_containsRow
    (id : RelationId)
    (row : List Element)
    (s : Store) :
    (run (containsRow id row) s).2.relations = s.relations := by
  rw [run_containsRow]
  split <;> rfl

end Action

------------------------------------------------------------
-- Calls
------------------------------------------------------------

namespace Store

/- The calls by which a host works with rows of values. -/
inductive RowCall where
| insertRow (row : List Element)
| containsRow (row : List Element)
| purge

/-
  A store, and the rows whose insertion into one relation has
  succeeded since that relation was last purged.
-/
structure Ledger where
  store : Store
  inserted : List (List Element)

namespace Ledger

/- An inserted row is noted when its insertion has succeeded. -/
def note
    (inserted : List (List Element))
    (row : List Element) : Except Failure Unit × Store → Ledger
| (.ok _, s) => ⟨s, inserted ++ [row]⟩
| (.error _, s) => ⟨s, inserted⟩

/- The ledger after a call, whether or not it succeeds. -/
def call
    (id : RelationId)
    (l : Ledger) : RowCall → Ledger
| .insertRow row =>
    note l.inserted row
      (Action.run (Action.insertRow id row) l.store)
| .containsRow row =>
    ⟨(Action.run (Action.containsRow id row) l.store).2,
      l.inserted⟩
| .purge => ⟨(Action.run (Action.purge id) l.store).2, []⟩

/- The ledger after calls, one after the other. -/
def callAll
    (id : RelationId)
    (l : Ledger)
    (calls : List RowCall) : Ledger :=
  calls.foldl (call id) l

/-
  The relation of a ledger has given columns and a given
  table and can be read, and it holds the values of the
  inserted rows and no others.
-/
structure Kept
    (id : RelationId)
    (schema : Schema)
    (table : TableId)
    (l : Ledger) : Prop where
  used : id.index < l.store.relations.length
  usedTable : table.index < l.store.tables.length
  columns : (l.store.relation id).schema = schema
  bound : (l.store.relation id).table = table
  readable :
    (l.store.relation id).Readable (l.store.table table)
  width : ∀ row ∈ l.inserted, row.length = schema.arity
  values :
    ∀ es,
      es ∈ (l.store.relation id).values (l.store.table table) ↔
        ∃ row ∈ l.inserted,
          Relation.columnValues schema row = es

variable {s : Store}
variable {inserted : List (List Element)}
variable {id : RelationId}
variable {schema : Schema}
variable {table : TableId}

/- What is held stays while the table learns texts. -/
theorem Kept.setTable
    (h : Kept id schema table ⟨s, inserted⟩)
    {table' : SymbolTable}
    (hPrefix : (s.table table).symbols <+: table'.symbols) :
    Kept id schema table ⟨s.setTable table table', inserted⟩ := by
  have hTable : (s.setTable table table').table table = table' :=
    table_setTable table' h.usedTable
  rcases h.readable.grow hPrefix with ⟨hGrown, hSame⟩
  refine
    ⟨h.used, ?_, h.columns, h.bound, ?_, h.width, fun es => ?_⟩
  · simpa [Store.setTable] using h.usedTable
  · rw [hTable]
    exact hGrown
  · rw [hTable]
    exact (hSame es).trans (h.values es)

/- A relation that holds one row more is set. -/
theorem Kept.setRelation
    (h : Kept id schema table ⟨s, inserted⟩)
    {r : Relation}
    {row : List Element}
    (hBound : r.table = table)
    (hLength : row.length = schema.arity)
    (hAdds :
      (s.relation id).Adds (s.table table)
        [Relation.columnValues schema row] r (s.table table)) :
    Kept id schema table
      ⟨s.setRelation id r, inserted ++ [row]⟩ := by
  have hRelation : (s.setRelation id r).relation id = r :=
    relation_setRelation r h.used
  refine ⟨?_, h.usedTable, ?_, ?_, ?_, ?_, fun es => ?_⟩
  · simpa [Store.setRelation] using h.used
  · rw [hRelation]
    exact hAdds.schema.trans h.columns
  · rw [hRelation]
    exact hBound
  · rw [hRelation]
    exact hAdds.readable
  · intro given hGiven
    rcases List.mem_append.mp hGiven with hOld | hNew
    · exact h.width given hOld
    · rw [List.mem_singleton.mp hNew]
      exact hLength
  · rw [hRelation, table_setRelation, hAdds.values, h.values]
    simp [or_and_right, exists_or, eq_comm]

/- A row that is asked for changes nothing that is held. -/
theorem Kept.containsRow
    (h : Kept id schema table ⟨s, inserted⟩)
    (row : List Element) :
    Kept id schema table
      ⟨(Action.run (Action.containsRow id row) s).2,
        inserted⟩ := by
  have hPrefix :=
    (s.relation id).prefix_of_encodeRow (s.table table) row
  rw [Action.run_containsRow, h.bound]
  split <;> rename_i hEncode <;> rw [hEncode] at hPrefix
  · exact h.setTable hPrefix
  · exact h.setTable hPrefix

/-
  A row that is inserted is held from then on; one that is
  refused changes nothing that is held.
-/
theorem Kept.insertRow
    (h : Kept id schema table ⟨s, inserted⟩)
    (row : List Element) :
    Kept id schema table
      (note inserted row
        (Action.run (Action.insertRow id row) s)) := by
  have hPrefix :=
    (s.relation id).prefix_of_encodeRow (s.table table) row
  rw [Action.run_insertRow, h.bound]
  split <;> rename_i table' hEncode <;> rw [hEncode] at hPrefix
  · rename_i t
    have hGrown := h.setTable hPrefix
    rcases Relation.spec_of_encodeRow hEncode with
      ⟨hLength, hBound, hDecode⟩
    rw [← table_setTable table' h.usedTable] at hDecode
    rcases
        hGrown.readable.adds_insert (List.prefix_refl _)
          hBound hDecode with
      ⟨r', hInsert, hAdds⟩
    have hTable := (Relation.evolves_insert hInsert).table
    rw [Action.run_insert, hInsert]
    refine hGrown.setRelation (hTable.trans h.bound) ?_ ?_
    · rw [hLength, Relation.arity, h.columns]
    · rwa [h.columns] at hAdds
  · exact h.setTable hPrefix

/- A purged relation holds nothing. -/
theorem Kept.purge
    (h : Kept id schema table ⟨s, inserted⟩) :
    Kept id schema table
      ⟨(Action.run (Action.purge id) s).2, []⟩ := by
  let r := (s.relation id).purge
  have hRelation : (s.setRelation id r).relation id = r :=
    relation_setRelation r h.used
  have hEvolves := (s.relation id).evolves_purge
  rw [Action.run_purge]
  refine ⟨?_, h.usedTable, ?_, ?_, ?_, by simp, fun es => ?_⟩
  · simpa [Store.setRelation] using h.used
  · rw [hRelation]
    exact hEvolves.schema.trans h.columns
  · rw [hRelation]
    exact hEvolves.table.trans h.bound
  · rw [hRelation]
    exact Relation.readable_of_rows_eq_nil _
      (hEvolves.memory h.readable.memory)
      (s.relation id).rows_purge
  · rw [hRelation, Relation.mem_values_iff]
    simp [r, Relation.rows_purge]

/- Each call leaves what was inserted and no others. -/
theorem Kept.call
    {l : Ledger}
    (h : Kept id schema table l)
    (c : RowCall) : Kept id schema table (call id l c) := by
  cases c with
  | insertRow row => exact h.insertRow row
  | containsRow row => exact h.containsRow row
  | purge => exact h.purge

/- So do any calls. -/
theorem Kept.callAll
    {l : Ledger}
    (h : Kept id schema table l)
    (calls : List RowCall) :
    Kept id schema table (callAll id l calls) := by
  induction calls generalizing l with
  | nil => exact h
  | cons c calls ih => exact ih (h.call c)

/- A new relation holds nothing, whatever its table knows. -/
theorem kept_addRelation
    (s₀ : Store)
    (known : SymbolTable)
    (schema : Schema) :
    let s₁ := (s₀.addTable known).2
    let table := (s₀.addTable known).1
    let made := s₁.addRelation (.memory schema table)
    Kept made.1 schema table ⟨made.2, []⟩ := by
  intro s₁ table made
  have hRelation :
      made.2.relation made.1 = .memory schema table := by
    simp [made, Store.addRelation, Store.relation]
  refine ⟨?_, ?_, ?_, ?_, ?_, by simp, fun es => ?_⟩
  · simp [made, Store.addRelation]
  · simp [made, s₁, table, Store.addRelation, Store.addTable]
  · rw [hRelation]
    rfl
  · rw [hRelation]
    rfl
  · rw [hRelation]
    exact Relation.readable_of_rows_eq_nil _ ⟨_, rfl⟩ rfl
  · rw [hRelation, Relation.mem_values_iff]
    simp [Relation.memory, Relation.rows, Storage.rows,
      RowSet.empty]

/- A row that fits is inserted unless a text finds no id. -/
theorem Kept.insertRow_of_fits
    (h : Kept id schema table ⟨s, inserted⟩)
    {row : List Element}
    (hFits :
      List.Forall₂ (fun a e => e.kind.fits a.type = true)
        schema.attributes row) :
    let outcome := (Action.run (Action.insertRow id row) s).1
    let texts := (s.table table).symbols ++ Element.texts row
    (texts.toFinset.card ≤ SymbolTable.capacity →
        outcome = .ok ()) ∧
      (SymbolTable.capacity < texts.toFinset.card →
        outcome = .error (.violation .symbolsExhausted)) := by
  rw [← h.columns] at hFits
  have hPrefix :=
    (s.relation id).prefix_of_encodeRow (s.table table) row
  rcases Relation.encodeRow_of_fits hFits (s.table table) with
    ⟨hRoom, hNoRoom⟩
  rw [Action.run_insertRow, h.bound]
  refine ⟨fun hFew => ?_, fun hMany => ?_⟩
  · rcases hRoom hFew with ⟨t, table', hEncode⟩
    rw [hEncode] at hPrefix
    rcases Relation.spec_of_encodeRow hEncode with
      ⟨_, hBound, hDecode⟩
    rcases h.readable.adds_insert hPrefix hBound hDecode with
      ⟨r', hInsert, _⟩
    simp only [hEncode, Action.run_insert, relation_setTable,
      hInsert]
  · rcases hNoRoom hMany with ⟨table', hEncode⟩
    simp only [hEncode]

/-
  A row that fits is found when a row of the same values was
  inserted, unless a text finds no id.
-/
theorem Kept.containsRow_of_fits
    (h : Kept id schema table ⟨s, inserted⟩)
    {row : List Element}
    (hFits :
      List.Forall₂ (fun a e => e.kind.fits a.type = true)
        schema.attributes row) :
    let outcome := (Action.run (Action.containsRow id row) s).1
    let texts := (s.table table).symbols ++ Element.texts row
    (texts.toFinset.card ≤ SymbolTable.capacity →
        ∃ found, outcome = .ok found ∧
          (found = true ↔
            ∃ given ∈ inserted,
              List.Forall₂ Element.Same given row)) ∧
      (SymbolTable.capacity < texts.toFinset.card →
        outcome = .error (.violation .symbolsExhausted)) := by
  have hLength : row.length = schema.arity :=
    hFits.length_eq.symm
  rw [← h.columns] at hFits
  have hPrefix :=
    (s.relation id).prefix_of_encodeRow (s.table table) row
  rcases Relation.encodeRow_of_fits hFits (s.table table) with
    ⟨hRoom, hNoRoom⟩
  rw [Action.run_containsRow, h.bound]
  refine ⟨fun hFew => ?_, fun hMany => ?_⟩
  · rcases hRoom hFew with ⟨t, table', hEncode⟩
    rw [hEncode] at hPrefix
    rcases Relation.spec_of_encodeRow hEncode with
      ⟨_, hBound, hDecode⟩
    rcases h.readable.grow hPrefix with ⟨hGrown, hSame⟩
    rw [hEncode]
    refine ⟨_, rfl, ?_⟩
    rw [hGrown.contains_iff hBound hDecode, hSame, h.values,
      h.columns]
    exact exists_congr fun given => and_congr_right fun hGiven =>
      Element.zipWith_onColumn_eq_iff (h.width given hGiven)
        hLength
  · rcases hNoRoom hMany with ⟨table', hEncode⟩
    rw [hEncode]

/- A row of another width is refused, and nothing changes. -/
theorem Kept.refuses_of_width_ne
    (h : Kept id schema table ⟨s, inserted⟩)
    {row : List Element}
    (hWidth : row.length ≠ schema.arity) :
    let e : AccessError :=
      .arityMismatch schema.name schema.arity row.length
    Action.run (Action.containsRow id row) s =
        (.error (.error e), s) ∧
      Action.run (Action.insertRow id row) s =
        (.error (.error e), s) := by
  have hOther : row.length ≠ (s.relation id).arity := by
    rwa [Relation.arity, h.columns]
  have hEncode :=
    Relation.encodeRow_of_width_ne hOther (s.table table)
  rw [Relation.name, Relation.arity, h.columns] at hEncode
  rw [Action.run_containsRow, Action.run_insertRow, h.bound,
    hEncode]
  simp only [setTable_table, and_self]

end Ledger

/-
  Whatever rows were inserted into a new relation and asked
  for, and however often it was purged: a row that fits the
  columns is found exactly when a row of the same values was
  inserted since the last purge, whichever texts its table
  knew before and in whatever order it learned the others.
  Such a row is inserted as well.  Both fail when a cell
  cannot number the texts.  No stored row changes when a row
  is asked for, and a row of another width is refused before
  anything changes.
-/
theorem containsRow_iff_inserted
    (s₀ : Store)
    (known : SymbolTable)
    (schema : Schema)
    (calls : List RowCall) :
    let s₁ := (s₀.addTable known).2
    let table := (s₀.addTable known).1
    let made := s₁.addRelation (.memory schema table)
    let id := made.1
    let l := Ledger.callAll id ⟨made.2, []⟩ calls
    let s := l.store
    let asks := fun row => Action.run (Action.containsRow id row) s
    let inserts := fun row => Action.run (Action.insertRow id row) s
    (∀ row,
      List.Forall₂ (fun a e => e.kind.fits a.type = true)
        schema.attributes row →
      let texts := (s.table table).symbols ++ Element.texts row
      let ids := texts.toFinset.card
      (ids ≤ SymbolTable.capacity →
        (∃ found, (asks row).1 = .ok found ∧
          (found = true ↔
            ∃ given ∈ l.inserted,
              List.Forall₂ Element.Same given row)) ∧
        (inserts row).1 = .ok ()) ∧
      (SymbolTable.capacity < ids →
        (asks row).1 = .error (.violation .symbolsExhausted) ∧
        (inserts row).1 =
          .error (.violation .symbolsExhausted))) ∧
      (∀ row, (asks row).2.relations = s.relations) ∧
      ∀ row : List Element, row.length ≠ schema.arity →
        let e : AccessError :=
          .arityMismatch schema.name schema.arity row.length
        asks row = (.error (.error e), s) ∧
          inserts row = (.error (.error e), s) := by
  intro s₁ table made id l s asks inserts
  have hKept : Ledger.Kept id schema table l :=
    (Ledger.kept_addRelation s₀ known schema).callAll calls
  refine
    ⟨fun row hFits => ?_,
      fun row => Action.relations_containsRow id row s,
      fun row hWidth => hKept.refuses_of_width_ne hWidth⟩
  have hAsks := hKept.containsRow_of_fits hFits
  have hInserts := hKept.insertRow_of_fits hFits
  exact
    ⟨fun hFew => ⟨hAsks.1 hFew, hInserts.1 hFew⟩,
      fun hMany => ⟨hAsks.2 hMany, hInserts.2 hMany⟩⟩

end Store

end FactStore
