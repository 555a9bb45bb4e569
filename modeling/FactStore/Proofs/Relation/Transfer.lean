import Mathlib
import FactStore.Proofs.Store.Evolution

/-
  This file proves what a tuple of one relation means in
  another one that it is stored in.  The cells are stored as
  they are, so numbers keep their meaning; a symbol cell is
  an id of the table of the first relation, and is read by
  the table of the second one.

  Key definitions include:
    * `Relation.Appended`
    * `Tuple.readEach`

  Main statements include:
    * `Relation.Appended.spec`
    * `Tuple.getElem?_readEach`
    * `Action.insert_reads_back_iff`
    * `Action.insert_reads_back_otherText`
-/

namespace FactStore

------------------------------------------------------------
-- Filling a Tuple
------------------------------------------------------------

namespace Relation

/-
  A tuple of a relation after typed writes to its columns,
  one after the other, with the values written and the symbol
  table then.  In between the table may learn texts from
  elsewhere.
-/
inductive Appended
    (r : Relation) :
    SymbolTable → List Element → Tuple → Prop where
| blank (table : SymbolTable) : Appended r table [] r.blankTuple
| grow {table table' : SymbolTable} {es : List Element}
    {t : Tuple} :
    Appended r table es t →
      table.symbols <+: table'.symbols → Appended r table' es t
| append {table table' : SymbolTable} {es : List Element}
    {e : Element} {t t' : Tuple} :
    Appended r table es t →
      t.append table e = (.ok (), t', table') →
      Appended r table' (es ++ [e]) t'

/- A column of a tuple holds a value that may be written there. -/
def HoldsAt
    (r : Relation)
    (table : SymbolTable)
    (t : Tuple)
    (i : Nat)
    (e : Element) : Prop :=
  ∃ a c,
    r.schema.attributes[i]? = some a ∧
      e.kind.fits a.type = true ∧ t.cells[i]? = some c ∧
      Element.decode e.kind table c = .ok e

/- The written columns hold the values that were written. -/
theorem Appended.spec
    {r : Relation}
    {table : SymbolTable}
    {es : List Element}
    {t : Tuple}
    (h : r.Appended table es t) :
    t.BoundTo r ∧ t.position = es.length ∧
      ∀ i e, es[i]? = some e → r.HoldsAt table t i e := by
  induction h with
  | blank table =>
      exact
        ⟨⟨rfl, rfl, r.blankTuple_at.width⟩, rfl,
          fun i e hWritten => by simp at hWritten⟩
  | grow _ hPrefix ih =>
      rcases ih with ⟨hBound, hPosition, hHolds⟩
      refine ⟨hBound, hPosition, fun i e hWritten => ?_⟩
      rcases hHolds i e hWritten with
        ⟨a, c, hColumn, hFits, hCell, hDecode⟩
      exact
        ⟨a, c, hColumn, hFits, hCell,
          Element.decode_of_prefix hPrefix hDecode⟩
  | @append table table' es e t t' _ hAppend ih =>
      rcases ih with ⟨hBound, hPosition, hHolds⟩
      rcases Tuple.append_eq_ok_iff.mp hAppend with
        ⟨hExpect, c, hEncode, rfl⟩
      rcases Tuple.expect_eq_ok_iff.mp hExpect with
        ⟨hLt, a, hColumn, hFits⟩
      rw [hBound.schema] at hColumn
      refine ⟨⟨hBound.schema, hBound.table, ?_⟩, ?_, ?_⟩
      · simp only [Tuple.put, List.length_set, hBound.width]
      · simp [Tuple.put, hPosition]
      · intro i e' hWritten
        rcases Nat.lt_trichotomy i es.length with
          hOld | rfl | hBehind
        · rw [List.getElem?_append_left hOld] at hWritten
          rcases hHolds i e' hWritten with
            ⟨a', c', hColumn', hFits', hCell, hDecode⟩
          refine ⟨a', c', hColumn', hFits', ?_, ?_⟩
          · simp only [Tuple.put]
            rw [List.getElem?_set_ne (by omega)]
            exact hCell
          · exact Element.decode_of_prefix
              (Element.symbols_of_encode hEncode) hDecode
        · have hSame : e = e' := by simpa using hWritten
          subst hSame
          rw [hPosition] at hColumn hLt
          refine
            ⟨a, c, hColumn, hFits, ?_,
              Element.decode_kind_of_encode hEncode⟩
          simp only [Tuple.put, hPosition]
          exact List.getElem?_set_self hLt
        · have hNone : (es ++ [e])[i]? = none :=
            List.getElem?_eq_none (by
              rw [List.length_append, List.length_singleton]
              exact hBehind)
          rw [hNone] at hWritten
          cases hWritten

end Relation

------------------------------------------------------------
-- Reading a Tuple
------------------------------------------------------------

namespace Tuple

/- The answers of typed reads from the cursor on. -/
def readEach
    (t : Tuple)
    (table : SymbolTable) :
    List ElementKind → List (Except Violation Element)
| [] => []
| kind :: kinds =>
    let (answer, t') := t.read table kind
    answer :: t'.readEach table kinds

theorem length_readEach
    (table : SymbolTable)
    (kinds : List ElementKind)
    (t : Tuple) :
    (t.readEach table kinds).length = kinds.length := by
  induction kinds generalizing t with
  | nil => rfl
  | cons kind kinds ih =>
      rw [readEach, List.length_cons, List.length_cons, ih]

/- Columns of types that fit answer with what their cells stand for. -/
theorem getElem?_readEach
    (table : SymbolTable)
    {kinds : List ElementKind}
    {t : Tuple}
    (hFits :
      ∀ i kind, kinds[i]? = some kind →
        t.position + i < t.cells.length ∧
          ∃ a, t.schema.attributes[t.position + i]? = some a ∧
            kind.fits a.type = true)
    (i : Nat) :
    (t.readEach table kinds)[i]? =
      (kinds[i]?).map fun kind =>
        Element.decode kind table
          (t.cells.getD (t.position + i) 0) := by
  induction kinds generalizing t i with
  | nil => rfl
  | cons kind kinds ih =>
      have hRead :
          t.read table kind =
            (Element.decode kind table
              (t.cells.getD t.position 0), t.advance) := by
        rw [read, expect_eq_ok_iff.mpr (hFits 0 kind rfl)]
      rw [readEach, hRead]
      cases i with
      | zero => rfl
      | succ i =>
          have hRest :=
            @ih t.advance (fun j kind hKind => by
              have hNext := hFits (j + 1) kind hKind
              rwa [Nat.add_comm j 1, ← Nat.add_assoc] at hNext) i
          rw [List.getElem?_cons_succ, List.getElem?_cons_succ,
            hRest, Nat.add_comm i 1, ← Nat.add_assoc]
          rfl

end Tuple

------------------------------------------------------------
-- Storing in Another Relation
------------------------------------------------------------

/-
  A value that a cell stands for in one table is what it
  stands for in another one exactly when a text has the same
  id there.
-/
theorem Element.decode_eq_ok_iff_sameId
    {written reading : SymbolTable}
    {c : Cell}
    {e : Element}
    (h : decode e.kind written c = .ok e) :
    decode e.kind reading c = .ok e ↔
      ∀ x id, e = .text x → written.resolve? id = some x →
        reading.resolve? id = some x := by
  cases e with
  | text x =>
      have hResolve :
          ∀ {table : SymbolTable},
            decode (text x).kind table c = .ok (text x) ↔
              table.resolve? c = some x := by
        intro table
        simp only [kind, decode]
        cases table.resolve? c <;> simp
      rw [hResolve] at h ⊢
      constructor
      · rintro hSame _ id ⟨⟩ hId
        rwa [← SymbolTable.resolve?_inj h hId]
      · exact fun hSame => hSame x c rfl h
  | signed n => exact iff_of_true h fun _ _ hText => by cases hText
  | unsigned n =>
      exact iff_of_true h fun _ _ hText => by cases hText
  | float x => exact iff_of_true h fun _ _ hText => by cases hText

/- The cells of a filled tuple, read with some table. -/
theorem Relation.Appended.readEach_eq_ok_iff
    {r : Relation}
    {written reading : SymbolTable}
    {es : List Element}
    {t u : Tuple}
    (h : r.Appended written es t)
    (hSchema : u.schema = r.schema)
    (hCells : u.cells = t.cells)
    (hPosition : u.position = 0)
    {i : Nat}
    {e : Element}
    (hWritten : es[i]? = some e) :
    (u.readEach reading (es.map Element.kind))[i]? =
        some (.ok e) ↔
      ∀ x id, e = .text x → written.resolve? id = some x →
        reading.resolve? id = some x := by
  have hHolds := h.spec.2.2
  have hFits :
      ∀ j kind, (es.map Element.kind)[j]? = some kind →
        u.position + j < u.cells.length ∧
          ∃ a, u.schema.attributes[u.position + j]? = some a ∧
            kind.fits a.type = true := by
    intro j kind hKind
    rw [List.getElem?_map, Option.map_eq_some_iff] at hKind
    rcases hKind with ⟨e', hWritten', rfl⟩
    rcases hHolds j e' hWritten' with
      ⟨a, c, hColumn, hFits, hCell, _⟩
    rw [hSchema, hCells, hPosition, Nat.zero_add]
    exact
      ⟨(List.getElem?_eq_some_iff.mp hCell).1, a, hColumn, hFits⟩
  rcases hHolds i e hWritten with ⟨a, c, _, _, hCell, hDecode⟩
  have hAnswer :
      (u.readEach reading (es.map Element.kind))[i]? =
        some (Element.decode e.kind reading c) := by
    rw [Tuple.getElem?_readEach reading hFits, List.getElem?_map,
      hWritten, hCells, hPosition, Nat.zero_add,
      List.getD_eq_getElem?_getD, hCell]
    rfl
  rw [hAnswer, Option.some_inj]
  exact Element.decode_eq_ok_iff_sameId hDecode

/- A stored row as wide as the schema is a tuple at its place. -/
theorem Relation.exists_tupleAt_of_mem
    {r : Relation}
    {row : Row}
    (hRow : row ∈ r.rows)
    (hWidth : row.length = r.arity) :
    ∃ offset,
      r.tupleAt offset = .ok ⟨r.schema, r.table, row, 0⟩ := by
  rcases List.mem_iff_getElem?.mp hRow with ⟨offset, hOffset⟩
  refine ⟨offset, ?_⟩
  rw [tupleAt, hOffset]
  exact if_pos hWidth

namespace Action

/- A stored tuple is found among the rows, with its cells. -/
theorem exists_tupleAt_of_insert
    {s s' : Store}
    {id : RelationId}
    {t : Tuple}
    (hMemory : (s.relation id).IsMemory)
    (hUsed : id.index < s.relations.length)
    (hInsert : run (insert id t) s = (.ok (), s')) :
    (∃ offset,
      (s'.relation id).tupleAt offset =
        .ok ⟨(s.relation id).schema, (s.relation id).table,
          t.cells, 0⟩) ∧
      s'.tables = s.tables := by
  rcases hMemory with ⟨rows, hStorage⟩
  rw [run_insert] at hInsert
  cases hOutcome : (s.relation id).insert t with
  | error v =>
      rw [hOutcome] at hInsert
      cases hInsert
  | ok r' =>
      rw [hOutcome] at hInsert
      rcases (Relation.insert_eq_ok_iff hStorage).mp hOutcome with
        ⟨_, hWidth, hRelation⟩
      cases hInsert
      have hRow : t.cells ∈ r'.rows := by
        rw [hRelation]
        exact RowSet.mem_insert.mpr (Or.inl rfl)
      rw [Store.relation_setRelation r' hUsed]
      subst hRelation
      exact ⟨Relation.exists_tupleAt_of_mem hRow hWidth, rfl⟩

/-
  A tuple whose columns were filled by typed writes against
  one relation, and that is stored in another one of the same
  schema, becomes a row of the same cells.  Read through the
  second relation, each number is the one that was written.
  A text is the one that was written exactly when the table
  of the second relation gives it the id that the table of
  the first one gives it, as it does for every text when both
  relations have the same table.
-/
theorem insert_reads_back_iff
    {s s' : Store}
    {a b : RelationId}
    {t : Tuple}
    {es : List Element}
    (hFilled :
      (s.relation a).Appended
        (s.table (s.relation a).table) es t)
    (hAll : es.length = (s.relation a).arity)
    (hSchema : (s.relation a).schema = (s.relation b).schema)
    (hMemory : (s.relation b).IsMemory)
    (hUsed : b.index < s.relations.length)
    (hInsert : run (insert b t) s = (.ok (), s')) :
    let written := s'.table (s.relation a).table
    let reading := s'.table (s.relation b).table
    ∃ offset u,
      (s'.relation b).tupleAt offset = .ok u ∧
        u.cells = t.cells ∧
        let answers := u.readEach reading (es.map Element.kind)
        answers.length = (s.relation b).arity ∧
          (∀ (i : Nat) (e : Element),
            es[i]? = some e → e.kind ≠ .text →
              answers[i]? = some (.ok e)) ∧
          (∀ (i : Nat) (x : String),
            es[i]? = some (.text x) →
            (answers[i]? = some (.ok (.text x)) ↔
              ∀ id, written.resolve? id = some x →
                reading.resolve? id = some x)) ∧
          ((s.relation a).table = (s.relation b).table →
            answers = es.map .ok) := by
  intro written reading
  rcases exists_tupleAt_of_insert hMemory hUsed hInsert with
    ⟨⟨offset, hTuple⟩, hTables⟩
  let u : Tuple :=
    ⟨(s.relation b).schema, (s.relation b).table, t.cells, 0⟩
  have hCells : u.cells = t.cells := rfl
  have hWritten : written = s.table (s.relation a).table := by
    simp only [written, Store.table, hTables]
  have hReads :
      ∀ (i : Nat) (e : Element), es[i]? = some e →
        ((u.readEach reading (es.map Element.kind))[i]? =
            some (.ok e) ↔
          ∀ x id, e = .text x → written.resolve? id = some x →
            reading.resolve? id = some x) := by
    rw [hWritten]
    exact fun _ _ =>
      hFilled.readEach_eq_ok_iff hSchema.symm hCells rfl
  have hLength :
      (u.readEach reading (es.map Element.kind)).length =
        es.length := by
    rw [Tuple.length_readEach, List.length_map]
  refine ⟨offset, u, hTuple, hCells, ?_, ?_, ?_, ?_⟩
  · rw [hLength, hAll, Relation.arity, hSchema]
    rfl
  · intro i e hValue hKind
    refine (hReads i e hValue).mpr ?_
    rintro x id rfl
    exact absurd rfl hKind
  · intro i x hValue
    rw [hReads i (.text x) hValue]
    constructor
    · exact fun hSame id => hSame x id rfl
    · rintro hSame _ id ⟨⟩
      exact hSame id
  · intro hTable
    have hOne : written = reading := by
      simp only [written, reading, hTable]
    refine List.ext_getElem? fun i => ?_
    cases hValue : es[i]? with
    | none =>
        have hLe := List.getElem?_eq_none_iff.mp hValue
        rw [List.getElem?_eq_none (by rwa [hLength]),
          List.getElem?_map, hValue]
        rfl
    | some e =>
        rw [List.getElem?_map, hValue]
        refine (hReads i e hValue).mpr fun x id _ hId => ?_
        rwa [← hOne]

/-
  Two relations with one table: the text and the number that
  were written are read back from the second one.
-/
theorem insert_reads_back_oneTable :
    let schema : Schema :=
      ⟨"p", [⟨"who", .symbol, none⟩, ⟨"n", .signed, none⟩]⟩
    let r := Relation.memory schema ⟨0⟩
    let table := SymbolTable.holding ["bob", "alice"]
    let s : Store := ⟨[table], [r, r], .empty⟩
    let t : Tuple := ⟨schema, ⟨0⟩, [1, 7], 2⟩
    let s' := (run (insert ⟨1⟩ t) s).2
    ∃ offset u,
      (s'.relation ⟨1⟩).tupleAt offset = .ok u ∧
        u.readEach table [.text, .signed] =
          [.ok (.text "alice"), .ok (.signed 7)] := by
  intro schema r table s t s'
  have hFilled :
      r.Appended table [.text "alice", .signed 7] t :=
    .append (.append (.blank table) (by cbv)) (by cbv)
  have hInsert : run (insert ⟨1⟩ t) s = (.ok (), s') := by cbv
  rcases
      @insert_reads_back_iff s s' ⟨0⟩ ⟨1⟩ t
        [.text "alice", .signed 7] hFilled rfl rfl ⟨_, rfl⟩
        (by decide) hInsert with
    ⟨offset, u, hTuple, _, _, _, _, hShared⟩
  exact ⟨offset, u, hTuple, hShared rfl⟩

/-
  Two relations with tables of their own: the text "alice",
  written to a tuple of the first one, is read back from the
  second one as "bob".
-/
theorem insert_reads_back_otherText :
    let schema : Schema := ⟨"p", [⟨"who", .symbol, none⟩]⟩
    let a := Relation.memory schema ⟨0⟩
    let b := Relation.memory schema ⟨1⟩
    let alice := SymbolTable.holding ["alice"]
    let bob := SymbolTable.holding ["bob"]
    let s : Store := ⟨[alice, bob], [a, b], .empty⟩
    let t : Tuple := ⟨schema, ⟨0⟩, [0], 1⟩
    let u : Tuple := ⟨schema, ⟨1⟩, [0], 0⟩
    let (outcome, s') := run (insert ⟨1⟩ t) s
    a.Appended alice [.text "alice"] t ∧
      outcome = .ok () ∧ (s'.relation ⟨1⟩).rows = [[0]] ∧
      (s'.relation ⟨1⟩).tupleAt 0 = .ok u ∧
      u.readEach (s'.table ⟨1⟩) [.text] =
        [.ok (.text "bob")] := by
  intro schema a b alice bob s t u
  have hFilled : a.Appended alice [.text "alice"] t :=
    .append (.blank alice) (by cbv)
  exact ⟨hFilled, by cbv, by cbv, by cbv, by cbv⟩

end Action

end FactStore
