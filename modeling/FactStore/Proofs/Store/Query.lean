import FactStore.Program
import FactStore.Proofs.Store.RowCalls

/-
  This file proves what asking for a row leaves behind.  No
  stored row changes, but the texts of the row that are not
  yet known are learned by the table of the relation, so a
  query changes nothing only when it asks for known texts, or
  when the table is full.

  Key definitions include:
    * `SymbolTable.learned`

  Main statements include:
    * `SymbolTable.learned_eq_nil_iff`
    * `Tuple.symbols_of_appendAll`
    * `Action.containsRow_keeps_iff`
    * `Action.containsRow_learns_stranger`
-/

namespace FactStore

------------------------------------------------------------
-- Learned Texts
------------------------------------------------------------

namespace SymbolTable

/-
  The texts of a list that a table learns from it: those it
  does not know, each once, as many as a cell can number.
-/
def learned
    (t : SymbolTable)
    (texts : List String) : List String :=
  (t.unknown texts).take (capacity - t.size)

/- A known text teaches nothing. -/
theorem learned_cons_of_mem
    {t : SymbolTable}
    {x : String}
    (hKnown : x ∈ t.symbols)
    (texts : List String) :
    t.learned (x :: texts) = t.learned texts := by
  rw [learned, unknown_cons_of_mem hKnown, learned]

/- A new text that finds room is learned before the others. -/
theorem learned_cons_of_new
    {t t' : SymbolTable}
    {x : String}
    (hNew : x ∉ t.symbols)
    (hGrown : t'.symbols = t.symbols ++ [x])
    (texts : List String) :
    t.learned (x :: texts) = x :: t'.learned texts := by
  have hSize : t'.size = t.size + 1 := by
    change t'.symbols.length = t.symbols.length + 1
    rw [hGrown, List.length_append, List.length_singleton]
  have hRoom : capacity - t.size = capacity - t'.size + 1 := by
    have hBound : t'.size ≤ capacity := t'.bounded
    omega
  rw [learned, unknown_cons_of_new hNew hGrown, hRoom,
    List.take_succ_cons, learned]

/- A full table learns nothing. -/
theorem learned_of_full
    {t : SymbolTable}
    (hFull : t.size = capacity)
    (texts : List String) : t.learned texts = [] := by
  rw [learned, hFull, Nat.sub_self, List.take_zero]

/- Nothing is learned from known texts, or by a full table. -/
theorem learned_eq_nil_iff
    (t : SymbolTable)
    (texts : List String) :
    t.learned texts = [] ↔
      (∀ x ∈ texts, x ∈ t.symbols) ∨ t.size = capacity := by
  have hBound : t.size ≤ capacity := t.bounded
  have hUnknown :
      t.unknown texts = [] ↔ ∀ x ∈ texts, x ∈ t.symbols := by
    simp [unknown, List.eq_nil_iff_forall_not_mem]
  rw [learned, List.take_eq_nil_iff, hUnknown, Nat.sub_eq_zero_iff_le,
    or_comm, Nat.le_antisymm_iff]
  exact or_congr_right (iff_and_self.mpr fun _ => hBound)

end SymbolTable

------------------------------------------------------------
-- Learning by Writing
------------------------------------------------------------

/-
  Encoding a value either fails in a full table, which it
  leaves as it is, or leaves all that the other texts teach
  to be learned later.
-/
theorem Element.encode_learns
    (e : Element)
    (table : SymbolTable) :
    match e.encode table with
    | (.error _, table') =>
        table' = table ∧ table.size = SymbolTable.capacity
    | (.ok _, table') =>
        ∀ texts,
          table.symbols ++ table.learned (Element.texts [e] ++ texts) =
            table'.symbols ++ table'.learned texts := by
  cases e with
  | text x =>
      simp only [encode]
      by_cases hKnown : x ∈ table.symbols
      · rw [SymbolTable.lookup_of_mem hKnown]
        intro texts
        exact congrArg (table.symbols ++ ·)
          (SymbolTable.learned_cons_of_mem hKnown texts)
      · by_cases hRoom : table.size < SymbolTable.capacity
        · rcases SymbolTable.lookup_of_new hKnown hRoom with
            ⟨table', hLookup, hGrown⟩
          rw [hLookup]
          intro texts
          rw [hGrown, List.append_assoc]
          exact congrArg (table.symbols ++ ·)
            (SymbolTable.learned_cons_of_new hKnown hGrown texts)
        · have hFull : table.size = SymbolTable.capacity :=
            Nat.le_antisymm table.bounded (Nat.le_of_not_lt hRoom)
          rw [SymbolTable.lookup_of_full hKnown hFull]
          exact ⟨rfl, hFull⟩
  | signed n => exact fun _ => rfl
  | unsigned n => exact fun _ => rfl
  | float x => exact fun _ => rfl

namespace Tuple

/-
  Writing values that fit their columns teaches the table
  their unknown texts, also when the last of these find no id
  and the writing fails.
-/
theorem symbols_of_appendAll :
    ∀ {es : List Element} {t : Tuple} {table : SymbolTable}
      {done rest : List Attribute},
      t.At done rest →
      List.Forall₂
        (fun a e => e.kind.fits a.type = true) rest es →
        (t.appendAll table es).2.symbols =
          table.symbols ++ table.learned (Element.texts es)
| [], t, table, done, rest, _, _ => by
    have hNone : table.learned [] = [] :=
      (table.learned_eq_nil_iff []).mpr (Or.inl (by simp))
    simp [appendAll, Element.texts, hNone]
| e :: es, t, table, done, a :: rest, hAt, .cons hFits hRest => by
    have hExpect : t.expect e.kind = .ok () :=
      hAt.expect_eq_ok_iff.mpr hFits
    have hLearns := e.encode_learns table
    rw [Element.texts_cons]
    rcases hEncode : e.encode table with ⟨v | c, table'⟩ <;>
      rw [hEncode] at hLearns
    · rcases hLearns with ⟨rfl, hFull⟩
      rw [appendAll, append_of_expect hExpect, hEncode,
        SymbolTable.learned_of_full hFull, List.append_nil]
    · rw [appendAll, append_of_expect hExpect, hEncode, hLearns]
      exact symbols_of_appendAll (hAt.put c) hRest

end Tuple

------------------------------------------------------------
-- Asking
------------------------------------------------------------

namespace Program

/-
  Asking a program is asking the relation of the name; where
  there is none, nothing is asked.
-/
theorem run_containsRow
    (p : Program)
    (name : String)
    (row : List Element)
    (s : Store) :
    Action.run (p.containsRow name row) s =
      match p.catalog.find? name with
      | some id => Action.run (Action.containsRow id row) s
      | none => (.error (.error (.relationNotFound name)), s) := by
  rw [containsRow, Action.run_bind, named]
  cases p.catalog.find? name <;> rfl

end Program

namespace Action

/- Asking for a row sets nothing but the table of the relation. -/
theorem store_run_containsRow
    (id : RelationId)
    (row : List Element)
    (s : Store) :
    let r := s.relation id
    (run (containsRow id row) s).2 =
      s.setTable r.table (r.encodeRow (s.table r.table) row).2 := by
  intro r
  rw [run_containsRow]
  split <;> rename_i hEncode <;> rw [hEncode]

/- Encoding a row that fits teaches the table its texts. -/
theorem symbols_of_encodeRow
    {r : Relation}
    {row : List Element}
    (hFits :
      List.Forall₂ (fun a e => e.kind.fits a.type = true)
        r.schema.attributes row)
    (table : SymbolTable) :
    (r.encodeRow table row).2.symbols =
      table.symbols ++ table.learned (Element.texts row) := by
  have hAll :=
    @Tuple.symbols_of_appendAll row r.blankTuple table _ _
      r.blankTuple_at hFits
  have hLength : row.length = r.arity := hFits.length_eq.symm
  rw [Relation.encodeRow, if_pos hLength, ← hAll]
  split <;> rename_i hEq <;> rw [hEq]

/-
  A row that fits the columns of a relation is asked for,
  whether of the relation or through a program by the name
  of the relation.  The stored rows stay as they are, and so
  do all symbol tables but that of the relation.  That one
  learns the unknown texts of the row, so all stays as it is
  exactly when there are none of these or the table is full.
-/
theorem containsRow_keeps_iff
    {s : Store}
    {id : RelationId}
    {row : List Element}
    (hTable : (s.relation id).table.index < s.tables.length)
    (hFits :
      List.Forall₂ (fun a e => e.kind.fits a.type = true)
        (s.relation id).schema.attributes row) :
    let r := s.relation id
    let table := s.table r.table
    let asked := (run (containsRow id row) s).2
    (asked = s ↔
        (∀ x ∈ Element.texts row, x ∈ table.symbols) ∨
          table.size = SymbolTable.capacity) ∧
      asked.relations = s.relations ∧
      (∀ other, other ≠ r.table →
        asked.table other = s.table other) ∧
      (asked.table r.table).symbols =
        table.symbols ++ table.learned (Element.texts row) ∧
      ∀ (p : Program) (name : String),
        p.catalog.find? name = some id →
          run (p.containsRow name row) s =
            run (containsRow id row) s := by
  intro r table asked
  have hAsked :
      asked = s.setTable r.table (r.encodeRow table row).2 :=
    store_run_containsRow id row s
  have hSymbols := symbols_of_encodeRow hFits table
  have hLearned :
      (asked.table r.table).symbols =
        table.symbols ++ table.learned (Element.texts row) := by
    rw [hAsked, Store.table_setTable _ hTable, hSymbols]
  refine
    ⟨?_, relations_containsRow id row s, fun other hOther => ?_,
      hLearned, fun p name hName => ?_⟩
  · rw [← SymbolTable.learned_eq_nil_iff]
    constructor
    · intro hSame
      rw [hSame] at hLearned
      exact List.append_right_eq_self.mp hLearned.symm
    · intro hNone
      rw [hNone, List.append_nil] at hSymbols
      rw [hAsked, SymbolTable.eq_of_symbols_eq hSymbols,
        Store.setTable_table]
  · rw [hAsked, Store.table_setTable_of_ne _ hOther]
  · rw [Program.run_containsRow, hName]

/-
  A row of a new text, a number and a known text teaches the
  table the new one.
-/
theorem containsRow_keeps_iff_newAndKnown :
    let schema : Schema :=
      ⟨"m",
        [⟨"x", .symbol, none⟩, ⟨"n", .signed, none⟩,
          ⟨"y", .symbol, none⟩]⟩
    let s : Store :=
      ⟨[.holding ["ann"]], [.memory schema ⟨0⟩], .empty⟩
    let row : List Element :=
      [.text "bob", .signed 7, .text "ann"]
    let asked := (run (containsRow ⟨0⟩ row) s).2
    (asked.table ⟨0⟩).symbols = ["ann", "bob"] ∧ asked ≠ s := by
  intro schema s row asked
  have hFits :
      List.Forall₂ (fun a e => e.kind.fits a.type = true)
        (s.relation ⟨0⟩).schema.attributes row :=
    .cons rfl (.cons rfl (.cons rfl .nil))
  rcases @containsRow_keeps_iff s ⟨0⟩ row (by decide) hFits with
    ⟨hKeeps, _, _, hLearned, _⟩
  refine ⟨hLearned.trans (by decide), fun hSame => ?_⟩
  rcases hKeeps.mp hSame with hKnown | hFull
  · exact absurd (hKnown "bob" (by decide)) (by decide)
  · exact absurd hFull (by decide)

/-
  Asking an empty relation for a text that nobody mentioned
  before makes its table know the text.
-/
theorem containsRow_learns_stranger :
    let schema : Schema := ⟨"known", [⟨"name", .symbol, none⟩]⟩
    let s : Store := ⟨[.empty], [.memory schema ⟨0⟩], .empty⟩
    let (found, asked) :=
      run (containsRow ⟨0⟩ [.text "ghost"]) s
    found = .ok false ∧ (s.table ⟨0⟩).symbols = [] ∧
      (asked.table ⟨0⟩).symbols = ["ghost"] := by
  refine ⟨?_, ?_, ?_⟩ <;> rfl

end Action

end FactStore
