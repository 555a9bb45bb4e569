import FactStore.Proofs.RowSet
import FactStore.Proofs.Store.Evolution
import Mathlib.Data.Finset.Card
import Mathlib.Data.List.DropRight

/-
  This file proves what a set of rows holds after any calls
  that change it: the rows that were given to it since it
  was last purged, each of them once.

  Key definitions include:
    * `Relation.Change`
    * `Relation.afterAll`
    * `Relation.given`

  Main statements include:
    * `Relation.after_memory`
    * `Relation.afterAll_memory`
    * `Relation.afterAll_refines_set`
-/

namespace FactStore

namespace Relation

------------------------------------------------------------
-- Changes
------------------------------------------------------------

/- The calls by which a host changes the rows of a relation. -/
inductive Change where
| insertRow (row : Row)
| insert (t : Tuple)
| extendRows (rows : List Row)
| purge
deriving DecidableEq, Repr

/- What a change makes of a relation that does not refuse it. -/
def change (r : Relation) : Change → Except Violation Relation
| .insertRow row => (r.insertRow row).map (·.2)
| .insert t => r.insert t
| .extendRows rows => .ok (r.extendRows rows).2
| .purge => .ok r.purge

/- The relation after a change; a refused one changes nothing. -/
def after
    (r : Relation)
    (c : Change) : Relation :=
  match r.change c with
  | .ok r' => r'
  | .error _ => r

/- The relation after changes, one after the other. -/
def afterAll
    (r : Relation)
    (changes : List Change) : Relation :=
  changes.foldl after r

/- The changes since the last purge. -/
def sincePurge (changes : List Change) : List Change :=
  changes.rtakeWhile (· ≠ .purge)

/-
  The rows that a change gives to a set of rows.  A row of
  another width is refused, and so is a tuple of another
  width or of a relation with another signature.
-/
def Change.given (schema : Schema) : Change → List Row
| .insertRow row => if row.length = schema.arity then [row] else []
| .insert t =>
    if t.schema.signature = schema.signature ∧
        t.cells.length = schema.arity then [t.cells]
    else []
| .extendRows rows => rows
| .purge => []

/- The rows that were given since the last purge. -/
def given
    (schema : Schema)
    (changes : List Change) : List Row :=
  (sincePurge changes).flatMap (Change.given schema)

------------------------------------------------------------
-- One Change
------------------------------------------------------------

/- A set of rows takes the rows that are as wide as its schema. -/
theorem insertRow_memory
    (schema : Schema)
    (table : TableId)
    (rows : RowSet)
    (row : Row) :
    insertRow ⟨schema, table, .memory rows⟩ row =
      if row.length = schema.arity then
        .ok
          (!rows.contains row,
            ⟨schema, table, .memory (rows.insert row)⟩)
      else
        .error (.rowWidth schema.name row.length schema.arity) :=
  rfl

/- A row that is taken is there afterwards. -/
theorem after_insertRow
    {schema : Schema}
    {row : Row}
    (hWidth : row.length = schema.arity)
    (table : TableId)
    (rows : RowSet) :
    after ⟨schema, table, .memory rows⟩ (.insertRow row) =
      ⟨schema, table, .memory (rows.insert row)⟩ := by
  rw [after, change, insertRow_memory, if_pos hWidth]
  rfl

/-
  A set of rows takes a row or a tuple, or refuses it, and
  holds afterwards what it held before, unless it was purged,
  and what it was given.
-/
theorem after_memory
    (schema : Schema)
    (table : TableId)
    (rows : RowSet)
    (c : Change) :
    ∃ rows' : RowSet,
      after ⟨schema, table, .memory rows⟩ c =
        ⟨schema, table, .memory rows'⟩ ∧
      ∀ row, row ∈ rows' ↔
        (c ≠ .purge ∧ row ∈ rows) ∨ row ∈ c.given schema := by
  let r : Relation := ⟨schema, table, .memory rows⟩
  cases c with
  | insertRow row =>
      by_cases hWidth : row.length = schema.arity
      · refine ⟨rows.insert row, ?_, ?_⟩
        · exact after_insertRow hWidth table rows
        · simp [Change.given, hWidth, or_comm]
      · refine ⟨rows, ?_, ?_⟩
        · rw [after, change, insertRow_memory, if_neg hWidth]
          rfl
        · simp [Change.given, hWidth]
  | insert t =>
      by_cases hTaken :
          t.schema.signature = schema.signature ∧
            t.cells.length = schema.arity
      · have hInsert : r.insert t = .ok _ :=
          (insert_eq_ok_iff rfl).mpr ⟨hTaken.1, hTaken.2, rfl⟩
        refine ⟨rows.insert t.cells, ?_, ?_⟩
        · rw [after, change, hInsert]
        · simp [Change.given, hTaken, or_comm]
      · have hInsert : ∃ v, r.insert t = .error v := by
          cases hOutcome : r.insert t with
          | error v => exact ⟨v, rfl⟩
          | ok r' =>
              rcases (insert_eq_ok_iff rfl).mp hOutcome with
                ⟨hSignature, hWidth, _⟩
              exact absurd ⟨hSignature, hWidth⟩ hTaken
        rcases hInsert with ⟨v, hInsert⟩
        refine ⟨rows, ?_, ?_⟩
        · rw [after, change, hInsert]
        · simp [Change.given, hTaken]
  | extendRows added =>
      exact ⟨rows.extend added, rfl, by simp [Change.given]⟩
  | purge => exact ⟨.empty, rfl, by simp [Change.given]⟩

/- What a set of rows keeps through any change by its host. -/
theorem IsMemory.after
    {r : Relation}
    (h : r.IsMemory)
    (c : Change) :
    (r.after c).schema = r.schema ∧
      (r.after c).table = r.table ∧ (r.after c).IsMemory := by
  rcases r with ⟨schema, table, storage⟩
  rcases h with ⟨rows, rfl⟩
  rcases after_memory schema table rows c with
    ⟨rows', hAfter, _⟩
  rw [hAfter]
  exact ⟨rfl, rfl, _, rfl⟩

------------------------------------------------------------
-- All Changes
------------------------------------------------------------

/- A purge forgets what was given before it. -/
theorem given_concat
    (schema : Schema)
    (changes : List Change)
    (c : Change) :
    given schema (changes ++ [c]) =
      if c = .purge then []
      else given schema changes ++ c.given schema := by
  rw [given, sincePurge, List.rtakeWhile_concat]
  by_cases hPurge : c = .purge
  · simp [hPurge]
  · simp [hPurge, given, sincePurge]

/-
  After any changes to an empty set of rows it holds exactly
  the rows given since the last purge.
-/
theorem afterAll_memory
    (schema : Schema)
    (table : TableId)
    (changes : List Change) :
    ∃ rows : RowSet,
      (memory schema table).afterAll changes =
        ⟨schema, table, .memory rows⟩ ∧
      ∀ row, row ∈ rows ↔ row ∈ given schema changes := by
  induction changes using List.reverseRecOn with
  | nil => exact ⟨.empty, rfl, by simp [given, sincePurge]⟩
  | append_singleton changes c ih =>
      rcases ih with ⟨rows, hBefore, hRows⟩
      rcases after_memory schema table rows c with
        ⟨rows', hAfter, hRows'⟩
      refine ⟨rows', ?_, fun row => ?_⟩
      · rw [afterAll] at hBefore ⊢
        rw [List.foldl_append, hBefore]
        exact hAfter
      · rw [hRows', hRows, given_concat]
        by_cases hPurge : c = .purge <;>
          simp [hPurge, Change.given]

------------------------------------------------------------
-- Sets of Rows
------------------------------------------------------------

/-
  Whatever was done to an empty set of rows, its rows stand
  in strictly ascending order and are exactly the rows given
  since the last purge.  Their number is that of the distinct
  rows given, a row is new when it is not among them, and it
  is found when it is; a search of the rows answers alike,
  and a new row goes where the search says that it belongs.
-/
theorem afterAll_refines_set
    (schema : Schema)
    (table : TableId)
    (changes : List Change) :
    let r := (memory schema table).afterAll changes
    let rows := given schema changes
    r.rows.Pairwise (· < ·) ∧
      (∀ row, row ∈ r.rows ↔ row ∈ rows) ∧
      r.size = rows.toFinset.card ∧
      (∀ row, r.insertRow row =
        if row.length = schema.arity then
          .ok (decide (row ∉ rows), r.after (.insertRow row))
        else
          .error
            (.rowWidth schema.name row.length schema.arity)) ∧
      (∀ row, r.containsRow row = decide (row ∈ rows)) ∧
      (∀ t : Tuple, r.contains t = decide (t.cells ∈ rows)) ∧
      ∀ row answer, Row.Finds r.rows row answer →
        r.containsRow row = answer.isOk ∧
          (row.length = schema.arity →
            (r.after (.insertRow row)).rows =
              Row.putAt answer row r.rows) := by
  intro r rows
  rcases afterAll_memory schema table changes with
    ⟨held, hAfter, hMem⟩
  have hr : r = ⟨schema, table, .memory held⟩ := hAfter
  have hContains :
      ∀ row, held.contains row = decide (row ∈ rows) := by
    intro row
    rw [Bool.eq_iff_iff, RowSet.contains_iff, hMem,
      decide_eq_true_iff]
  rw [hr]
  refine ⟨held.ascending, hMem, ?_, ?_, hContains,
    fun t => hContains t.cells, ?_⟩
  · have hSame : rows.toFinset = held.rows.toFinset := by
      ext row
      rw [List.mem_toFinset, List.mem_toFinset]
      exact (hMem row).symm
    rw [hSame, List.toFinset_card_of_nodup held.ascending.nodup]
    rfl
  · intro row
    rw [insertRow_memory, hContains, ← decide_not]
    split
    · rename_i hWidth
      rw [after_insertRow hWidth]
    · rfl
  · intro row answer hFinds
    refine ⟨RowSet.contains_of_finds hFinds, fun hWidth => ?_⟩
    rw [after_insertRow hWidth]
    exact RowSet.rows_insert_of_finds hFinds

end Relation

end FactStore
