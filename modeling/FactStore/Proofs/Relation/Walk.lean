import Mathlib
import FactStore.Cursor
import FactStore.Proofs.Outcome
import FactStore.Proofs.Relation.History

/-
  This file proves what a walk over a relation yields: the
  tuples of its rows, up to the first row that is not as wide
  as the schema.  Such a row is only ever stored by a call
  that stores many rows at once.

  Key definitions include:
    * `Walk.whole`
    * `Relation.extended`

  Main statements include:
    * `Walk.rest_whole`
    * `Relation.uniform_afterAll_iff`
    * `Relation.walk_eq_ok_iff_extended_wide`
    * `Relation.walk_fails_after_extendRows`
-/

namespace FactStore

------------------------------------------------------------
-- Stored Rows as Tuples
------------------------------------------------------------

namespace Tuple

/- Rows as wide as the schema are tuples at their first column. -/
theorem mapM_ofStored_of_wide
    {schema : Schema}
    (table : TableId)
    {rows : List Row}
    (hWide : ∀ row ∈ rows, row.length = schema.arity) :
    rows.mapM (ofStored schema table) =
      .ok (rows.map fun row => ⟨schema, table, row, 0⟩) := by
  rw [mapM_eq_ok_iff, List.forall₂_map_right_iff,
    List.forall₂_same]
  exact fun row hRow => if_pos (hWide row hRow)

/- The first row of another width is found out. -/
theorem mapM_ofStored_of_not_wide
    {schema : Schema}
    (table : TableId)
    {rows : List Row}
    (hOther : ∃ row ∈ rows, row.length ≠ schema.arity) :
    ∃ found, found ≠ schema.arity ∧
      rows.mapM (ofStored schema table) =
        .error (.storedRowWidth found schema.arity) := by
  induction rows with
  | nil =>
      rcases hOther with ⟨row, hRow, _⟩
      cases hRow
  | cons row rows ih =>
      by_cases hWidth : row.length = schema.arity
      · have hRest : ∃ r ∈ rows, r.length ≠ schema.arity := by
          rcases hOther with ⟨r, hr, hNe⟩
          rcases List.mem_cons.mp hr with rfl | hr
          · exact absurd hWidth hNe
          · exact ⟨r, hr, hNe⟩
        rcases ih hRest with ⟨found, hFound, hTail⟩
        have hHead :
            ofStored schema table row =
              .ok ⟨schema, table, row, 0⟩ := if_pos hWidth
        refine ⟨found, hFound, ?_⟩
        rw [List.mapM_cons, hHead, hTail]
        rfl
      · have hHead :
            ofStored schema table row =
              .error (.storedRowWidth row.length schema.arity) :=
          if_neg hWidth
        refine ⟨row.length, hWidth, ?_⟩
        rw [List.mapM_cons, hHead]
        rfl

end Tuple

------------------------------------------------------------
-- Walks
------------------------------------------------------------

namespace Walk

variable {relation : RelationId → Relation}
variable {id : RelationId}

/- The walk over the rows that a relation has now. -/
def whole
    (relation : RelationId → Relation)
    (id : RelationId) : Walk :=
  ⟨.row id 0, .row id (relation id).size⟩

/- A walk that has come to where it stops is at its end. -/
theorem next_at_stop
    (stop : Cursor) :
    next relation ⟨stop, stop⟩ = (.ok none, ⟨stop, stop⟩) := by
  rw [next, if_pos rfl]

/- Before that the row at its place is read, and it moves on. -/
theorem next_of_lt
    {offset stop : Nat}
    (hLt : offset < stop)
    (hRow : offset < (relation id).rows.length) :
    next relation ⟨.row id offset, .row id stop⟩ =
      match
        Tuple.ofStored (relation id).schema
          (relation id).table (relation id).rows[offset] with
      | .error v =>
          (.error v, ⟨.row id offset, .row id stop⟩)
      | .ok t =>
          (.ok (some t),
            ⟨.row id (offset + 1), .row id stop⟩) := by
  have hNe : Cursor.row id offset ≠ Cursor.row id stop := by
    intro hEq
    exact Nat.ne_of_lt hLt (Cursor.row.inj hEq).2
  have hGet :
      (Cursor.row id offset).get relation =
        Tuple.ofStored (relation id).schema
          (relation id).table (relation id).rows[offset] := by
    rw [Cursor.get, Relation.tupleAt,
      List.getElem?_eq_getElem hRow]
  rw [next, if_neg hNe, hGet]
  cases Tuple.ofStored (relation id).schema
    (relation id).table (relation id).rows[offset] <;> rfl

/-
  A walk takes the tuples of the rows from its place on, if
  it may take one step more than there are.
-/
theorem take_from
    (n : Nat) :
    ∀ {offset : Nat},
      offset ≤ (relation id).size →
      (relation id).size - offset < n →
        (take relation n
          ⟨.row id offset, .row id (relation id).size⟩).1 =
          ((relation id).rows.drop offset).mapM
            (Tuple.ofStored (relation id).schema
              (relation id).table) := by
  induction n with
  | zero => exact fun _ hFew => absurd hFew (Nat.not_lt_zero _)
  | succ n ih =>
      intro offset hLe hFew
      rw [take]
      rcases Nat.lt_or_eq_of_le hLe with hLt | rfl
      · rw [next_of_lt hLt hLt, List.drop_eq_getElem_cons hLt,
          List.mapM_cons]
        cases hStored :
            Tuple.ofStored (relation id).schema
              (relation id).table (relation id).rows[offset] with
        | error v => rfl
        | ok t =>
            have hRest :
                (take relation n
                  ⟨.row id (offset + 1),
                    .row id (relation id).size⟩).1 = _ :=
              ih hLt (by omega)
            simp only [hRest]
            cases ((relation id).rows.drop (offset + 1)).mapM
              (Tuple.ofStored (relation id).schema
                (relation id).table) <;> rfl
      · rw [next_at_stop, Relation.size, List.drop_length]
        rfl

/- A walk over a relation yields the tuples of its rows. -/
theorem rest_whole :
    ((whole relation id).rest relation).1 =
      (relation id).rows.mapM
        (Tuple.ofStored (relation id).schema
          (relation id).table) :=
  take_from _ (Nat.zero_le _) (Nat.lt_succ_self _)

/- Rows that are all as wide as the schema are all yielded. -/
theorem rest_of_uniform
    (h : (relation id).Uniform) :
    ((whole relation id).rest relation).1 =
      .ok ((relation id).rows.map fun row =>
        ⟨(relation id).schema, (relation id).table, row, 0⟩) := by
  rw [rest_whole]
  exact Tuple.mapM_ofStored_of_wide (relation id).table h

/- A row of another width is where a walk fails. -/
theorem rest_of_not_uniform
    (h : ¬ (relation id).Uniform) :
    ∃ found, found ≠ (relation id).arity ∧
      ((whole relation id).rest relation).1 =
        .error (.storedRowWidth found (relation id).arity) := by
  have hOther :
      ∃ row ∈ (relation id).rows,
        row.length ≠ (relation id).schema.arity := by
    simpa [Relation.Uniform, Relation.arity] using h
  rw [rest_whole]
  exact Tuple.mapM_ofStored_of_not_wide (relation id).table hOther

end Walk

------------------------------------------------------------
-- Widths
------------------------------------------------------------

namespace Relation

/- The rows that a change stores without looking at their widths. -/
def Change.extension : Change → List Row
| .extendRows rows => rows
| _ => []

/- The rows stored in that way since the last purge. -/
def extended (changes : List Change) : List Row :=
  (sincePurge changes).flatMap Change.extension

/- All other rows that are taken are as wide as the schema. -/
theorem Change.forall_given_iff_forall_extension
    (schema : Schema)
    (c : Change) :
    (∀ row ∈ c.given schema, row.length = schema.arity) ↔
      ∀ row ∈ c.extension, row.length = schema.arity := by
  cases c with
  | insertRow row =>
      by_cases hWidth : row.length = schema.arity <;>
        simp [Change.given, Change.extension, hWidth]
  | insert t =>
      by_cases hTaken :
          t.schema.signature = schema.signature ∧
            t.cells.length = schema.arity <;>
        simp [Change.given, Change.extension, hTaken]
  | extendRows rows => rfl
  | purge => rfl

/- Only such rows may be of another width than the schema. -/
theorem forall_given_iff_forall_extended
    (schema : Schema)
    (changes : List Change) :
    (∀ row ∈ given schema changes, row.length = schema.arity) ↔
      ∀ row ∈ extended changes, row.length = schema.arity := by
  simp only [given, extended, List.forall_mem_flatMap,
    Change.forall_given_iff_forall_extension]

/- A set of rows refuses one row of another width, told its name. -/
theorem change_insertRow_of_width_ne
    {schema : Schema}
    {row : Row}
    (hWidth : row.length ≠ schema.arity)
    (table : TableId)
    (rows : RowSet) :
    change ⟨schema, table, .memory rows⟩ (.insertRow row) =
      .error
        (.rowWidth schema.name row.length schema.arity) := by
  rw [change, insertRow_memory, if_neg hWidth]
  rfl

/- It refuses a tuple of another width, for one reason or another. -/
theorem change_insert_of_width_ne
    {schema : Schema}
    {t : Tuple}
    (hWidth : t.cells.length ≠ schema.arity)
    (table : TableId)
    (rows : RowSet) :
    ∃ v,
      change ⟨schema, table, .memory rows⟩ (.insert t) =
        .error v := by
  let r : Relation := ⟨schema, table, .memory rows⟩
  cases hInsert : r.insert t with
  | error v => exact ⟨v, hInsert⟩
  | ok r' =>
      rcases (insert_eq_ok_iff rfl).mp hInsert with
        ⟨_, hEq, _⟩
      exact absurd hEq hWidth

/-
  The stored rows are all as wide as the schema exactly when
  the rows stored without a look at their widths are.
-/
theorem uniform_afterAll_iff
    (schema : Schema)
    (table : TableId)
    (changes : List Change) :
    ((memory schema table).afterAll changes).Uniform ↔
      ∀ row ∈ extended changes, row.length = schema.arity := by
  rcases afterAll_memory schema table changes with
    ⟨rows, hAfter, hMem⟩
  have hUniform :
      Uniform ⟨schema, table, .memory rows⟩ ↔
        ∀ row ∈ given schema changes,
          row.length = schema.arity :=
    forall_congr' fun row => imp_congr_left (hMem row)
  rw [hAfter, hUniform, forall_given_iff_forall_extended]

------------------------------------------------------------
-- Walks After Changes
------------------------------------------------------------

variable {relation : RelationId → Relation}
variable {id : RelationId}

/-
  Whatever was done to an empty set of rows, a single row or
  a tuple of another width than the schema is refused.  Rows
  that are stored many at once are taken as they come: if one
  of those stored since the last purge is of another width,
  then so is a stored row, and a walk fails at the first of
  them.  If none is, then every stored row is as wide as the
  schema, and a walk yields the tuples of all of them.
-/
theorem walk_eq_ok_iff_extended_wide
    {schema : Schema}
    {table : TableId}
    {changes : List Change}
    (hAt :
      relation id = (memory schema table).afterAll changes) :
    let walked := ((Walk.whole relation id).rest relation).1
    let wide :=
      ∀ row ∈ extended changes, row.length = schema.arity
    (∀ row : Row, row.length ≠ schema.arity →
      (relation id).change (.insertRow row) =
        .error
          (.rowWidth schema.name row.length schema.arity)) ∧
      (∀ t : Tuple, t.cells.length ≠ schema.arity →
        ∃ v, (relation id).change (.insert t) = .error v) ∧
      ((relation id).Uniform ↔ wide) ∧
      (walked =
          .ok
            ((relation id).rows.map fun row =>
              ⟨schema, table, row, 0⟩) ↔ wide) ∧
      ((∃ found, found ≠ schema.arity ∧
          walked =
            .error (.storedRowWidth found schema.arity)) ↔
        ¬ wide) := by
  intro walked wide
  rcases afterAll_memory schema table changes with
    ⟨rows, hAfter, _⟩
  have hRelation :
      relation id = ⟨schema, table, .memory rows⟩ :=
    hAt.trans hAfter
  have hUniform : (relation id).Uniform ↔ wide := by
    rw [hAt]
    exact uniform_afterAll_iff schema table changes
  have hWide :
      wide →
        walked =
          .ok ((relation id).rows.map fun row =>
            ⟨schema, table, row, 0⟩) := by
    intro h
    have hYields := Walk.rest_of_uniform (hUniform.mpr h)
    simpa only [hRelation] using hYields
  have hNotWide :
      ¬ wide →
        ∃ found, found ≠ schema.arity ∧
          walked =
            .error (.storedRowWidth found schema.arity) := by
    intro h
    have hFails := Walk.rest_of_not_uniform (mt hUniform.mp h)
    simpa only [Relation.arity, hRelation] using hFails
  refine
    ⟨fun row hWidth => ?_, fun t hWidth => ?_, hUniform,
      ⟨fun hYields => ?_, hWide⟩, ⟨?_, hNotWide⟩⟩
  · rw [hRelation]
    exact change_insertRow_of_width_ne hWidth table rows
  · rw [hRelation]
    exact change_insert_of_width_ne hWidth table rows
  · by_contra hNot
    rcases hNotWide hNot with ⟨found, _, hFails⟩
    rw [hFails] at hYields
    cases hYields
  · rintro ⟨found, _, hFails⟩ h
    rw [hWide h] at hFails
    cases hFails

/-
  A pair of numbers that is stored on its own and a row of
  one number that is stored with others: the walk fails.
-/
theorem walk_fails_after_mixedWidths :
    let schema : Schema :=
      ⟨"p", [⟨"x", .signed, none⟩, ⟨"y", .signed, none⟩]⟩
    let changes : List Change :=
      [.insertRow [1, 2], .extendRows [[3], [4, 5]]]
    let r := (memory schema ⟨0⟩).afterAll changes
    ∃ found, found ≠ 2 ∧
      ((Walk.whole (fun _ => r) ⟨0⟩).rest fun _ => r).1 =
        .error (.storedRowWidth found 2) := by
  intro schema changes r
  have hLaw :=
    @walk_eq_ok_iff_extended_wide (fun _ => r) ⟨0⟩
      schema ⟨0⟩ changes rfl
  refine hLaw.2.2.2.2.mpr fun hWide => ?_
  exact absurd (hWide [3] (by decide)) (by decide)

/-
  The row of one number that is stored in a relation of pairs
  with the call for many rows is kept, and the walk fails.
-/
theorem walk_fails_after_extendRows :
    let schema : Schema :=
      ⟨"p", [⟨"x", .signed, none⟩, ⟨"y", .signed, none⟩]⟩
    let r := (memory schema ⟨0⟩).afterAll [.extendRows [[1]]]
    r.rows = [[1]] ∧ ¬ r.Uniform ∧
      ((Walk.whole (fun _ => r) ⟨0⟩).rest fun _ => r).1 =
        .error (.storedRowWidth 1 2) := by
  intro schema r
  have hRows : r.rows = [[1]] := by cbv
  refine ⟨hRows, fun hUniform => ?_, by cbv⟩
  have hMem : [1] ∈ r.rows := by
    rw [hRows]
    exact List.mem_singleton.mpr rfl
  exact absurd (hUniform [1] hMem) (by decide)

end Relation

end FactStore
