import FactStore.Proofs.Relation.History

/-
  This file proves that many rows that are stored at once are
  stored as they would be one after the other, in any order,
  and that as many of them are new.

  Key definitions include:
    * `Relation.insertEach`

  Main statements include:
    * `Relation.insertEach_memory`
    * `Relation.extendRows_eq_insertEach`
-/

namespace FactStore

namespace Relation

------------------------------------------------------------
-- Rows One after the Other
------------------------------------------------------------

/-
  Store rows one after the other, up to the first that is
  refused; the answer counts the new ones.
-/
def insertEach
    (r : Relation) :
    List Row → Except Violation (Nat × Relation)
| [] => .ok (0, r)
| row :: rows => do
    let (isNew, r') ← r.insertRow row
    let (count, r'') ← insertEach r' rows
    return ((if isNew then 1 else 0) + count, r'')

/- A row that is taken is counted if it is new. -/
theorem insertEach_cons
    {schema : Schema}
    {row : Row}
    (hWidth : row.length = schema.arity)
    (table : TableId)
    (held : RowSet)
    (rows : List Row) :
    insertEach ⟨schema, table, .memory held⟩ (row :: rows) =
      (insertEach ⟨schema, table, .memory (held.insert row)⟩
        rows).map fun found =>
          ((if held.contains row then 0 else 1) + found.1,
            found.2) := by
  rw [insertEach, insertRow_memory, if_pos hWidth]
  simp only [bind, Except.bind]
  cases
      insertEach ⟨schema, table, .memory (held.insert row)⟩
        rows with
  | error v => rfl
  | ok found => cases held.contains row <;> rfl

/- Rows of the right width are taken, and the new ones counted. -/
theorem insertEach_memory
    {schema : Schema}
    (table : TableId)
    {added : List Row}
    (hWide : ∀ row ∈ added, row.length = schema.arity)
    (held : RowSet) :
    insertEach ⟨schema, table, .memory held⟩ added =
      .ok
        ((held.extend added).size - held.size,
          ⟨schema, table, .memory (held.extend added)⟩) := by
  induction added generalizing held with
  | nil => rw [insertEach, RowSet.extend_nil, Nat.sub_self]
  | cons row rows ih =>
      have hRest :=
        ih (fun r hr => hWide r (List.mem_cons_of_mem _ hr))
          (held.insert row)
      have hCount :
          (if held.contains row then 0 else 1) +
              (((held.insert row).extend rows).size -
                (held.insert row).size) =
            ((held.insert row).extend rows).size - held.size := by
        have hInsert := held.size_insert row
        have hGrows := (held.insert row).size_le_size_extend rows
        omega
      rw [insertEach_cons (hWide row List.mem_cons_self), hRest,
        RowSet.extend_cons]
      simp only [Except.map, hCount]

------------------------------------------------------------
-- Rows at Once
------------------------------------------------------------

/-
  Whatever was done to an empty set of rows, rows of its width
  that are stored at once leave the same rows, and as many of
  them are new, as when they are stored one after the other.
  Their order does not matter.  The set never shrinks, so the
  count is the number of rows by which it grows.
-/
theorem extendRows_eq_insertEach
    (schema : Schema)
    (table : TableId)
    (changes : List Change)
    {added : List Row}
    (hWide : ∀ row ∈ added, row.length = schema.arity) :
    let r := (memory schema table).afterAll changes
    let extended := r.extendRows added
    r.insertEach added = .ok extended ∧
      (∀ added' : List Row, added'.Perm added →
        r.extendRows added' = extended) ∧
      r.size ≤ extended.2.size ∧
      r.size + extended.1 = extended.2.size := by
  intro r extended
  rcases afterAll_memory schema table changes with
    ⟨held, hAfter, _⟩
  have hGrows : held.size ≤ (held.extend added).size :=
    held.size_le_size_extend added
  have hExtended :
      extended =
        ((held.extend added).size - held.size,
          ⟨schema, table, .memory (held.extend added)⟩) := by
    simp only [extended, r, hAfter]
    rfl
  have hSize : r.size = held.size := by
    simp only [r, hAfter]
    rfl
  rw [hSize, hExtended]
  refine ⟨?_, fun added' hPerm => ?_, hGrows, ?_⟩
  · simp only [r, hAfter]
    exact insertEach_memory table hWide held
  · simp only [r, hAfter, extendRows,
      RowSet.extend_of_perm hPerm]
  · exact Nat.add_sub_cancel' hGrows

/-
  After a row was inserted, four rows in descending order, one
  of them twice and one there already: two of them are new.
-/
theorem extendRows_eq_insertEach_repeats :
    let schema : Schema :=
      ⟨"n", [⟨"x", .signed, none⟩, ⟨"y", .signed, none⟩]⟩
    let r :=
      (memory schema ⟨0⟩).afterAll [.insertRow [2, 2], .purge,
        .insertRow [1, 1]]
    let added : List Row := [[3, -1], [1, 1], [0, 5], [0, 5]]
    (∀ row ∈ added, row.length = schema.arity) ∧
      r.rows = [[1, 1]] ∧
      r.insertEach added = .ok (r.extendRows added) ∧
      (r.extendRows added).1 = 2 ∧
      (r.extendRows added).2.rows = [[0, 5], [1, 1], [3, -1]] := by
  intro schema r added
  have hWide : ∀ row ∈ added, row.length = schema.arity := by
    decide
  have hEach :
      r.insertEach added =
        .ok
          (2, ⟨schema, ⟨0⟩,
            .memory
              (((RowSet.empty.insert [1, 1]).insert [3, -1]).insert
                [0, 5])⟩) := by
    rfl
  have hSame : r.insertEach added = .ok (r.extendRows added) :=
    (extendRows_eq_insertEach schema ⟨0⟩ _ hWide).1
  have hExtended := Except.ok.inj (hSame.symm.trans hEach)
  refine ⟨hWide, rfl, hSame, ?_, ?_⟩
  · exact congrArg Prod.fst hExtended
  · exact congrArg (fun found => found.2.rows) hExtended

end Relation

end FactStore
