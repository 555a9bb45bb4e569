import FactStore.RowSet
import Mathlib.Data.List.Sort

/-
  This file proves that a set of rows answers as a search of
  its ascending rows does, and that a row is inserted where
  such a search says that it belongs.  Sets with the same rows
  are equal, so rows may be added in any order, at once or one
  after the other.

  Key definitions include:
    * `Row.Finds`
    * `Row.putAt`

  Main statements include:
    * `RowSet.contains_of_finds`
    * `RowSet.rows_insert_of_finds`
    * `RowSet.eq_of_mem_iff`
    * `RowSet.extend_cons`, `RowSet.extend_of_perm`
    * `RowSet.size_insert`
-/

namespace FactStore

------------------------------------------------------------
-- Searches
------------------------------------------------------------

namespace Row

/-
  What a search of rows for a row may answer: a place where
  the row stands or, when it is missing, the place between
  the rows below it and the rows above it.
-/
inductive Finds
    (rows : List Row)
    (row : Row) : Except Nat Nat → Prop where
| there {place : Nat} :
    rows[place]? = some row → Finds rows row (.ok place)
| missing {slot : Nat} :
    slot ≤ rows.length →
      (∀ r ∈ rows.take slot, r < row) →
      (∀ r ∈ rows.drop slot, row < r) →
      Finds rows row (.error slot)

/- Insert a row where a search says that it is missing. -/
def putAt
    (answer : Except Nat Nat)
    (row : Row)
    (rows : List Row) : List Row :=
  match answer with
  | .ok _ => rows
  | .error slot => rows.insertIdx slot row

/- Placing a row that is there already changes nothing. -/
theorem place_of_mem
    {row : Row} :
    ∀ {rows : List Row},
      rows.Pairwise (· < ·) → row ∈ rows →
        place row rows = rows
| [], _, hMem => by
    cases hMem
| r :: rs, hAscending, hMem => by
    rcases List.pairwise_cons.mp hAscending with ⟨hHead, hTail⟩
    rw [place]
    rcases List.mem_cons.mp hMem with rfl | hRest
    · rw [if_neg (List.lt_irrefl row), if_pos rfl]
    · have hBelow : r < row := hHead row hRest
      rw [if_neg (List.lt_asymm hBelow),
        if_neg (Ne.symm (ne_of_lt hBelow)),
        place_of_mem hTail hRest]

/- A missing row is placed between those below and above it. -/
theorem place_of_missing
    {row : Row} :
    ∀ {rows : List Row} {slot : Nat},
      slot ≤ rows.length →
      (∀ r ∈ rows.take slot, r < row) →
      (∀ r ∈ rows.drop slot, row < r) →
        place row rows = rows.insertIdx slot row
| [], slot, hSlot, _, _ => by
    have hZero : slot = 0 := Nat.le_zero.mp hSlot
    rw [hZero]
    rfl
| r :: rs, 0, _, _, hAbove => by
    have hHead : row < r := hAbove r List.mem_cons_self
    rw [place, if_pos hHead, List.insertIdx_zero]
| r :: rs, slot + 1, hSlot, hBelow, hAbove => by
    have hHead : r < row := hBelow r List.mem_cons_self
    have hRest :=
      place_of_missing (Nat.le_of_succ_le_succ hSlot)
        (fun s hs => hBelow s (List.mem_cons_of_mem _ hs))
        hAbove
    rw [place, if_neg (List.lt_asymm hHead),
      if_neg (Ne.symm (ne_of_lt hHead)), hRest,
      List.insertIdx_succ_cons]

/- A row that is placed among others makes them one more. -/
theorem length_place_of_not_mem
    {row : Row} :
    ∀ {rows : List Row},
      row ∉ rows → (place row rows).length = rows.length + 1
| [], _ => rfl
| r :: rs, hNew => by
    have hHead : row ≠ r := by
      rintro rfl
      exact hNew List.mem_cons_self
    have hRest : (place row rs).length = rs.length + 1 :=
      length_place_of_not_mem fun hMem =>
        hNew (List.mem_cons_of_mem _ hMem)
    rw [place, if_neg hHead]
    split
    · rfl
    · rw [List.length_cons, hRest, List.length_cons]

end Row

------------------------------------------------------------
-- Sets of Rows
------------------------------------------------------------

namespace RowSet

/- A search tells whether a row is in the set. -/
theorem contains_of_finds
    {s : RowSet}
    {row : Row}
    {answer : Except Nat Nat}
    (h : Row.Finds s.rows row answer) :
    s.contains row = answer.isOk := by
  cases h with
  | there hPlace =>
      exact contains_iff.mpr (List.mem_of_getElem? hPlace)
  | @missing slot _ hBelow hAbove =>
      refine Bool.eq_false_iff.mpr fun hContains => ?_
      have hMem : row ∈ s.rows := contains_iff.mp hContains
      rw [← List.take_append_drop slot s.rows,
        List.mem_append] at hMem
      rcases hMem with hTake | hDrop
      · exact List.lt_irrefl row (hBelow row hTake)
      · exact List.lt_irrefl row (hAbove row hDrop)

/- A row is inserted where a search says that it is missing. -/
theorem rows_insert_of_finds
    {s : RowSet}
    {row : Row}
    {answer : Except Nat Nat}
    (h : Row.Finds s.rows row answer) :
    (s.insert row).rows = Row.putAt answer row s.rows := by
  cases h with
  | there hPlace =>
      exact Row.place_of_mem s.ascending
        (List.mem_of_getElem? hPlace)
  | missing hSlot hBelow hAbove =>
      exact Row.place_of_missing hSlot hBelow hAbove

------------------------------------------------------------
-- Equal Sets
------------------------------------------------------------

/- Sets with the same rows are equal, for they are ascending. -/
theorem eq_of_mem_iff
    {s t : RowSet}
    (h : ∀ row, row ∈ s ↔ row ∈ t) : s = t := by
  have hRows : s.rows = t.rows :=
    List.Pairwise.eq_of_mem_iff s.ascending t.ascending h
  cases s
  cases t
  cases hRows
  rfl

/- A row that is there already is not inserted again. -/
theorem insert_of_mem
    {s : RowSet}
    {row : Row}
    (h : row ∈ s) : s.insert row = s := by
  apply eq_of_mem_iff
  intro r
  rw [mem_insert]
  constructor
  · rintro (rfl | hOld)
    · exact h
    · exact hOld
  · exact Or.inr

/- A set grows by one row when that row is new. -/
theorem size_insert
    (s : RowSet)
    (row : Row) :
    (s.insert row).size =
      s.size + if s.contains row then 0 else 1 := by
  by_cases hMem : row ∈ s
  · rw [insert_of_mem hMem, contains_iff.mpr hMem, if_pos rfl,
      Nat.add_zero]
  · rw [if_neg (mt contains_iff.mp hMem)]
    exact Row.length_place_of_not_mem hMem

------------------------------------------------------------
-- Many Rows at Once
------------------------------------------------------------

theorem extend_nil (s : RowSet) : s.extend [] = s :=
  eq_of_mem_iff fun row => by simp

/- Of many rows the first can be inserted before the others. -/
theorem extend_cons
    (s : RowSet)
    (row : Row)
    (rows : List Row) :
    s.extend (row :: rows) = (s.insert row).extend rows := by
  apply eq_of_mem_iff
  intro r
  simp only [mem_extend, mem_insert, List.mem_cons]
  rw [or_left_comm, or_assoc]

/- The order of many rows does not matter. -/
theorem extend_of_perm
    {rows rows' : List Row}
    (h : rows.Perm rows')
    (s : RowSet) : s.extend rows = s.extend rows' := by
  apply eq_of_mem_iff
  intro r
  rw [mem_extend, mem_extend, h.mem_iff]

/- A set does not shrink when rows are added. -/
theorem size_le_size_extend
    (s : RowSet)
    (rows : List Row) : s.size ≤ (s.extend rows).size := by
  induction rows generalizing s with
  | nil => rw [extend_nil]
  | cons row rows ih =>
      rw [extend_cons]
      have hInsert := s.size_insert row
      have hRest := ih (s.insert row)
      omega

end RowSet

end FactStore
