import FactStore.Cell

/-
  This file defines finite sets of rows kept as strictly
  ascending lists, compared cell by cell from the left.

  Key definitions include:
    * `RowSet`
    * `RowSet.contains`
    * `RowSet.insert`
    * `RowSet.extend`

  Main statements include:
    * `RowSet.mem_insert`
    * `RowSet.mem_extend`
-/

namespace FactStore

------------------------------------------------------------
-- Ascending Lists of Rows
------------------------------------------------------------

namespace Row

/- Put a row in front of the first row that is not below it. -/
def place (row : Row) : List Row → List Row
| [] => [row]
| r :: rs =>
    if row < r then row :: r :: rs
    else if row = r then r :: rs
    else r :: place row rs

/- Drop each row that equals the row kept before it. -/
def dropRepeats : List Row → List Row
| [] => []
| r :: rs =>
    match dropRepeats rs with
    | [] => [r]
    | s :: ss => if r = s then s :: ss else r :: s :: ss

/- Rows are compared cell by cell, from the left. -/
def atMost (r s : Row) : Bool :=
  !decide (s < r)

theorem mem_place
    {row r : Row} :
    ∀ {rs : List Row},
      r ∈ place row rs ↔ r = row ∨ r ∈ rs
| [] => by simp [place]
| s :: ss => by
    unfold place
    split
    · simp
    · split
      · rename_i hEq
        subst hEq
        simp
      · have ih : r ∈ place row ss ↔ r = row ∨ r ∈ ss :=
          mem_place
        simp only [List.mem_cons, ih]
        constructor
        · rintro (h | h | h) <;> simp [h]
        · rintro (h | h | h) <;> simp [h]

theorem mem_dropRepeats
    {r : Row} :
    ∀ {rs : List Row},
      r ∈ dropRepeats rs ↔ r ∈ rs
| [] => by simp [dropRepeats]
| s :: ss => by
    have ih : r ∈ dropRepeats ss ↔ r ∈ ss :=
      mem_dropRepeats
    unfold dropRepeats
    split
    · rename_i hNil
      rw [hNil] at ih
      simp only [List.mem_cons, ← ih]
    · rename_i u us hCons
      rw [hCons] at ih
      split
      · rename_i hEq
        subst hEq
        rw [List.mem_cons (a := r) (l := ss), ← ih]
        simp
      · rw [List.mem_cons, ih, ← List.mem_cons]

/- A row below another is different from it. -/
theorem ne_of_lt
    {r s : Row}
    (h : r < s) : r ≠ s := by
  intro hEq
  subst hEq
  exact List.lt_irrefl r h

/- Of two different rows one is below the other. -/
theorem lt_of_not_lt_of_ne
    {r s : Row}
    (h : ¬ r < s)
    (hne : r ≠ s) : s < r := by
  have hle : s ≤ r := List.not_lt.mp h
  rcases List.le_iff_lt_or_eq.mp hle with hlt | heq
  · exact hlt
  · exact absurd heq.symm hne

theorem pairwise_place
    (row : Row) :
    ∀ {rs : List Row},
      rs.Pairwise (· < ·) →
        (place row rs).Pairwise (· < ·)
| [], _ => by simp [place]
| r :: rs, h => by
    have hHead := (List.pairwise_cons.mp h).1
    have hTail := (List.pairwise_cons.mp h).2
    unfold place
    split
    · rename_i hlt
      refine List.pairwise_cons.mpr ⟨?_, h⟩
      intro s hs
      rcases List.mem_cons.mp hs with rfl | hs
      · exact hlt
      · exact List.lt_trans hlt (hHead s hs)
    · split
      · exact h
      · rename_i hlt hne
        refine List.pairwise_cons.mpr
          ⟨?_, pairwise_place row hTail⟩
        intro s hs
        rcases mem_place.mp hs with rfl | hs
        · exact lt_of_not_lt_of_ne hlt hne
        · exact hHead s hs

theorem pairwise_dropRepeats :
    ∀ {rs : List Row},
      rs.Pairwise (fun r s => atMost r s) →
        (dropRepeats rs).Pairwise (· < ·)
| [], _ => by simp [dropRepeats]
| r :: rs, h => by
    have hHead := (List.pairwise_cons.mp h).1
    have ih := pairwise_dropRepeats (List.pairwise_cons.mp h).2
    unfold dropRepeats
    split
    · simp
    · rename_i s ss hCons
      rw [hCons] at ih
      split
      · exact ih
      · rename_i hne
        refine List.pairwise_cons.mpr ⟨?_, ih⟩
        have hs : s ∈ rs := by
          rw [← mem_dropRepeats, hCons]
          simp
        have hrs : r < s := by
          have hnot : ¬ s < r := by
            simpa [atMost] using hHead s hs
          exact lt_of_not_lt_of_ne hnot (Ne.symm hne)
        intro u hu
        rcases List.mem_cons.mp hu with rfl | hu
        · exact hrs
        · exact List.lt_trans hrs
            ((List.pairwise_cons.mp ih).1 u hu)

theorem atMost_trans
    (a b c : Row)
    (hab : atMost a b)
    (hbc : atMost b c) : atMost a c := by
  simp only [atMost, Bool.not_eq_true', decide_eq_false_iff_not]
    at *
  exact List.not_lt.mpr
    (List.le_trans (List.not_lt.mp hab) (List.not_lt.mp hbc))

theorem atMost_total (a b : Row) :
    (atMost a b || atMost b a) = true := by
  simp only [atMost, Bool.or_eq_true, Bool.not_eq_true',
    decide_eq_false_iff_not]
  rcases List.le_total a b with h | h
  · exact Or.inl (List.not_lt.mpr h)
  · exact Or.inr (List.not_lt.mpr h)

end Row

------------------------------------------------------------
-- Row Sets
------------------------------------------------------------

/- A finite set of rows, kept in strictly ascending order. -/
structure RowSet where
  rows : List Row
  ascending : rows.Pairwise (· < ·)
deriving DecidableEq, Repr

namespace RowSet

/- The set without rows. -/
def empty : RowSet :=
  ⟨[], List.Pairwise.nil⟩

instance : Inhabited RowSet := ⟨empty⟩

instance : Membership Row RowSet :=
  ⟨fun s r => r ∈ s.rows⟩

theorem mem_def
    {s : RowSet}
    {r : Row} : r ∈ s ↔ r ∈ s.rows := Iff.rfl

/- The number of rows. -/
def size (s : RowSet) : Nat :=
  s.rows.length

/- Whether a row is in the set. -/
def contains
    (s : RowSet)
    (row : Row) : Bool :=
  s.rows.contains row

/- Put one row at its place, unless it is there already. -/
def insert
    (s : RowSet)
    (row : Row) : RowSet :=
  ⟨row.place s.rows, Row.pairwise_place row s.ascending⟩

/-
  Add many rows at once: all rows are sorted together and
  each row that repeats its predecessor is dropped.
-/
def extend
    (s : RowSet)
    (rows : List Row) : RowSet :=
  ⟨Row.dropRepeats ((s.rows ++ rows).mergeSort Row.atMost),
    Row.pairwise_dropRepeats
      (List.pairwise_mergeSort
        Row.atMost_trans Row.atMost_total _)⟩

@[simp]
theorem not_mem_empty (r : Row) : r ∉ empty := by
  simp [mem_def, empty]

@[simp]
theorem contains_iff
    {s : RowSet}
    {r : Row} : s.contains r = true ↔ r ∈ s := by
  simp [contains, mem_def]

/- Inserting a row adds that row and keeps the others. -/
@[simp]
theorem mem_insert
    {s : RowSet}
    {row r : Row} :
    r ∈ s.insert row ↔ r = row ∨ r ∈ s :=
  Row.mem_place

/- Extending by rows adds those rows and keeps the others. -/
@[simp]
theorem mem_extend
    {s : RowSet}
    {rows : List Row}
    {r : Row} :
    r ∈ s.extend rows ↔ r ∈ s ∨ r ∈ rows := by
  simp [extend, mem_def, Row.mem_dropRepeats,
    List.mem_mergeSort]

end RowSet

end FactStore
