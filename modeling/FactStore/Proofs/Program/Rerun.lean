import FactStore.Proofs.Program.Soundness

/-
  This file proves that a second run changes nothing.  The
  first one may leave `path` short of the transitive closure,
  but what could be derived past the rows that it leaves was
  derived past the fewer rows that it found.

  Main statements include:
    * `Closure.mem_of_fresh_again`
    * `Program.closed_eq_self`
    * `Program.run_twice`
-/

namespace FactStore

------------------------------------------------------------
-- Derivations after a Run
------------------------------------------------------------

/-
  Where what was known and what was derived is known, nothing
  more is derived.
-/
theorem Closure.mem_of_fresh_again
    {edge known known' : List Row}
    (hKnown :
      ∀ row, row ∈ known' ↔
        row ∈ known ∨
          ∃ x z, row = [x, z] ∧ Fresh edge known x z)
    {x z : Cell}
    (h : Fresh edge known' x z) : [x, z] ∈ known' := by
  have hSubset : ∀ row ∈ known, row ∈ known' :=
    fun row hRow => (hKnown row).mpr (Or.inl hRow)
  exact (hKnown _).mpr
    (Or.inr ⟨x, z, rfl, h.of_subset hSubset⟩)

namespace Program

variable {p : Program}
variable {edge path delta : RelationId}
variable {s : Store}

------------------------------------------------------------
-- Closed Stores
------------------------------------------------------------

/-
  Closing changes nothing where `path` has the rows already
  and `delta_path` was purged.
-/
theorem closed_eq_self
    {rows : RowSet}
    (hPath : (s.relation path).withRowSet rows = s.relation path)
    (hDelta : (s.relation delta).purge = s.relation delta) :
    closed s path delta rows = s := by
  rw [closed, hPath, Store.setRelation_relation, hDelta,
    Store.setRelation_relation]

/- Closing twice with the same rows is closing once. -/
theorem Closes.closed_closed
    (h : Closes p edge path delta s)
    (rows : RowSet) :
    closed (closed s path delta rows) path delta rows =
      closed s path delta rows := by
  apply closed_eq_self
  · rw [h.relation_path_closed]
    rfl
  · rw [h.relation_delta_closed, Relation.purge_purge]

------------------------------------------------------------
-- Second Runs
------------------------------------------------------------

/-
  Whatever edges there are, and whatever `path` and
  `delta_path` hold before, a run succeeds, and a second one
  from the store that it leaves succeeds and leaves the same:
  the edges, `path`, `delta_path`, every other relation, every
  symbol table and every file.
-/
theorem run_twice
    (hCloses : Closes p edge path delta s)
    (stratum : Option Nat) :
    ∃ s', Action.run (p.run stratum) s = (.ok (), s') ∧
      Action.run (p.run stratum) s' = (.ok (), s') := by
  by_cases hOnly : stratum.getD 0 = 0
  · have hStratum := eq_of_getD_eq_zero hOnly
    rcases hCloses.run_eq hStratum with ⟨rows, hRun, hRows⟩
    let s' := closed s path delta rows
    have hEvolves := hCloses.evolves_perform (.run stratum)
    rw [perform, hRun] at hEvolves
    have hCloses' : Closes p edge path delta s' :=
      hCloses.of_evolves hEvolves
    have hEdge : s'.relation edge = s.relation edge :=
      relation_closed_of_ne hCloses.ne.1 hCloses.ne.2.1 s rows
    have hPath : (s'.relation path).rows = rows.rows := by
      rw [hCloses.relation_path_closed]
      rfl
    rcases hCloses'.run_eq hStratum with ⟨rows', hRun', hRows'⟩
    rw [hEdge, hPath] at hRows'
    have hSame : rows' = rows := by
      apply RowSet.eq_of_mem_iff
      intro row
      rw [hRows']
      refine or_iff_left_of_imp ?_
      rintro ⟨x, z, rfl, hFresh⟩
      exact Closure.mem_of_fresh_again hRows hFresh
    rw [hSame, hCloses.closed_closed] at hRun'
    exact ⟨s', hRun, hRun'⟩
  · exact
      ⟨s, run_of_ne_zero p hOnly s, run_of_ne_zero p hOnly s⟩

/-
  A chain of three edges.  The host has put a pair that it
  joins into `path`, and another pair into `delta_path`.
-/
def halfway : Store :=
  let edges : List Request :=
    [.insertRow [.text "a", .text "b"],
      .insertRow [.text "b", .text "c"],
      .insertRow [.text "c", .text "d"]]
  let s := first.1.serveAll edges first.2
  let s := s.setRelation ⟨1⟩
    ((s.relation ⟨1⟩).after (.insertRow [0, 2]))
  s.setRelation ⟨2⟩ ((s.relation ⟨2⟩).after (.insertRow [5, 6]))

/-
  A run leaves out the pair of the ends of the chain, which
  extends the pair that was there.  So does a second one.
-/
theorem run_twice_halfway :
    Closes first.1 ⟨0⟩ ⟨1⟩ ⟨2⟩ halfway ∧
      ∃ s', Action.run (first.1.run none) halfway = (.ok (), s') ∧
        Action.run (first.1.run none) s' = (.ok (), s') ∧
        (s'.relation ⟨1⟩).rows =
          [[0, 1], [0, 2], [1, 2], [1, 3], [2, 3]] := by
  have hCloses : Closes first.1 ⟨0⟩ ⟨1⟩ ⟨2⟩ halfway :=
    (((closes_closure run_closure_first).serveAll
      _).after_change (by decide) _).after_change
        (by decide) _
  have hPath :
      ((Action.run (first.1.run none) halfway).2.relation
        ⟨1⟩).rows =
        [[0, 1], [0, 2], [1, 2], [1, 3], [2, 3]] := by
    cbv
  rcases run_twice hCloses none with ⟨s', hRun, hAgain⟩
  rw [hRun] at hPath
  exact ⟨hCloses, s', hRun, hAgain, hPath⟩

end Program

end FactStore
