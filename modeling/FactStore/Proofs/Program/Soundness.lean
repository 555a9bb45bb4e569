import FactStore.Proofs.Program.Completeness
import FactStore.Proofs.Relation.History

/-
  This file proves what a run may do at most.  Whatever the
  host has put into `path` and `delta_path` before, a run adds
  to `path` only pairs that walks of edges join, and leaves
  everything but these two relations as it is.

  Main statements include:
    * `Program.Closes.after_change`
    * `Program.run_adds_only_joined`
-/

namespace FactStore

------------------------------------------------------------
-- Changes by the Host
------------------------------------------------------------

namespace Program

variable {p : Program}
variable {edge path delta : RelationId}
variable {s : Store}

theorem KeepsPairs.after_change
    {table : TableId}
    {name : String}
    {id changed : RelationId}
    (h : KeepsPairs s table name id)
    (c : Relation.Change) :
    KeepsPairs
      (s.setRelation changed ((s.relation changed).after c))
      table name id := by
  have hUsed :
      id.index <
        (s.setRelation changed
          ((s.relation changed).after c)).relations.length := by
    simpa [Store.setRelation] using h.used
  by_cases hSame : id = changed
  · subst hSame
    rcases h.memory.after c with
      ⟨hSchema, hTable, hMemory⟩
    refine ⟨hUsed, ?_, ?_, ?_⟩ <;>
      rw [Store.relation_setRelation _ h.used]
    · exact hSchema.trans h.schema
    · exact hTable.trans h.table
    · exact hMemory
  · refine ⟨hUsed, ?_, ?_, ?_⟩ <;>
      rw [Store.relation_setRelation_of_ne _ hSame]
    · exact h.schema
    · exact h.table
    · exact h.memory

/-
  The host may change the other relations than `edge` as it
  likes, also by rows of other widths.
-/
theorem Closes.after_change
    (h : Closes p edge path delta s)
    {id : RelationId}
    (hOther : id ≠ edge)
    (c : Relation.Change) :
    Closes p edge path delta
      (s.setRelation id ((s.relation id).after c)) where
  engine := h.engine
  catalog := h.catalog
  distinct := h.distinct
  keepsEdge := h.keepsEdge.after_change c
  keepsPath := h.keepsPath.after_change c
  keepsDelta := h.keepsDelta.after_change c
  uniform := by
    rw [Store.relation_setRelation_of_ne _ hOther.symm]
    exact h.uniform

------------------------------------------------------------
-- Soundness and Frame
------------------------------------------------------------

/-
  A run of the only stratum keeps in `path` what it held, adds
  all edges, and adds only pairs that walks of edges join.  It
  empties `delta_path`.  No other relation is changed, and no
  symbol table or file.  A run of another stratum changes
  nothing.
-/
theorem run_adds_only_joined
    (hCloses : Closes p edge path delta s) :
    (∀ stratum, stratum = none ∨ stratum = some 0 →
      ∃ s', Action.run (p.run stratum) s = (.ok (), s') ∧
        (∀ row ∈ (s.relation path).rows,
          row ∈ (s'.relation path).rows) ∧
        (∀ row ∈ (s.relation edge).rows,
          row ∈ (s'.relation path).rows) ∧
        (∀ row ∈ (s'.relation path).rows,
          row ∈ (s.relation path).rows ∨
            ∃ x z, row = [x, z] ∧
              Closure.Joined (s.relation edge).rows x z) ∧
        (s'.relation delta).rows = [] ∧
        s'.relation edge = s.relation edge ∧
        (∀ id, id ≠ path → id ≠ delta →
          s'.relation id = s.relation id) ∧
        s'.tables = s.tables ∧
        s'.files = s.files) ∧
      ∀ n, n ≠ 0 →
        Action.run (p.run (some n)) s = (.ok (), s) := by
  refine ⟨fun stratum hStratum => ?_, fun n hOther => ?_⟩
  · rcases hCloses.run_eq hStratum with ⟨rows, hRun, hPath⟩
    have hAfter :
        ((closed s path delta rows).relation path).rows =
          rows.rows := by
      rw [hCloses.relation_path_closed]
      rfl
    refine
      ⟨closed s path delta rows, hRun, fun row hRow => ?_,
        fun row hRow => ?_, fun row hRow => ?_,
        hCloses.rows_delta_closed rows,
        relation_closed_of_ne hCloses.ne.1 hCloses.ne.2.1 s rows,
        fun id hNotPath hNotDelta =>
          relation_closed_of_ne hNotPath hNotDelta s rows,
        rfl, rfl⟩
    · rw [hAfter]
      exact (hPath row).mpr (Or.inl hRow)
    · have hPair := hCloses.length_eq_two hRow
      rcases List.length_eq_two.mp hPair with ⟨x, z, rfl⟩
      rw [hAfter]
      exact (hPath _).mpr (Or.inr ⟨x, z, rfl, .edge hRow⟩)
    · rw [hAfter] at hRow
      rcases (hPath row).mp hRow with hOld | ⟨x, z, rfl, hFresh⟩
      · exact Or.inl hOld
      · exact Or.inr ⟨x, z, rfl, Closure.joined_of_fresh hFresh⟩
  · have hStratum : (some n).getD 0 ≠ 0 := hOther
    exact run_of_ne_zero p hStratum s

/- The cycle, and rows that the host has put beside it. -/
def prefilled : Store :=
  let s := first.1.serveAll cycle first.2
  let s := s.setRelation ⟨1⟩
    ((s.relation ⟨1⟩).after (.extendRows [[7, 8], [9]]))
  s.setRelation ⟨2⟩ ((s.relation ⟨2⟩).after (.insertRow [5, 6]))

/-
  The cycle is closed beside a pair and a row of one cell in
  `path`, and beside another pair in `delta_path`.
-/
theorem run_adds_only_joined_prefilled :
    ∃ s', Action.run (first.1.run none) prefilled = (.ok (), s') ∧
      (∀ row ∈ [[0, 1], [1, 0], [7, 8], [9]],
        row ∈ (s'.relation ⟨1⟩).rows) ∧
      (∀ row ∈ (s'.relation ⟨1⟩).rows,
        row ∈ [[7, 8], [9]] ∨
          ∃ x z, row = [x, z] ∧
            Closure.Joined (prefilled.relation ⟨0⟩).rows x z) ∧
      (prefilled.relation ⟨2⟩).rows = [[5, 6]] ∧
      (s'.relation ⟨2⟩).rows = [] := by
  have hCloses : Closes first.1 ⟨0⟩ ⟨1⟩ ⟨2⟩ prefilled :=
    (((closes_closure run_closure_first).serveAll
      cycle).after_change (by decide) _).after_change
        (by decide) _
  have hEdge :
      (prefilled.relation ⟨0⟩).rows = [[0, 1], [1, 0]] := by cbv
  have hPath :
      (prefilled.relation ⟨1⟩).rows = [[7, 8], [9]] := by cbv
  have hDelta : (prefilled.relation ⟨2⟩).rows = [[5, 6]] := by cbv
  rcases
      (run_adds_only_joined hCloses).1 none (Or.inl rfl) with
    ⟨s', hRun, hHeld, hEdges, hSound, hEmpty, _⟩
  rw [hPath] at hHeld hSound
  rw [hEdge] at hEdges
  refine ⟨s', hRun, fun row hRow => ?_, hSound, hDelta, hEmpty⟩
  rcases List.mem_append.mp
      (show row ∈ [[0, 1], [1, 0]] ++ [[7, 8], [9]] from hRow) with
    hNew | hOld
  · exact hEdges row hNew
  · exact hHeld row hOld

end Program

end FactStore
