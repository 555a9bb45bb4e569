import Mathlib
import FactStore.Proofs.Program.Session

/-
  This file proves what `path` holds after a run.  A run from
  an empty `path` yields the transitive closure.  A later run
  joins only what it derives itself, so what `path` held
  before decides whether it is complete.

  Key definitions include:
    * `Program.contents`

  Main statements include:
    * `Program.run_of_empty_path`
    * `Program.run_complete_iff_noGap`
    * `Program.run_misses_joined_pair`
-/

namespace FactStore

namespace Program

/- The rows of the relation with a name. -/
def contents
    (p : Program)
    (name : String)
    (s : Store) : List Row :=
  match p.catalog.find? name with
  | some id => (s.relation id).rows
  | none => []

variable {p : Program}
variable {edge path delta : RelationId}
variable {s : Store}

theorem Closes.contents_edge
    (h : Closes p edge path delta s) :
    p.contents "edge" s = (s.relation edge).rows := by
  rw [contents, h.find?_edge]

theorem Closes.contents_path
    (h : Closes p edge path delta s) :
    p.contents "path" s = (s.relation path).rows := by
  rw [contents, h.find?_path]

------------------------------------------------------------
-- Runs from an Empty Path
------------------------------------------------------------

/-
  Where `path` is empty, a run fills it with the pairs that
  walks of edges join, in strictly ascending order, whatever
  `delta_path` held.  Neither the edges nor any symbol table
  is touched.
-/
theorem run_of_empty_path
    (hCloses : Closes p edge path delta s)
    (hEmpty : (s.relation path).rows = [])
    (stratum : Option Nat)
    (hStratum : stratum = none ∨ stratum = some 0) :
    ∃ s', Action.run (p.run stratum) s = (.ok (), s') ∧
      (∀ row, row ∈ (s'.relation path).rows ↔
        ∃ x z, row = [x, z] ∧
          Closure.Joined (s.relation edge).rows x z) ∧
      (s'.relation path).rows.Pairwise (· < ·) ∧
      (s'.relation delta).rows = [] ∧
      s'.relation edge = s.relation edge ∧
      s'.tables = s.tables := by
  rcases hCloses.run_spec hStratum with
    ⟨s', hRun, hEvolves, hPath, hDelta, hEdge, hTables, _⟩
  have hRows :
      (s'.relation path).rows = (s'.relation path).rowSet.rows :=
    (hCloses.of_evolves hEvolves).keepsPath.memory.rows_eq
  refine ⟨s', hRun, ?_, ?_, hDelta, hEdge, hTables⟩
  · intro row
    rw [hPath]
    simp only [hEmpty, List.not_mem_nil, false_or,
      Closure.fresh_iff_joined_of_empty]
  · rw [hRows]
    exact (s'.relation path).rowSet.ascending

/- The first program of a store without files. -/
def first : Program × Store :=
  match Action.run (closure default) (.ofFiles .empty) with
  | (.ok p, s) => (p, s)
  | (.error _, s) => (⟨.empty, ⟨0⟩, 0, .idle⟩, s)

theorem run_closure_first :
    Action.run (closure default) (.ofFiles .empty) =
      (.ok first.1, first.2) := rfl

/- Two edges that lead forth and back. -/
def cycle : List Request :=
  [.insertRow [.text "a", .text "b"],
    .insertRow [.text "b", .text "a"]]

/- The cycle is closed from an empty `path`. -/
theorem run_of_empty_path_cycle :
    let s := first.1.serveAll cycle first.2
    (s.relation ⟨1⟩).rows = [] ∧
      ∃ s', Action.run (first.1.run (some 0)) s = (.ok (), s') ∧
        ∀ row, row ∈ (s'.relation ⟨1⟩).rows ↔
          ∃ x z, row = [x, z] ∧
            Closure.Joined (s.relation ⟨0⟩).rows x z := by
  intro s
  have hCloses : Closes first.1 ⟨0⟩ ⟨1⟩ ⟨2⟩ s :=
    (closes_closure run_closure_first).serveAll cycle
  have hEmpty : (s.relation ⟨1⟩).rows = [] := rfl
  rcases run_of_empty_path hCloses hEmpty (some 0) (Or.inr rfl) with
    ⟨s', hRun, hPath, _⟩
  exact ⟨hEmpty, s', hRun, hPath⟩

------------------------------------------------------------
-- Runs from Any Path
------------------------------------------------------------

/-
  A run adds to `path` the pairs derived from the edges when
  a pair that `path` held before is not derived again.  Every
  joined pair is in `path` afterwards exactly when no pair
  that it held before leaves a gap behind it.
-/
theorem run_complete_iff_noGap
    {options : FactOptions}
    {s₀ s₁ : Store}
    (hNew : Action.run (closure options) s₀ = (.ok p, s₁))
    (requests : List Request) :
    let s := p.serveAll requests s₁
    ∃ s', Action.run (p.run none) s = (.ok (), s') ∧
      p.contents "edge" s' = p.contents "edge" s ∧
      (∀ row, row ∈ p.contents "path" s' ↔
        row ∈ p.contents "path" s ∨
          ∃ x z, row = [x, z] ∧
            Closure.Fresh (p.contents "edge" s)
              (p.contents "path" s) x z) ∧
      ((∀ x z, Closure.Joined (p.contents "edge" s') x z →
          [x, z] ∈ p.contents "path" s') ↔
        Closure.NoGap (p.contents "edge" s)
          (p.contents "path" s)) := by
  intro s
  have hCloses : Closes p _ _ _ s :=
    (closes_closure hNew).serveAll requests
  rcases hCloses.run_spec (Or.inl rfl) with
    ⟨s', hRun, hEvolves, hPath, _, hEdge, _, _⟩
  have hCloses' := hCloses.of_evolves hEvolves
  have hEdges : p.contents "edge" s' = p.contents "edge" s := by
    rw [hCloses'.contents_edge, hCloses.contents_edge, hEdge]
  rw [← hCloses'.contents_path, ← hCloses.contents_path,
    ← hCloses.contents_edge] at hPath
  refine ⟨s', hRun, hEdges, hPath, ?_⟩
  rw [hEdges, ← Closure.joined_known_or_fresh_iff]
  simp [hPath]

/- A chain of two edges that grows by a third one after a run. -/
def growingChain : List Request :=
  [.insertRow [.text "a", .text "b"],
    .insertRow [.text "b", .text "c"],
    .run none,
    .insertRow [.text "c", .text "d"]]

/- The theorem holds of the chain, which leaves a gap. -/
theorem run_complete_iff_noGap_growingChain :
    let s := first.1.serveAll growingChain first.2
    ∃ s', Action.run (first.1.run none) s = (.ok (), s') ∧
      ((∀ x z, Closure.Joined (first.1.contents "edge" s') x z →
          [x, z] ∈ first.1.contents "path" s') ↔
        Closure.NoGap (first.1.contents "edge" s)
          (first.1.contents "path" s)) := by
  rcases run_complete_iff_noGap run_closure_first growingChain with
    ⟨s', hRun, _, _, hComplete⟩
  exact ⟨s', hRun, hComplete⟩

/- The rows after a run over the grown chain. -/
theorem rows_edge_growingChain :
    first.1.contents "edge"
        (Action.run (first.1.run none)
          (first.1.serveAll growingChain first.2)).2 =
      [[0, 1], [1, 2], [2, 3]] := by
  cbv

theorem rows_path_growingChain :
    first.1.contents "path"
        (Action.run (first.1.run none)
          (first.1.serveAll growingChain first.2)).2 =
      [[0, 1], [0, 2], [1, 2], [1, 3], [2, 3]] := by
  cbv

/-
  After the chain has grown, a run does not join its ends:
  the pair to extend is in `path` already.
-/
theorem run_misses_joined_pair :
    ∃ s',
      Action.run (first.1.run none)
          (first.1.serveAll growingChain first.2) =
        (.ok (), s') ∧
      ∃ x z, Closure.Joined (first.1.contents "edge" s') x z ∧
        [x, z] ∉ first.1.contents "path" s' := by
  have hEdges := rows_edge_growingChain
  have hPath := rows_path_growingChain
  rcases
      ((closes_closure run_closure_first).serveAll
        growingChain).run_spec (Or.inl rfl) with
    ⟨s', hRun, _⟩
  rw [hRun] at hEdges hPath
  refine ⟨s', hRun, 0, 3, ?_, ?_⟩
  · have hEdge :
        ∀ x z, [x, z] ∈ [[0, 1], [1, 2], [2, 3]] →
          [x, z] ∈ first.1.contents "edge" s' := by
      intro x z hRow
      rwa [hEdges]
    apply Relation.TransGen.head (hEdge 0 1 (by simp))
    apply Relation.TransGen.head (hEdge 1 2 (by simp))
    exact Relation.TransGen.single (hEdge 2 3 (by simp))
  · rw [hPath]
    decide

end Program

end FactStore
