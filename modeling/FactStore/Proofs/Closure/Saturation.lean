import FactStore.Proofs.Closure.Walk
import Mathlib.Data.Finset.Prod
import Mathlib.Data.List.Basic

/-
  This file proves what a round of an evaluation does.  An
  invariant ties the two sets between rounds to derived pairs,
  every round keeps it, and a round that derives something
  leaves fewer pairs missing.

  Key definitions include:
    * `Closure.Progress`
    * `Closure.missing`

  Main statements include:
    * `Closure.progress_round`
    * `Closure.mem_path_iff_of_settled`
    * `Closure.missing_round_lt`
-/

namespace FactStore

namespace Closure

------------------------------------------------------------
-- Edges of Rows
------------------------------------------------------------

/- A list of edges lists the rows of a set of pairs. -/
structure Lists (edges : Edges) (edge : RowSet) : Prop where
  mem_iff : ∀ x z : Cell, (x, z) ∈ edges ↔ [x, z] ∈ edge
  pairs : ∀ row ∈ edge, ∃ x z : Cell, row = [x, z]

/- Rows of two cells are read as the edges that they are. -/
theorem mapM_ends_of_pairs
    {rows : List Row}
    (hPairs : ∀ row ∈ rows, row.length = 2) :
    ∃ edges, rows.mapM ends = .ok edges ∧
      ∀ x z : Cell, (x, z) ∈ edges ↔ [x, z] ∈ rows := by
  induction rows with
  | nil => exact ⟨[], rfl, by simp⟩
  | cons row rows ih =>
      rcases ih fun r hr => hPairs r (List.mem_cons_of_mem _ hr) with
        ⟨edges, hEdges, hMem⟩
      rcases
          List.length_eq_two.mp (hPairs row List.mem_cons_self) with
        ⟨x, y, rfl⟩
      refine ⟨(x, y) :: edges, ?_, ?_⟩
      · simp only [List.mapM_cons, hEdges, ends]
        rfl
      · intro u v
        simp [hMem]

/- Rows of two cells are listed as edges. -/
theorem exists_lists
    {edge : RowSet}
    (hPairs : ∀ row ∈ edge.rows, row.length = 2) :
    ∃ edges, edge.rows.mapM ends = .ok edges ∧
      Lists edges edge := by
  rcases mapM_ends_of_pairs hPairs with ⟨edges, hEdges, hMem⟩
  refine ⟨edges, hEdges, hMem, fun row hRow => ?_⟩
  exact List.length_eq_two.mp (hPairs row hRow)

theorem mem_successors
    {edges : Edges}
    {y z : Cell} :
    z ∈ successors edges y ↔ (y, z) ∈ edges := by
  simp [successors]

/- A row is extended by the edges that start where it ends. -/
theorem mem_extensions_pair
    {edges : Edges}
    {x y : Cell}
    {row : Row} :
    row ∈ extensions edges [x, y] ↔
      ∃ z, (y, z) ∈ edges ∧ row = [x, z] := by
  simp only [extensions, List.mem_map, mem_successors]
  constructor
  · rintro ⟨z, hEdge, rfl⟩
    exact ⟨z, hEdge, rfl⟩
  · rintro ⟨z, hEdge, rfl⟩
    exact ⟨z, hEdge, rfl⟩

theorem mem_derive
    {edges : Edges}
    {s : State}
    {row : Row} :
    row ∈ derive edges s ↔
      (∃ r ∈ s.delta, row ∈ extensions edges r) ∧
        row ∉ s.path := by
  simp [derive, RowSet.mem_def, RowSet.contains]

theorem mem_round_path
    {edges : Edges}
    {s : State}
    {row : Row} :
    row ∈ (round edges s).path ↔
      row ∈ s.path ∨ row ∈ derive edges s :=
  RowSet.mem_extend

theorem mem_round_delta
    {edges : Edges}
    {s : State}
    {row : Row} :
    row ∈ (round edges s).delta ↔ row ∈ derive edges s := by
  simp [round]

------------------------------------------------------------
-- The Invariant of a Round
------------------------------------------------------------

/-
  What holds between two rounds of an evaluation that began
  with the given edges and known rows.  A derived pair that
  no longer waits in `delta` has been joined with every edge.
-/
structure Progress
    (edge known : RowSet)
    (s : State) : Prop where
  known_subset : ∀ row ∈ known, row ∈ s.path
  edge_subset : ∀ row ∈ edge, row ∈ s.path
  path_sound :
    ∀ row ∈ s.path,
      row ∈ known ∨ ∃ x z, row = [x, z] ∧ Fresh edge.rows known.rows x z
  delta_sound :
    ∀ row ∈ s.delta, ∃ x z, row = [x, z] ∧ Fresh edge.rows known.rows x z
  joined_unless_waiting :
    ∀ x y z, Fresh edge.rows known.rows x y → [x, y] ∈ s.path →
      [x, y] ∉ s.delta → [y, z] ∈ edge → [x, z] ∈ s.path

theorem progress_start
    {edges : Edges}
    {edge known : RowSet}
    (hLists : Lists edges edge) :
    Progress edge known (start edge known) where
  known_subset := fun row hRow => by
    simp [start, hRow]
  edge_subset := fun row hRow => by
    simp [start, ← RowSet.mem_def, hRow]
  path_sound := by
    intro row hRow
    rcases RowSet.mem_extend.mp hRow with hKnown | hEdge
    · exact Or.inl hKnown
    · rcases hLists.pairs row hEdge with ⟨x, z, rfl⟩
      exact Or.inr ⟨x, z, rfl, Fresh.edge hEdge⟩
  delta_sound := by
    intro row hRow
    have hEdge : row ∈ edge := by
      simpa [start, ← RowSet.mem_def] using hRow
    rcases hLists.pairs row hEdge with ⟨x, z, rfl⟩
    exact ⟨x, z, rfl, Fresh.edge hEdge⟩
  joined_unless_waiting := by
    -- A derived pair in `path` is an edge, and all edges wait.
    intro x y z hFresh hPath hNotDelta _
    refine absurd ?_ hNotDelta
    have hEdge : [x, y] ∈ edge := by
      rcases RowSet.mem_extend.mp hPath with hKnown | hEdge
      · exact edge_of_fresh_of_known hFresh hKnown
      · exact hEdge
    simpa [start, ← RowSet.mem_def] using hEdge

/- What a round derives is derived from the edges. -/
theorem fresh_of_mem_derive
    {edges : Edges}
    {edge known : RowSet}
    {s : State}
    {row : Row}
    (hLists : Lists edges edge)
    (hProgress : Progress edge known s)
    (hRow : row ∈ derive edges s) :
    ∃ x z, row = [x, z] ∧ Fresh edge.rows known.rows x z := by
  rcases mem_derive.mp hRow with ⟨⟨r, hr, hExtension⟩, hNotPath⟩
  rcases hProgress.delta_sound r hr with ⟨x, y, rfl, hFresh⟩
  rcases mem_extensions_pair.mp hExtension with ⟨z, hEdge, rfl⟩
  refine ⟨x, z, rfl, Fresh.step hFresh ?_ ?_⟩
  · exact (hLists.mem_iff y z).mp hEdge
  · exact fun hKnown =>
      hNotPath (hProgress.known_subset _ hKnown)

/- A round keeps the invariant. -/
theorem progress_round
    {edges : Edges}
    {edge known : RowSet}
    {s : State}
    (hLists : Lists edges edge)
    (hProgress : Progress edge known s) :
    Progress edge known (round edges s) where
  known_subset := fun row hRow =>
    mem_round_path.mpr
      (Or.inl (hProgress.known_subset row hRow))
  edge_subset := fun row hRow =>
    mem_round_path.mpr
      (Or.inl (hProgress.edge_subset row hRow))
  path_sound := by
    intro row hRow
    rcases mem_round_path.mp hRow with hPath | hDerived
    · exact hProgress.path_sound row hPath
    · exact Or.inr
        (fresh_of_mem_derive hLists hProgress hDerived)
  delta_sound := fun row hRow =>
    fresh_of_mem_derive hLists hProgress
      (mem_round_delta.mp hRow)
  joined_unless_waiting := by
    intro x y z hFresh hPath hNotDelta hEdge
    have hOld : [x, y] ∈ s.path := by
      rcases mem_round_path.mp hPath with hOld | hDerived
      · exact hOld
      · exact absurd (mem_round_delta.mpr hDerived) hNotDelta
    apply mem_round_path.mpr
    by_cases hWaiting : [x, y] ∈ s.delta
    · -- The pair was joined in this very round.
      by_cases hThere : [x, z] ∈ s.path
      · exact Or.inl hThere
      · refine Or.inr (mem_derive.mpr ⟨⟨_, hWaiting, ?_⟩, hThere⟩)
        exact mem_extensions_pair.mpr
          ⟨z, (hLists.mem_iff y z).mpr hEdge, rfl⟩
    · exact Or.inl
        (hProgress.joined_unless_waiting x y z hFresh hOld
          hWaiting hEdge)

/-
  When nothing waits any longer, `path` holds what was known
  and what is derived, and nothing else.
-/
theorem mem_path_iff_of_settled
    {edge known : RowSet}
    {s : State}
    (hProgress : Progress edge known s)
    (hSettled : s.delta.rows = [])
    (row : Row) :
    row ∈ s.path ↔
      row ∈ known ∨
        ∃ x z, row = [x, z] ∧ Fresh edge.rows known.rows x z := by
  refine ⟨hProgress.path_sound row, ?_⟩
  rintro (hKnown | ⟨x, z, rfl, hFresh⟩)
  · exact hProgress.known_subset row hKnown
  · induction hFresh with
    | edge hEdge => exact hProgress.edge_subset _ hEdge
    | step hFresh hEdge _ ih =>
        refine hProgress.joined_unless_waiting _ _ _
          hFresh ih ?_ hEdge
        simp [RowSet.mem_def, hSettled]

------------------------------------------------------------
-- What Is Missing
------------------------------------------------------------

/- The pairs of a first and a second cell of edges. -/
def candidates (edges : Edges) : Finset (Cell × Cell) :=
  (edges.map (·.1)).toFinset ×ˢ (edges.map (·.2)).toFinset

/- The candidates that `path` does not hold. -/
def missing
    (edges : Edges)
    (s : State) : Finset (Cell × Cell) :=
  (candidates edges).filter fun p => [p.1, p.2] ∉ s.path.rows

theorem card_toFinset_le_eraseDups
    (cells : List Cell) :
    cells.toFinset.card ≤ cells.eraseDups.length := by
  have hSame : cells.toFinset = cells.eraseDups.toFinset := by
    ext c
    simp [List.mem_eraseDups]
  rw [hSame]
  exact List.toFinset_card_le _

theorem card_candidates_le_bound
    (edges : Edges) :
    (candidates edges).card ≤ bound edges := by
  rw [candidates, Finset.card_product, bound]
  exact Nat.mul_le_mul (card_toFinset_le_eraseDups _)
    (card_toFinset_le_eraseDups _)

/- A derived pair starts and ends where edges do. -/
theorem mem_candidates_of_fresh
    {edges : Edges}
    {edge known : RowSet}
    {x z : Cell}
    (hLists : Lists edges edge)
    (hFresh : Fresh edge.rows known.rows x z) :
    (x, z) ∈ candidates edges := by
  induction hFresh with
  | @edge z hEdge =>
      have hListed := (hLists.mem_iff x z).mpr hEdge
      simp only [candidates, Finset.mem_product,
        List.mem_toFinset]
      exact ⟨List.mem_map_of_mem hListed,
        List.mem_map_of_mem hListed⟩
  | @step y z _ hEdge _ ih =>
      have hListed := (hLists.mem_iff y z).mpr hEdge
      simp only [candidates, Finset.mem_product,
        List.mem_toFinset] at ih ⊢
      exact ⟨ih.1, List.mem_map_of_mem hListed⟩

/- A round that derives something leaves less to derive. -/
theorem missing_round_lt
    {edges : Edges}
    {edge known : RowSet}
    {s : State}
    (hLists : Lists edges edge)
    (hProgress : Progress edge known s)
    (hDerives : derive edges s ≠ []) :
    (missing edges (round edges s)).card <
      (missing edges s).card := by
  rcases List.exists_mem_of_ne_nil _ hDerives with ⟨row, hRow⟩
  rcases fresh_of_mem_derive hLists hProgress hRow with
    ⟨x, z, rfl, hFresh⟩
  have hNotPath : [x, z] ∉ s.path := (mem_derive.mp hRow).2
  have hPath : [x, z] ∈ (round edges s).path :=
    mem_round_path.mpr (Or.inr hRow)
  apply Finset.card_lt_card
  refine (Finset.ssubset_iff_of_subset ?_).mpr ?_
  · intro p hp
    simp only [missing, Finset.mem_filter] at hp ⊢
    refine ⟨hp.1, fun hOld => hp.2 ?_⟩
    exact mem_round_path.mpr (Or.inl hOld)
  · refine ⟨(x, z), ?_, ?_⟩
    · exact Finset.mem_filter.mpr
        ⟨mem_candidates_of_fresh hLists hFresh, hNotPath⟩
    · exact fun hMissing =>
        (Finset.mem_filter.mp hMissing).2 hPath

end Closure

end FactStore
