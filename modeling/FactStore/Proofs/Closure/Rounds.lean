import FactStore.Proofs.Closure.Saturation
import FactStore.Proofs.RowSet

/-
  This file proves that the rounds of an evaluation end by
  themselves.  Every round but the last one derives a pair of
  a first and a second cell of edges that was missing, so
  there are no more rounds than such pairs, and the limit of
  an evaluation cuts none off.

  Key definitions include:
    * `RowSet.cellsAt`
    * `Closure.Rounds`

  Main statements include:
    * `Closure.Rounds.unique`
    * `Closure.Rounds.saturate_eq`
    * `Closure.exists_rounds`
    * `Closure.exists_rounds_evaluate`
    * `Closure.evaluate_eq_ok`
    * `Closure.rounds_end`
-/

namespace FactStore

/- The cells that the rows of a set hold in a column. -/
def RowSet.cellsAt
    (s : RowSet)
    (column : Nat) : Finset Cell :=
  (s.rows.filterMap (·[column]?)).toFinset

namespace Closure

------------------------------------------------------------
-- Rounds without a Limit
------------------------------------------------------------

/-
  The rounds that are run from a state until nothing is left
  to join: their number, and the state that they end in.
-/
inductive Rounds (edges : Edges) :
    State → Nat → State → Prop where
| settled {s : State} :
    s.delta.rows = [] → Rounds edges s 0 s
| next {s s' : State} {rounds : Nat} :
    s.delta.rows ≠ [] → Rounds edges (round edges s) rounds s' →
      Rounds edges s (rounds + 1) s'

variable {edges : Edges}
variable {edge known : RowSet}

/- From a state rounds end in one way at most. -/
theorem Rounds.unique
    {s s' s'' : State}
    {rounds rounds' : Nat}
    (h : Rounds edges s rounds s')
    (h' : Rounds edges s rounds' s'') :
    rounds' = rounds ∧ s'' = s' := by
  induction h generalizing rounds' with
  | settled hSettled =>
      cases h' with
      | settled _ => exact ⟨rfl, rfl⟩
      | next hWaiting _ => exact absurd hSettled hWaiting
  | next hWaiting _ ih =>
      cases h' with
      | settled hSettled => exact absurd hSettled hWaiting
      | next _ hRest =>
          rcases ih hRest with ⟨rfl, rfl⟩
          exact ⟨rfl, rfl⟩

/- Rounds end where nothing is left to join. -/
theorem Rounds.settles
    {s s' : State}
    {rounds : Nat}
    (h : Rounds edges s rounds s') : s'.delta.rows = [] := by
  induction h with
  | settled hSettled => exact hSettled
  | next _ _ ih => exact ih

/- Rounds keep the invariant of a round. -/
theorem Rounds.progress
    {s s' : State}
    {rounds : Nat}
    (h : Rounds edges s rounds s')
    (hLists : Lists edges edge)
    (hProgress : Progress edge known s) :
    Progress edge known s' := by
  induction h with
  | settled _ => exact hProgress
  | next _ _ ih => exact ih (progress_round hLists hProgress)

/- A limit that is not below the number of rounds cuts none off. -/
theorem Rounds.saturate_eq
    {s s' : State}
    {rounds limit : Nat}
    (h : Rounds edges s rounds s')
    (hLimit : rounds ≤ limit) :
    saturate edges limit s = (s', rounds) := by
  induction h generalizing limit with
  | settled hSettled =>
      cases limit with
      | zero => rfl
      | succ limit => simp [saturate, hSettled]
  | @next s s' rounds hWaiting _ ih =>
      cases limit with
      | zero => exact absurd hLimit (Nat.not_succ_le_zero _)
      | succ limit =>
          have hRest := ih (Nat.le_of_succ_le_succ hLimit)
          simp [saturate, hWaiting, hRest]

------------------------------------------------------------
-- The End of the Rounds
------------------------------------------------------------

/- A round that derives nothing leaves nothing to join. -/
theorem delta_round_eq_nil
    {s : State}
    (hNothing : derive edges s = []) :
    (round edges s).delta.rows = [] := by
  apply List.eq_nil_iff_forall_not_mem.mpr
  intro row hRow
  have hDerived : row ∈ derive edges s := mem_round_delta.mp hRow
  rw [hNothing] at hDerived
  cases hDerived

/-
  Rounds end, by induction on the number of missing pairs:
  each but the last one makes them fewer, and the last one
  derives nothing.
-/
theorem exists_rounds
    (hLists : Lists edges edge)
    {s : State}
    (hProgress : Progress edge known s) :
    ∃ rounds s', Rounds edges s rounds s' ∧
      rounds ≤ (missing edges s).card + 1 := by
  by_cases hSettled : s.delta.rows = []
  · exact ⟨0, s, .settled hSettled, Nat.zero_le _⟩
  · by_cases hNothing : derive edges s = []
    · have hLast := delta_round_eq_nil hNothing
      exact
        ⟨1, _, .next hSettled (.settled hLast),
          Nat.le_add_left _ _⟩
    · have hFewer := missing_round_lt hLists hProgress hNothing
      rcases
          exists_rounds hLists
            (progress_round hLists hProgress) with
        ⟨rounds, s', hRounds, hBound⟩
      exact
        ⟨rounds + 1, s', .next hSettled hRounds, by omega⟩
termination_by (missing edges s).card

------------------------------------------------------------
-- Evaluation
------------------------------------------------------------

/- Rounds that the limit leaves room for are an evaluation. -/
theorem Rounds.evaluate_eq
    {s : State}
    {rounds : Nat}
    (h : Rounds edges (start edge known) rounds s)
    (hEdges : edge.rows.mapM ends = .ok edges)
    (hLimit : rounds ≤ bound edges + 1) :
    evaluate edge known = .ok (s, rounds) := by
  simp only [evaluate, hEdges]
  exact congrArg Except.ok (h.saturate_eq hLimit)

/- The candidates that are missing are no more than the bound. -/
theorem card_missing_le_bound
    (edges : Edges)
    (s : State) :
    (missing edges s).card ≤ bound edges :=
  (Finset.card_filter_le _ _).trans
    (card_candidates_le_bound edges)

/-
  Over edges that are pairs evaluation answers the state in
  which rounds end and their number.
-/
theorem exists_rounds_evaluate
    {edge : RowSet}
    (known : RowSet)
    (hPairs : ∀ row ∈ edge.rows, row.length = 2) :
    ∃ edges s rounds,
      edge.rows.mapM ends = .ok edges ∧ Lists edges edge ∧
      Rounds edges (start edge known) rounds s ∧
      evaluate edge known = .ok (s, rounds) := by
  rcases exists_lists hPairs with ⟨edges, hEdges, hLists⟩
  have hStart : Progress edge known (start edge known) :=
    progress_start hLists
  rcases exists_rounds hLists hStart with
    ⟨rounds, s, hRounds, hBound⟩
  have hLimit : rounds ≤ bound edges + 1 :=
    hBound.trans
      (Nat.succ_le_succ (card_missing_le_bound edges _))
  exact
    ⟨edges, s, rounds, hEdges, hLists, hRounds,
      hRounds.evaluate_eq hEdges hLimit⟩

/-
  Evaluating the rules over edges that are pairs succeeds and
  settles: `path` then holds what it held before and the
  pairs that are derived from the edges.
-/
theorem evaluate_eq_ok
    {edge : RowSet}
    (known : RowSet)
    (hPairs : ∀ row ∈ edge.rows, row.length = 2) :
    ∃ s rounds, evaluate edge known = .ok (s, rounds) ∧
      s.delta.rows = [] ∧
      ∀ row, row ∈ s.path ↔
        row ∈ known ∨
          ∃ x z, row = [x, z] ∧ Fresh edge.rows known.rows x z := by
  rcases exists_rounds_evaluate known hPairs with
    ⟨edges, s, rounds, _, hLists, hRounds, hEvaluate⟩
  have hProgress : Progress edge known s :=
    hRounds.progress hLists (progress_start hLists)
  exact
    ⟨s, rounds, hEvaluate, hRounds.settles,
      mem_path_iff_of_settled hProgress hRounds.settles⟩

------------------------------------------------------------
-- The Number of Rounds
------------------------------------------------------------

/- A side of the edges is a column of their rows. -/
theorem toFinset_map_eq_cellsAt
    (hLists : Lists edges edge)
    {side : Cell × Cell → Cell}
    (column : Nat)
    (hSide : ∀ x z : Cell, [x, z][column]? = some (side (x, z))) :
    (edges.map side).toFinset = edge.cellsAt column := by
  ext c
  simp only [RowSet.cellsAt, List.mem_toFinset, List.mem_map,
    List.mem_filterMap]
  constructor
  · rintro ⟨⟨x, z⟩, hEdge, rfl⟩
    exact ⟨[x, z], (hLists.mem_iff x z).mp hEdge, hSide x z⟩
  · rintro ⟨row, hRow, hCell⟩
    rcases hLists.pairs row hRow with ⟨x, z, rfl⟩
    have hSame : side (x, z) = c :=
      Option.some.inj ((hSide x z).symm.trans hCell)
    exact ⟨(x, z), (hLists.mem_iff x z).mpr hRow, hSame⟩

/- The candidates are the pairs of a first and a second cell. -/
theorem candidates_eq_product
    (hLists : Lists edges edge) :
    candidates edges = edge.cellsAt 0 ×ˢ edge.cellsAt 1 := by
  rw [candidates,
    toFinset_map_eq_cellsAt hLists 0 fun _ _ => rfl,
    toFinset_map_eq_cellsAt hLists 1 fun _ _ => rfl]

/- No round is run where there are no edges. -/
theorem Rounds.eq_zero_of_no_edges
    {s : State}
    {rounds : Nat}
    (h : Rounds edges (start edge known) rounds s)
    (hNone : edge.rows = []) : rounds = 0 := by
  have hSettled : (start edge known).delta.rows = [] := by
    simp only [start, hNone, RowSet.extend_nil, RowSet.empty]
  exact (h.unique (.settled hSettled)).1.symm

/-
  The edges are in `path` before the first round, so where
  there is one, some candidate is not missing.
-/
theorem missing_start_lt
    (hLists : Lists edges edge)
    (known : RowSet)
    (hSome : edge.rows ≠ []) :
    (missing edges (start edge known)).card <
      (candidates edges).card := by
  rcases List.exists_mem_of_ne_nil _ hSome with ⟨row, hRow⟩
  rcases hLists.pairs row hRow with ⟨x, z, rfl⟩
  have hFresh : Fresh edge.rows known.rows x z := .edge hRow
  have hStart : Progress edge known (start edge known) :=
    progress_start hLists
  apply Finset.card_lt_card
  refine
    (Finset.ssubset_iff_of_subset (Finset.filter_subset _ _)).mpr
      ⟨(x, z), mem_candidates_of_fresh hLists hFresh, ?_⟩
  exact fun hMissing =>
    (Finset.mem_filter.mp hMissing).2
      (hStart.edge_subset _ hRow)

/-
  Over any edges, with cycles and loops among them, and from
  any `path`, rounds end by themselves.  There are no more of
  them than pairs of a first and a second cell of edges, and
  evaluation answers the state in which they end and their
  number.
-/
theorem rounds_end
    {edge : RowSet}
    (known : RowSet)
    (hPairs : ∀ row ∈ edge.rows, row.length = 2) :
    ∃ edges s rounds,
      edge.rows.mapM ends = .ok edges ∧
      Rounds edges (start edge known) rounds s ∧
      rounds ≤ (edge.cellsAt 0).card * (edge.cellsAt 1).card ∧
      evaluate edge known = .ok (s, rounds) := by
  rcases exists_lists hPairs with ⟨edges, hEdges, hLists⟩
  have hStart : Progress edge known (start edge known) :=
    progress_start hLists
  rcases exists_rounds hLists hStart with
    ⟨rounds, s, hRounds, hBound⟩
  have hFew : rounds ≤ (candidates edges).card := by
    by_cases hNone : edge.rows = []
    · rw [hRounds.eq_zero_of_no_edges hNone]
      exact Nat.zero_le _
    · have hFewer := missing_start_lt hLists known hNone
      omega
  have hLimit : rounds ≤ bound edges + 1 :=
    Nat.le_succ_of_le
      (hFew.trans (card_candidates_le_bound edges))
  refine
    ⟨edges, s, rounds, hEdges, hRounds, ?_,
      hRounds.evaluate_eq hEdges hLimit⟩
  rwa [candidates_eq_product hLists, Finset.card_product] at hFew

/-
  A cycle of two cells that leads on to a loop, and a `path`
  that holds a pair of the cycle and a row of one cell.  Three
  cells come first in an edge, and three come second.
-/
theorem rounds_end_cycle :
    let edge : RowSet :=
      ⟨[[0, 1], [1, 0], [1, 2], [2, 2]], by decide⟩
    let known : RowSet := ⟨[[0, 0], [7]], by decide⟩
    (∀ row ∈ edge.rows, row.length = 2) ∧
      ∃ edges s rounds,
        Rounds edges (start edge known) rounds s ∧
        rounds ≤ 3 * 3 ∧
        evaluate edge known = .ok (s, rounds) := by
  intro edge known
  have hPairs : ∀ row ∈ edge.rows, row.length = 2 := by
    decide
  rcases rounds_end known hPairs with
    ⟨edges, s, rounds, _, hRounds, hBound, hEvaluate⟩
  exact ⟨hPairs, edges, s, rounds, hRounds, hBound, hEvaluate⟩

end Closure

end FactStore
