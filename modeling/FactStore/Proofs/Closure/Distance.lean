import Mathlib
import FactStore.Proofs.Closure.Rounds

/-
  This file proves that the rounds of an evaluation follow
  the lengths of shortest walks.  Where nothing is known to
  begin with, a round joins just the pairs that are one edge
  farther apart than those of the round before, and there are
  as many rounds as the longest of the shortest walks has
  edges.

  Key definitions include:
    * `Closure.Leads`
    * `Closure.Distance`
    * `Closure.Reaches`
    * `Closure.Layered`

  Main statements include:
    * `Closure.distance_succ_iff`
    * `Closure.joined_iff_exists_distance`
    * `Closure.layered_round`
    * `Closure.Reaches.layered`
    * `Closure.rounds_follow_distance`
-/

namespace FactStore

namespace Closure

variable {edges : Edges}
variable {edge : RowSet}

------------------------------------------------------------
-- Lengths of Walks
------------------------------------------------------------

/- A walk of so many edges leads from a cell to another. -/
def Leads (edge : RowSet) : Nat → Cell → Cell → Prop
| 0, x, z => x = z
| n + 1, x, z => ∃ y, Leads edge n x y ∧ [y, z] ∈ edge

/-
  The shortest walk between two cells that has an edge has so
  many edges.  From a cell to itself it leads round a cycle.
-/
def Distance
    (edge : RowSet)
    (x z : Cell)
    (n : Nat) : Prop :=
  IsLeast {m | 0 < m ∧ Leads edge m x z} n

/- Where a walk leads, no shortest walk is longer. -/
theorem exists_distance
    {x z : Cell}
    {n : Nat}
    (hPositive : 0 < n)
    (h : Leads edge n x z) : ∃ m ≤ n, Distance edge x z m := by
  have hSome : {m | 0 < m ∧ Leads edge m x z}.Nonempty :=
    ⟨n, hPositive, h⟩
  exact
    ⟨sInf {m | 0 < m ∧ Leads edge m x z},
      Nat.sInf_le ⟨hPositive, h⟩, Nat.sInf_mem hSome,
      fun _ hm => Nat.sInf_le hm⟩

theorem leads_one_iff {x z : Cell} :
    Leads edge 1 x z ↔ [x, z] ∈ edge := by
  simp [Leads]

theorem distance_one_iff {x z : Cell} :
    Distance edge x z 1 ↔ [x, z] ∈ edge := by
  constructor
  · exact fun h => leads_one_iff.mp h.1.2
  · intro h
    exact ⟨⟨Nat.one_pos, leads_one_iff.mpr h⟩, fun _ hm => hm.1⟩

/-
  The cells at a distance of more than one edge are those
  that one edge leads to from a cell one edge nearer, and
  that are not nearer themselves.
-/
theorem distance_succ_iff
    {x z : Cell}
    {k : Nat} :
    Distance edge x z (k + 2) ↔
      (∃ y, Distance edge x y (k + 1) ∧ [y, z] ∈ edge) ∧
        ∀ n ≤ k + 1, ¬ Distance edge x z n := by
  constructor
  · rintro ⟨⟨_, y, hLeads, hEdge⟩, hLeast⟩
    refine ⟨⟨y, ⟨⟨Nat.succ_pos k, hLeads⟩, ?_⟩, hEdge⟩, ?_⟩
    · -- A shorter walk to `y` would give one to `z`.
      rintro m ⟨hPositive, hShorter⟩
      have hLonger := hLeast ⟨Nat.succ_pos m, y, hShorter, hEdge⟩
      omega
    · intro n hNear hDistance
      have hLonger := hLeast hDistance.1
      omega
  · rintro ⟨⟨y, hDistance, hEdge⟩, hFar⟩
    refine ⟨⟨Nat.succ_pos _, y, hDistance.1.2, hEdge⟩, ?_⟩
    rintro m ⟨hPositive, hShorter⟩
    by_contra hLess
    rcases exists_distance hPositive hShorter with ⟨n, hn, hNear⟩
    exact hFar n (by omega) hNear

/- On a shortest walk every shorter distance occurs. -/
theorem Distance.exists_nearer
    {x z : Cell}
    {n m : Nat}
    (h : Distance edge x z n)
    (hPositive : 0 < m)
    (hLe : m ≤ n) : ∃ y, Distance edge x y m := by
  induction n generalizing z with
  | zero => omega
  | succ n ih =>
      rcases Nat.le_or_eq_of_le_succ hLe with hNearer | rfl
      · cases n with
        | zero => omega
        | succ n =>
            rcases (distance_succ_iff.mp h).1 with ⟨y, hNear, _⟩
            exact ih hNear hNearer
      · exact ⟨z, h⟩

theorem leads_of_joined
    {x z : Cell}
    (h : Joined edge.rows x z) : ∃ n, Leads edge (n + 1) x z := by
  induction h with
  | single hEdge => exact ⟨0, leads_one_iff.mpr hEdge⟩
  | tail _ hEdge ih =>
      rcases ih with ⟨n, hLeads⟩
      exact ⟨n + 1, _, hLeads, hEdge⟩

theorem joined_of_leads
    {x z : Cell}
    {n : Nat}
    (h : Leads edge (n + 1) x z) : Joined edge.rows x z := by
  induction n generalizing z with
  | zero => exact .single (leads_one_iff.mp h)
  | succ n ih =>
      rcases h with ⟨y, hLeads, hEdge⟩
      exact .tail (ih hLeads) hEdge

/- Cells are joined exactly when they are at some distance. -/
theorem joined_iff_exists_distance {x z : Cell} :
    Joined edge.rows x z ↔ ∃ n, Distance edge x z n := by
  constructor
  · intro hJoined
    rcases leads_of_joined hJoined with ⟨n, hLeads⟩
    rcases exists_distance (Nat.succ_pos n) hLeads with
      ⟨m, _, hDistance⟩
    exact ⟨m, hDistance⟩
  · rintro ⟨n, ⟨hPositive, hLeads⟩, _⟩
    rw [← Nat.succ_pred_eq_of_pos hPositive] at hLeads
    exact joined_of_leads hLeads

------------------------------------------------------------
-- States at the Start of Rounds
------------------------------------------------------------

/-
  The states in which rounds start, each with the number of
  rounds before it.  The last is the one that leaves nothing
  to join.
-/
inductive Reaches
    (edges : Edges)
    (first : State) : Nat → State → Prop where
| first : Reaches edges first 0 first
| next {k : Nat} {s : State} :
    Reaches edges first k s → s.delta.rows ≠ [] →
      Reaches edges first (k + 1) (round edges s)

/- Rounds end in the state that they reach. -/
theorem Reaches.of_rounds
    {first s s' : State}
    {k rounds : Nat}
    (h : Reaches edges first k s)
    (hRounds : Rounds edges s rounds s') :
    Reaches edges first (k + rounds) s' := by
  induction hRounds generalizing k with
  | settled _ => exact h
  | @next s s' rounds hWaiting _ ih =>
      have hRest := ih (h.next hWaiting)
      rwa [Nat.add_right_comm] at hRest

/- A round starts only if all rounds before it start. -/
theorem Reaches.exists_before
    {first s : State}
    {k : Nat}
    (h : Reaches edges first k s)
    {j : Nat}
    (hLe : j ≤ k) : ∃ s', Reaches edges first j s' := by
  induction h with
  | first =>
      rw [Nat.le_zero.mp hLe]
      exact ⟨_, .first⟩
  | @next k s h hWaiting ih =>
      rcases Nat.le_or_eq_of_le_succ hLe with hBefore | rfl
      · exact ih hBefore
      · exact ⟨_, h.next hWaiting⟩

------------------------------------------------------------
-- Layers of Pairs
------------------------------------------------------------

/-
  What holds at the start of a round when nothing was known
  to begin with: the pairs to be joined are those at a
  distance of one edge more than there were rounds, and
  `path` holds these and all that are nearer.
-/
structure Layered
    (edge : RowSet)
    (k : Nat)
    (s : State) : Prop where
  delta_iff :
    ∀ row, row ∈ s.delta ↔
      ∃ x z, row = [x, z] ∧ Distance edge x z (k + 1)
  path_iff :
    ∀ row, row ∈ s.path ↔
      ∃ x z, row = [x, z] ∧ ∃ n ≤ k + 1, Distance edge x z n

/- Before the first round `path` and `delta` hold the edges. -/
theorem layered_start
    (hLists : Lists edges edge) :
    Layered edge 0 (start edge RowSet.empty) := by
  have hEdges :
      ∀ row, row ∈ edge ↔
        ∃ x z, row = [x, z] ∧ Distance edge x z 1 := by
    intro row
    constructor
    · intro hRow
      rcases hLists.pairs row hRow with ⟨x, z, rfl⟩
      exact ⟨x, z, rfl, distance_one_iff.mpr hRow⟩
    · rintro ⟨x, z, rfl, hDistance⟩
      exact distance_one_iff.mp hDistance
  have hNearest :
      ∀ x z, (∃ n ≤ 1, Distance edge x z n) ↔
        Distance edge x z 1 := by
    intro x z
    constructor
    · rintro ⟨n, hn, hDistance⟩
      have hPositive : 0 < n := hDistance.1.1
      rwa [show n = 1 by omega] at hDistance
    · exact fun hDistance => ⟨1, Nat.le_refl 1, hDistance⟩
  refine ⟨fun row => ?_, fun row => ?_⟩
  · rw [← hEdges row]
    simp [start, ← RowSet.mem_def]
  · simp only [Nat.zero_add, hNearest]
    rw [← hEdges row]
    simp [start, ← RowSet.mem_def]

/- What a round derives is one edge farther than what it joins. -/
theorem Layered.mem_derive_iff
    {k : Nat}
    {s : State}
    (h : Layered edge k s)
    (hLists : Lists edges edge)
    (row : Row) :
    row ∈ derive edges s ↔
      ∃ x z, row = [x, z] ∧ Distance edge x z (k + 2) := by
  rw [mem_derive]
  constructor
  · rintro ⟨⟨r, hr, hExtension⟩, hNew⟩
    rcases (h.delta_iff r).mp hr with ⟨x, y, rfl, hDistance⟩
    rcases mem_extensions_pair.mp hExtension with ⟨z, hEdge, rfl⟩
    have hEdge := (hLists.mem_iff y z).mp hEdge
    refine
      ⟨x, z, rfl,
        distance_succ_iff.mpr ⟨⟨y, hDistance, hEdge⟩, ?_⟩⟩
    intro n hn hNear
    exact hNew ((h.path_iff _).mpr ⟨x, z, rfl, n, hn, hNear⟩)
  · rintro ⟨x, z, rfl, hDistance⟩
    rcases distance_succ_iff.mp hDistance with
      ⟨⟨y, hNear, hEdge⟩, hFar⟩
    have hEdge := (hLists.mem_iff y z).mpr hEdge
    refine
      ⟨⟨[x, y], (h.delta_iff _).mpr ⟨x, y, rfl, hNear⟩,
        mem_extensions_pair.mpr ⟨z, hEdge, rfl⟩⟩, ?_⟩
    intro hOld
    rcases (h.path_iff _).mp hOld with
      ⟨x', z', hSame, n, hn, hNearer⟩
    cases hSame
    exact hFar n hn hNearer

/- A round leads from one layer to the next. -/
theorem layered_round
    {k : Nat}
    {s : State}
    (hLists : Lists edges edge)
    (h : Layered edge k s) :
    Layered edge (k + 1) (round edges s) where
  delta_iff := fun row =>
    mem_round_delta.trans (h.mem_derive_iff hLists row)
  path_iff := by
    intro row
    rw [mem_round_path, h.path_iff, h.mem_derive_iff hLists]
    constructor
    · rintro
        (⟨x, z, rfl, n, hn, hDistance⟩ | ⟨x, z, rfl, hDistance⟩)
      · exact ⟨x, z, rfl, n, Nat.le_succ_of_le hn, hDistance⟩
      · exact ⟨x, z, rfl, k + 2, Nat.le_refl _, hDistance⟩
    · rintro ⟨x, z, rfl, n, hn, hDistance⟩
      rcases Nat.le_or_eq_of_le_succ hn with hNear | rfl
      · exact Or.inl ⟨x, z, rfl, n, hNear, hDistance⟩
      · exact Or.inr ⟨x, z, rfl, hDistance⟩

theorem Reaches.layered
    {k : Nat}
    {s : State}
    (h : Reaches edges (start edge RowSet.empty) k s)
    (hLists : Lists edges edge) : Layered edge k s := by
  induction h with
  | first => exact layered_start hLists
  | next _ _ ih => exact layered_round hLists ih

/- A pair is in one layer only. -/
theorem Layered.eq_of_mem_delta
    {j k : Nat}
    {s s' : State}
    {row : Row}
    (h : Layered edge j s)
    (h' : Layered edge k s')
    (hRow : row ∈ s.delta)
    (hRow' : row ∈ s'.delta) : j = k := by
  rcases (h.delta_iff row).mp hRow with ⟨x, z, rfl, hDistance⟩
  rcases (h'.delta_iff _).mp hRow' with
    ⟨x', z', hSame, hDistance'⟩
  cases hSame
  exact Nat.succ.inj (hDistance.unique hDistance')

/- Where nothing is left to join, no pair is farther apart. -/
theorem Layered.le_of_settled
    {k n : Nat}
    {s : State}
    {x z : Cell}
    (h : Layered edge k s)
    (hSettled : s.delta.rows = [])
    (hDistance : Distance edge x z n) : n ≤ k := by
  by_contra hFarther
  rcases
      hDistance.exists_nearer (Nat.succ_pos k)
        (Nat.lt_of_not_le hFarther) with
    ⟨y, hNext⟩
  have hWaiting : [x, y] ∈ s.delta :=
    (h.delta_iff _).mpr ⟨x, y, rfl, hNext⟩
  rw [RowSet.mem_def, hSettled] at hWaiting
  cases hWaiting

------------------------------------------------------------
-- The Number of Rounds
------------------------------------------------------------

/- Where `delta` holds something, a pair is that far apart. -/
theorem Layered.exists_distance
    {k : Nat}
    {s : State}
    (h : Layered edge k s)
    (hWaiting : s.delta.rows ≠ []) :
    ∃ x z, Distance edge x z (k + 1) := by
  rcases List.exists_mem_of_ne_nil _ hWaiting with ⟨row, hRow⟩
  rcases (h.delta_iff row).mp hRow with ⟨x, z, _, hDistance⟩
  exact ⟨x, z, hDistance⟩

/- After so many rounds some pair is as many edges apart. -/
theorem Reaches.exists_distance
    {k : Nat}
    {s : State}
    (h : Reaches edges (start edge RowSet.empty) k s)
    (hLists : Lists edges edge)
    (hPositive : k ≠ 0) : ∃ x z, Distance edge x z k := by
  cases h with
  | first => exact absurd rfl hPositive
  | next hBefore hWaiting =>
      exact (hBefore.layered hLists).exists_distance hWaiting

/-
  Over any edges, and with nothing known to begin with, a
  round starts with just those pairs in `delta` whose shortest
  walk has one edge more than there were rounds, and with
  those and all nearer ones in `path`.  So no pair is joined
  in two rounds, and there are as many rounds as the longest
  of the shortest walks between any two cells has edges.
-/
theorem rounds_follow_distance
    {edge : RowSet}
    (hPairs : ∀ row ∈ edge.rows, row.length = 2) :
    ∃ edges s rounds,
      edge.rows.mapM ends = .ok edges ∧
      evaluate edge RowSet.empty = .ok (s, rounds) ∧
      s.delta.rows = [] ∧
      Reaches edges (start edge RowSet.empty) rounds s ∧
      (∀ k,
        (∃ s', Reaches edges (start edge RowSet.empty) k s') ↔
          k ≤ rounds) ∧
      (∀ k s', Reaches edges (start edge RowSet.empty) k s' →
        Layered edge k s') ∧
      (∀ j k s' s'' row,
        Reaches edges (start edge RowSet.empty) j s' →
        Reaches edges (start edge RowSet.empty) k s'' →
          row ∈ s'.delta → row ∈ s''.delta → j = k) ∧
      (edge.rows = [] → rounds = 0) ∧
      (edge.rows ≠ [] →
        IsGreatest {n | ∃ x z, Distance edge x z n} rounds) := by
  rcases exists_rounds_evaluate RowSet.empty hPairs with
    ⟨edges, s, rounds, hEdges, hLists, hRounds, hEvaluate⟩
  have hReaches :
      Reaches edges (start edge RowSet.empty) rounds s := by
    have hRest := Reaches.first.of_rounds hRounds
    rwa [Nat.zero_add] at hRest
  have hLast :
      ∀ {x z n}, Distance edge x z n → n ≤ rounds :=
    (hReaches.layered hLists).le_of_settled hRounds.settles
  refine
    ⟨edges, s, rounds, hEdges, hEvaluate, hRounds.settles,
      hReaches, ?_, fun k s' h => h.layered hLists, ?_, ?_, ?_⟩
  · intro k
    constructor
    · rintro ⟨s', h⟩
      by_cases hZero : k = 0
      · exact hZero ▸ Nat.zero_le _
      · rcases h.exists_distance hLists hZero with
          ⟨x, z, hDistance⟩
        exact hLast hDistance
    · exact hReaches.exists_before
  · intro j k s' s'' row h h' hRow hRow'
    exact
      (h.layered hLists).eq_of_mem_delta (h'.layered hLists)
        hRow hRow'
  · exact hRounds.eq_zero_of_no_edges
  · intro hSome
    have hPositive : rounds ≠ 0 := by
      rcases List.exists_mem_of_ne_nil _ hSome with ⟨row, hRow⟩
      rcases hLists.pairs row hRow with ⟨x, z, rfl⟩
      have hEdge := hLast (distance_one_iff.mpr hRow)
      omega
    refine ⟨hReaches.exists_distance hLists hPositive, ?_⟩
    rintro n ⟨x, z, hDistance⟩
    exact hLast hDistance

/-
  A cycle of two cells that leads on to a loop.  From a cell
  of the cycle to itself it is two edges, and to the loop.
-/
theorem rounds_follow_distance_cycle :
    let edge : RowSet :=
      ⟨[[0, 1], [1, 0], [1, 2], [2, 2]], by decide⟩
    (∀ row ∈ edge.rows, row.length = 2) ∧
      (∃ s, evaluate edge RowSet.empty = .ok (s, 2)) ∧
      IsGreatest {n | ∃ x z, Distance edge x z n} 2 := by
  intro edge
  have hPairs : ∀ row ∈ edge.rows, row.length = 2 := by
    decide
  have hTwo :
      (evaluate edge RowSet.empty).map (·.2) = .ok 2 := by cbv
  rcases rounds_follow_distance hPairs with
    ⟨_, s, rounds, _, hEvaluate, _, _, _, _, _, _, hGreatest⟩
  rw [hEvaluate] at hTwo
  cases hTwo
  exact ⟨hPairs, ⟨s, hEvaluate⟩, hGreatest (List.cons_ne_nil _ _)⟩

end Closure

end FactStore
