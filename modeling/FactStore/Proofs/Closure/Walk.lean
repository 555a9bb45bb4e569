import FactStore.Program.Closure
import Mathlib.Logic.Relation

/-
  This file defines the pairs of cells that the edges of a
  graph join, and those among them that are reached when
  extending a walk stops at a pair that is known already.

  Key definitions include:
    * `Closure.Joined`
    * `Closure.Fresh`

  Main statements include:
    * `Closure.Fresh.of_subset`
    * `Closure.fresh_iff_joined_of_empty`
    * `Closure.joined_known_or_fresh_iff`
-/

namespace FactStore

namespace Closure

------------------------------------------------------------
-- Walks
------------------------------------------------------------

/- A walk of one or more edges joins two cells. -/
def Joined (edge : List Row) : Cell → Cell → Prop :=
  Relation.TransGen fun x z => [x, z] ∈ edge

/-
  The pairs derived from the edges when a pair that is known
  already is not derived again.  An edge counts as derived
  whether or not it is known.
-/
inductive Fresh
    (edge known : List Row)
    (x : Cell) : Cell → Prop where
| edge {z : Cell} :
    [x, z] ∈ edge → Fresh edge known x z
| step {y z : Cell} :
    Fresh edge known x y → [y, z] ∈ edge →
      [x, z] ∉ known → Fresh edge known x z

/- What is derived from the edges is joined by them. -/
theorem joined_of_fresh
    {edge known : List Row}
    {x z : Cell}
    (h : Fresh edge known x z) : Joined edge x z := by
  induction h with
  | edge hEdge => exact Relation.TransGen.single hEdge
  | step _ hEdge _ ih => exact Relation.TransGen.tail ih hEdge

/- A derived pair that is known is an edge. -/
theorem edge_of_fresh_of_known
    {edge known : List Row}
    {x z : Cell}
    (h : Fresh edge known x z)
    (hKnown : [x, z] ∈ known) : [x, z] ∈ edge := by
  cases h with
  | edge hEdge => exact hEdge
  | step _ _ hNot => exact absurd hKnown hNot

/- What is derived when more is known is derived when less is. -/
theorem Fresh.of_subset
    {edge known known' : List Row}
    (hSubset : ∀ row ∈ known, row ∈ known')
    {x z : Cell}
    (h : Fresh edge known' x z) : Fresh edge known x z := by
  induction h with
  | edge hEdge => exact Fresh.edge hEdge
  | step _ hEdge hNew ih =>
      exact Fresh.step ih hEdge fun hKnown =>
        hNew (hSubset _ hKnown)

/- Where nothing is known, every joined pair is derived. -/
theorem fresh_iff_joined_of_empty
    {edge known : List Row}
    (hEmpty : known = [])
    (x z : Cell) :
    Fresh edge known x z ↔ Joined edge x z := by
  refine ⟨joined_of_fresh, ?_⟩
  intro h
  induction h with
  | single hEdge => exact Fresh.edge hEdge
  | tail _ hEdge ih =>
      apply Fresh.step ih hEdge
      simp [hEmpty]

------------------------------------------------------------
-- Gaps
------------------------------------------------------------

/-
  Each joined pair that is known, extended by one edge, gives
  a pair that is known or derived.
-/
def NoGap (edge known : List Row) : Prop :=
  ∀ x y z : Cell,
    [x, y] ∈ known → Joined edge x y → [y, z] ∈ edge →
      [x, z] ∈ known ∨ Fresh edge known x z

/-
  Every joined pair is known or derived exactly when no known
  pair leaves a gap behind it.
-/
theorem joined_known_or_fresh_iff
    (edge known : List Row) :
    (∀ x z, Joined edge x z →
        [x, z] ∈ known ∨ Fresh edge known x z) ↔
      NoGap edge known := by
  constructor
  · intro hAll x y z _ hJoined hEdge
    exact hAll x z (Relation.TransGen.tail hJoined hEdge)
  · intro hGap x z hJoined
    induction hJoined with
    | single hEdge => exact Or.inr (Fresh.edge hEdge)
    | @tail y z hWalk hEdge ih =>
        rcases ih with hKnown | hFresh
        · exact hGap x y z hKnown hWalk hEdge
        · by_cases hZ : [x, z] ∈ known
          · exact Or.inl hZ
          · exact Or.inr (Fresh.step hFresh hEdge hZ)

end Closure

end FactStore
