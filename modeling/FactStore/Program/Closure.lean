import FactStore.RowSet
import FactStore.Violation

/-
  This file defines the evaluation of the two rules

    path(x, y) :- edge(x, y).
    path(x, z) :- path(x, y), edge(y, z).

  in rounds.  Only the rows derived in the last round are
  joined with the edges in the next one, and rows that `path`
  holds already are not derived again.

  Key definitions include:
    * `Closure.Edges`
    * `Closure.State`
    * `Closure.derive`
    * `Closure.round`
    * `Closure.start`
    * `Closure.bound`
    * `Closure.evaluate`
-/

namespace FactStore

namespace Closure

------------------------------------------------------------
-- Edges
------------------------------------------------------------

/- The edges of a graph, each from its first to its second cell. -/
abbrev Edges := List (Cell × Cell)

/- The first two cells of a row. -/
def ends : Row → Except Violation (Cell × Cell)
| x :: y :: _ => .ok (x, y)
| [_] => .error (.indexOutOfBounds 1 1)
| [] => .error (.indexOutOfBounds 0 0)

/- The cells that the edges from a cell lead to. -/
def successors
    (edges : Edges)
    (y : Cell) : List Cell :=
  (edges.filter fun e => e.1 = y).map (·.2)

/- The number of pairs of a first and a second cell of edges. -/
def bound (edges : Edges) : Nat :=
  (edges.map (·.1)).eraseDups.length *
    (edges.map (·.2)).eraseDups.length

------------------------------------------------------------
-- Rounds
------------------------------------------------------------

/- What is known between two rounds. -/
structure State where
  path : RowSet
  delta : RowSet
deriving DecidableEq, Repr

/- The rows that one edge adds to the end of a row. -/
def extensions
    (edges : Edges) :
    Row → List Row
| x :: y :: _ => (successors edges y).map fun z => [x, z]
| _ => []

/-
  The rows that the last round's rows lead to and that `path`
  does not hold, in any number.
-/
def derive
    (edges : Edges)
    (s : State) : List Row :=
  (s.delta.rows.flatMap (extensions edges)).filter
    fun row => !s.path.contains row

/- One round: what is derived is new, and is joined next. -/
def round
    (edges : Edges)
    (s : State) : State :=
  let derived := derive edges s
  ⟨s.path.extend derived, RowSet.empty.extend derived⟩

/- The state before the first round. -/
def start
    (edge path : RowSet) : State :=
  ⟨path.extend edge.rows, RowSet.empty.extend edge.rows⟩

/-
  Run rounds until one derives nothing, at most so many; the
  answer counts them.
-/
def saturate
    (edges : Edges) :
    Nat → State → State × Nat
| 0, s => (s, 0)
| n + 1, s =>
    if s.delta.rows.isEmpty then (s, 0)
    else
      let (s', rounds) := saturate edges n (round edges s)
      (s', rounds + 1)

/-
  Evaluate the rules from the rows that `path` holds.  The
  rounds before the last each add to `path` a pair of a first
  and a second cell of edges, so the bound is never short.
-/
def evaluate
    (edge path : RowSet) :
    Except Violation (State × Nat) := do
  let edges ← edge.rows.mapM ends
  return saturate edges (bound edges + 1) (start edge path)

end Closure

end FactStore
