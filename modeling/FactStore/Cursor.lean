import FactStore.Relation

/-
  This file defines how relations are walked.  A cursor is a
  place in the rows of a relation that is looked up only when
  the cursor is read, so it sees what happened to the rows
  since; a walk goes from one cursor to another.

  Key definitions include:
    * `RelationId`
    * `Cursor`
    * `Cursor.get`, `Cursor.advance`
    * `Walk`
    * `Walk.next`
    * `Walk.rest`
-/

namespace FactStore

/- The name under which a store keeps a relation. -/
structure RelationId where
  index : Nat
deriving DecidableEq, Repr, Inhabited

------------------------------------------------------------
-- Cursors
------------------------------------------------------------

/-
  A cursor points at an offset in a relation, or at nothing
  at all.  Two cursors are equal when they point alike.
-/
inductive Cursor where
| placeholder
| row (relation : RelationId) (offset : Nat)
deriving DecidableEq, Repr

namespace Cursor

/- Whether a cursor points at nothing. -/
def isPlaceholder : Cursor → Bool
| placeholder => true
| .row _ _ => false

/- The text that stands for the cursor that points at nothing. -/
def placeholderText : String :=
  "RelationIter(<placeholder>)"

/- The next place, whether or not there is a row. -/
def advance : Cursor → Except Violation Cursor
| placeholder => .error .placeholderAdvanced
| .row relation offset => .ok (.row relation (offset + 1))

/- The tuple under a cursor, as the relation is now. -/
def get
    (relation : RelationId → Relation) :
    Cursor → Except Violation Tuple
| placeholder => .error .placeholderRead
| .row id offset => (relation id).tupleAt offset

end Cursor

------------------------------------------------------------
-- Walks
------------------------------------------------------------

/- A walk from a current cursor to one where it stops. -/
structure Walk where
  current : Cursor
  stop : Cursor
deriving DecidableEq, Repr

namespace Walk

/-
  The next tuple of a walk, or none at its end.  A walk whose
  current place cannot be read stays there.
-/
def next
    (relation : RelationId → Relation)
    (w : Walk) : Except Violation (Option Tuple) × Walk :=
  if w.current = w.stop then (.ok none, w)
  else
    match w.current.get relation with
    | .error v => (.error v, w)
    | .ok t =>
        match w.current.advance with
        | .error v => (.error v, w)
        | .ok current => (.ok (some t), { w with current })

/- Take the tuples of a walk, at most so many. -/
def take
    (relation : RelationId → Relation) :
    Nat → Walk → Except Violation (List Tuple) × Walk
| 0, w => (.ok [], w)
| n + 1, w =>
    match w.next relation with
    | (.error v, w') => (.error v, w')
    | (.ok none, w') => (.ok [], w')
    | (.ok (some t), w') =>
        let (outcome, w'') := take relation n w'
        (outcome.map (t :: ·), w'')

/-
  The tuples that a walk has left.  Behind the last row there
  is nothing to read, so one step more than there are rows
  behind the current place reaches the end either way.
-/
def rest
    (relation : RelationId → Relation)
    (w : Walk) : Except Violation (List Tuple) × Walk :=
  match w.current with
  | .placeholder => w.take relation 1
  | .row id _ => w.take relation ((relation id).size + 1)

end Walk

end FactStore
