import FactStore.Proofs.Relation.Walk
import FactStore.Proofs.Store.Growth
import Mathlib.Data.List.Perm.Subperm

/-
  This file proves what a walk yields while rows are stored in
  its relation.  Where a walk stops is settled when it begins,
  so it takes as many steps as there were rows then.  What a
  step yields is settled when the step is taken: it is the row
  that has the number of the step at that moment.

  Key definitions include:
    * `Cursor.advanceBy`
    * `Relation.Change.Grows`, `Relation.Serves`
    * `Store.change`
    * `Walk.Event`, `Walk.follow`, `Walk.answers`

  Main statements include:
    * `Relation.Serves.change`
    * `Walk.follow_of_serves`
    * `Walk.yields_while_growing`
-/

namespace FactStore

------------------------------------------------------------
-- Moving Cursors
------------------------------------------------------------

namespace Cursor

/- A cursor moved on by so many places. -/
def advanceBy : Nat → Cursor → Except Violation Cursor
| 0, c => .ok c
| n + 1, c => c.advance.bind (advanceBy n)

/- A cursor of a relation moves on without an end. -/
theorem advanceBy_row
    (id : RelationId)
    (n offset : Nat) :
    advanceBy n (.row id offset) = .ok (.row id (offset + n)) := by
  induction n generalizing offset with
  | zero => rfl
  | succ n ih =>
      change advanceBy n (.row id (offset + 1)) = _
      rw [ih, Nat.add_assoc, Nat.add_comm 1 n]

end Cursor

------------------------------------------------------------
-- Growing Relations
------------------------------------------------------------

namespace Relation

/-
  A change that removes nothing and stores no row of another
  width than the schema.
-/
structure Change.Grows
    (schema : Schema)
    (c : Change) : Prop where
  keeps : c ≠ .purge
  wide : ∀ row ∈ c.extension, row.length = schema.arity

/-
  A set of rows, all as wide as its schema, that a walk can
  read at every offset before the one where it stops.
-/
structure Serves
    (schema : Schema)
    (table : TableId)
    (stop : Nat)
    (r : Relation) : Prop where
  schema : r.schema = schema
  table : r.table = table
  memory : r.IsMemory
  uniform : r.Uniform
  size : stop ≤ r.size

variable {schema : Schema}
variable {table : TableId}
variable {stop : Nat}
variable {r : Relation}

/- The row at such an offset is found and is a tuple. -/
theorem Serves.exists_ofStored
    (h : r.Serves schema table stop)
    {offset : Nat}
    (hLt : offset < stop) :
    ∃ hRow : offset < r.rows.length,
      Tuple.ofStored r.schema r.table r.rows[offset] =
        .ok ⟨schema, table, r.rows[offset], 0⟩ := by
  have hRow : offset < r.rows.length :=
    Nat.lt_of_lt_of_le hLt h.size
  have hWide : r.rows[offset].length = r.schema.arity :=
    h.uniform _ (List.getElem_mem hRow)
  refine ⟨hRow, ?_⟩
  rw [Tuple.ofStored, if_pos hWide, h.schema, h.table]

/- A set of rows loses none of them but by a purge. -/
theorem IsMemory.rows_subset_after
    (h : r.IsMemory)
    {c : Change}
    (hKeeps : c ≠ .purge) : r.rows ⊆ (r.after c).rows := by
  rcases r with ⟨schema, table, storage⟩
  rcases h with ⟨rows, rfl⟩
  rcases after_memory schema table rows c with
    ⟨rows', hAfter, hMem⟩
  intro row hRow
  rw [hAfter]
  exact (hMem row).mpr (Or.inl ⟨hKeeps, hRow⟩)

/- What it takes is as wide as its rows were. -/
theorem IsMemory.uniform_after
    (h : r.IsMemory)
    (hUniform : r.Uniform)
    {c : Change}
    (hWide : ∀ row ∈ c.extension, row.length = r.arity) :
    (r.after c).Uniform := by
  rcases r with ⟨schema, table, storage⟩
  rcases h with ⟨rows, rfl⟩
  rcases after_memory schema table rows c with
    ⟨rows', hAfter, hMem⟩
  have hGiven :
      ∀ row ∈ c.given schema, row.length = schema.arity :=
    (c.forall_given_iff_forall_extension schema).mpr hWide
  intro row hRow
  rw [hAfter] at hRow ⊢
  rcases (hMem row).mp hRow with ⟨_, hOld⟩ | hNew
  · exact hUniform row hOld
  · exact hGiven row hNew

/- What a walk can read, it can read after such a change. -/
theorem Serves.change
    (h : r.Serves schema table stop)
    {c : Change}
    (hGrows : c.Grows schema) :
    (r.after c).Serves schema table stop := by
  rcases h.memory.after c with ⟨hSchema, hTable, hMemory⟩
  have hWide :
      ∀ row ∈ c.extension, row.length = r.arity := by
    rw [arity, h.schema]
    exact hGrows.wide
  have hSize : r.size ≤ (r.after c).size := by
    apply List.Subperm.length_le
    apply h.memory.nodup_rows.subperm
    exact h.memory.rows_subset_after hGrows.keeps
  constructor
  case schema => exact hSchema.trans h.schema
  case table => exact hTable.trans h.table
  case memory => exact hMemory
  case uniform => exact h.memory.uniform_after h.uniform hWide
  case size => exact h.size.trans hSize

end Relation

------------------------------------------------------------
-- Changes in a Store
------------------------------------------------------------

namespace Store

/- The store after a change, whether or not it is refused. -/
def change
    (s : Store)
    (id : RelationId) : Relation.Change → Store
| .insertRow row => (Action.run (Action.insertCells id row) s).2
| .insert t => (Action.run (Action.insert id t) s).2
| .extendRows rows =>
    (Action.run (Action.extendCells id rows) s).2
| .purge => (Action.run (Action.purge id) s).2

/- A change is made to the relation with its id. -/
theorem change_eq_setRelation
    (s : Store)
    (id : RelationId)
    (c : Relation.Change) :
    s.change id c =
      s.setRelation id ((s.relation id).after c) := by
  cases c with
  | insertRow row =>
      simp only [change, Action.insertCells, Action.run_bind,
        Action.run_relation, Action.run_ofOutcome,
        Relation.after, Relation.change]
      cases (s.relation id).insertRow row with
      | ok found => rfl
      | error v => exact (s.setRelation_relation id).symm
  | insert t =>
      simp only [change, Action.run_insert, Relation.after,
        Relation.change]
      cases (s.relation id).insert t with
      | ok r' => rfl
      | error v => exact (s.setRelation_relation id).symm
  | extendRows rows => rfl
  | purge => rfl

/- What a walk can read in a store, it can read after growth. -/
theorem serves_change
    {s : Store}
    {id : RelationId}
    {schema : Schema}
    {table : TableId}
    {stop : Nat}
    (h : (s.relation id).Serves schema table stop)
    {c : Relation.Change}
    (hGrows : c.Grows schema) :
    ((s.change id c).relation id).Serves schema table stop := by
  rw [change_eq_setRelation]
  rcases s.relation_setRelation_or id _ id with
    ⟨-, hNew⟩ | hOld
  · rw [hNew]
    exact h.change hGrows
  · rw [hOld]
    exact h

end Store

------------------------------------------------------------
-- Events
------------------------------------------------------------

namespace Walk

/- What happens while a walk over a relation is under way. -/
inductive Event where
| next
| change (c : Relation.Change)
deriving DecidableEq, Repr

/- What a step answers, and the rows when it was taken. -/
structure Answer where
  outcome : Except Violation (Option Tuple)
  rows : List Row

/- The store and the walk after events. -/
def follow (id : RelationId) :
    List Event → Store → Walk → Store × Walk
| [], s, w => (s, w)
| .next :: events, s, w =>
    follow id events s (w.next s.relation).2
| .change c :: events, s, w =>
    follow id events (s.change id c) w

/- What the steps among events answer. -/
def answers (id : RelationId) :
    List Event → Store → Walk → List Answer
| [], _, _ => []
| .next :: events, s, w =>
    ⟨(w.next s.relation).1, (s.relation id).rows⟩ ::
      answers id events s (w.next s.relation).2
| .change c :: events, s, w =>
    answers id events (s.change id c) w

variable {id : RelationId}

/- Every step is answered. -/
theorem length_answers
    (events : List Event)
    (s : Store)
    (w : Walk) :
    (answers id events s w).length = events.count .next := by
  induction events generalizing s w with
  | nil => rfl
  | cons event events ih =>
      cases event with
      | next =>
          rw [answers, List.length_cons, ih,
            List.count_cons_self]
      | change c =>
          rw [answers, ih, List.count_cons_of_ne]
          exact Event.noConfusion

/- Later events go on from where earlier ones led. -/
theorem answers_append
    (events later : List Event)
    (s : Store)
    (w : Walk) :
    answers id (events ++ later) s w =
      answers id events s w ++
        answers id later (follow id events s w).1
          (follow id events s w).2 := by
  induction events generalizing s w with
  | nil => rfl
  | cons event events ih =>
      cases event with
      | next =>
          exact congrArg (_ :: ·) (ih _ _)
      | change c => exact ih _ _

/- A walk that has stopped yields nothing, whatever happens. -/
theorem answers_of_stopped
    (events : List Event)
    (s : Store)
    (stop : Cursor) :
    ∀ a ∈ answers id events s ⟨stop, stop⟩,
      a.outcome = .ok none := by
  induction events generalizing s with
  | nil => exact fun _ hMem => absurd hMem List.not_mem_nil
  | cons event events ih =>
      cases event with
      | next =>
          rw [answers, next_at_stop]
          intro a hMem
          rcases List.mem_cons.mp hMem with rfl | hRest
          · rfl
          · exact ih s a hRest
      | change c => exact ih (s.change id c)

------------------------------------------------------------
-- Walks Under Growth
------------------------------------------------------------

/- The right answer to the step with a number. -/
def Answer.IsOfStep
    (schema : Schema)
    (table : TableId)
    (stop number : Nat)
    (a : Answer) : Prop :=
  if number < stop then
    ∃ row, a.rows[number]? = some row ∧
      a.outcome = .ok (some ⟨schema, table, row, 0⟩)
  else a.outcome = .ok none

variable {schema : Schema}
variable {table : TableId}
variable {stop : Nat}
variable {s : Store}
variable {events : List Event}

/-
  Before the walk stops, a step yields the tuple of the row
  at its place and goes to the next place.
-/
theorem next_of_serves
    (h : (s.relation id).Serves schema table stop)
    {offset : Nat}
    (hLt : offset < stop) :
    ∃ row, (s.relation id).rows[offset]? = some row ∧
      next s.relation ⟨.row id offset, .row id stop⟩ =
        (.ok (some ⟨schema, table, row, 0⟩),
          ⟨.row id (offset + 1), .row id stop⟩) := by
  rcases h.exists_ofStored hLt with ⟨hRow, hStored⟩
  refine ⟨(s.relation id).rows[offset], ?_, ?_⟩
  · exact List.getElem?_eq_getElem hRow
  · rw [next_of_lt hLt hRow, hStored]

/-
  While the relation grows a walk moves on by one place with
  each step until it stops, and stays readable.
-/
theorem follow_of_serves
    (hGrows : ∀ c, .change c ∈ events → c.Grows schema) :
    ∀ {s : Store} {offset : Nat},
      (s.relation id).Serves schema table stop →
      offset ≤ stop →
        (follow id events s ⟨.row id offset, .row id stop⟩).2 =
          ⟨.row id (min (offset + events.count .next) stop),
            .row id stop⟩ := by
  induction events with
  | nil =>
      intro s offset _ hLe
      rw [List.count_nil, Nat.add_zero, Nat.min_eq_left hLe]
      rfl
  | cons event events ih =>
      have hRest : ∀ c, .change c ∈ events → c.Grows schema :=
        fun c hMem => hGrows c (List.mem_cons_of_mem _ hMem)
      intro s offset hServes hLe
      cases event with
      | next =>
          rw [follow, List.count_cons_self]
          rcases Nat.lt_or_eq_of_le hLe with hLt | rfl
          · rcases next_of_serves hServes hLt with ⟨_, _, hNext⟩
            have hPlace :
                offset + (events.count .next + 1) =
                  offset + 1 + events.count .next := by
              omega
            rw [hNext, hPlace]
            exact ih hRest hServes hLt
          · rw [next_at_stop, ih hRest hServes hLe]
            simp only [Nat.min_eq_right (Nat.le_add_right _ _)]
      | change c =>
          have hChange : c.Grows schema :=
            hGrows c List.mem_cons_self
          have hOther : Event.change c ≠ .next :=
            Event.noConfusion
          rw [follow, List.count_cons_of_ne hOther]
          exact ih hRest (Store.serves_change hServes hChange) hLe

/- While the relation grows every step is answered rightly. -/
theorem answers_of_serves
    (hGrows : ∀ c, .change c ∈ events → c.Grows schema) :
    ∀ {s : Store} {offset : Nat},
      (s.relation id).Serves schema table stop →
      offset ≤ stop →
        ∀ (k : Nat) (a : Answer),
          (answers id events s
            ⟨.row id offset, .row id stop⟩)[k]? = some a →
          a.IsOfStep schema table stop (offset + k) := by
  induction events with
  | nil =>
      intro s offset _ _ k a hGet
      cases hGet
  | cons event events ih =>
      have hRest : ∀ c, .change c ∈ events → c.Grows schema :=
        fun c hMem => hGrows c (List.mem_cons_of_mem _ hMem)
      intro s offset hServes hLe k a hGet
      cases event with
      | next =>
          rcases Nat.lt_or_eq_of_le hLe with hLt | rfl
          · rcases next_of_serves hServes hLt with
              ⟨row, hRow, hNext⟩
            rw [answers, hNext] at hGet
            cases k with
            | zero =>
                cases hGet
                rw [Answer.IsOfStep, Nat.add_zero, if_pos hLt]
                exact ⟨row, hRow, rfl⟩
            | succ k =>
                rw [Nat.add_succ, ← Nat.succ_add]
                exact ih hRest hServes hLt k a hGet
          · rw [Answer.IsOfStep, if_neg (by omega)]
            exact answers_of_stopped _ s _ a
              (List.mem_of_getElem? hGet)
      | change c =>
          have hChange : c.Grows schema :=
            hGrows c List.mem_cons_self
          exact ih hRest (Store.serves_change hServes hChange) hLe
            k a hGet

/-
  A walk begins at a set of rows that are all as wide as its
  schema, and rows as wide are stored while it is under way.
  It takes as many steps as there were rows when it began:
  the step with a number yields the row that has this number
  when the step is taken, read from its first column.  From
  then on it yields nothing, even if the rows are purged.  If
  nothing is stored it yields the rows in order, each once;
  and a cursor comes from the first row to behind the last
  after as many moves as there are rows, and no other number.
-/
theorem yields_while_growing
    (hMemory : (s.relation id).IsMemory)
    (hUniform : (s.relation id).Uniform)
    (hGrows :
      ∀ c, .change c ∈ events →
        c.Grows (s.relation id).schema) :
    let r := s.relation id
    let w := whole s.relation id
    let steps := events.count .next
    (answers id events s w).length = steps ∧
      (∀ (k : Nat) (a : Answer),
        (answers id events s w)[k]? = some a →
          if k < r.size then
            ∃ row, a.rows[k]? = some row ∧
              a.outcome = .ok (some ⟨r.schema, r.table, row, 0⟩)
          else a.outcome = .ok none) ∧
      (r.size ≤ steps →
        ∀ later, ∀ a ∈ (answers id (events ++ later) s w).drop steps,
          a.outcome = .ok none) ∧
      (w.rest s.relation).1 =
        .ok (r.rows.map fun row => ⟨r.schema, r.table, row, 0⟩) ∧
      r.rows.Nodup ∧
      ∀ k, ∃ c, w.current.advanceBy k = .ok c ∧
        (c = w.stop ↔ k = r.size) := by
  intro r w steps
  have hServes : r.Serves r.schema r.table r.size :=
    ⟨rfl, rfl, hMemory, hUniform, Nat.le_refl _⟩
  refine
    ⟨length_answers events s w, fun k a hGet => ?_,
      fun hStopped later a hMem => ?_, rest_of_uniform hUniform,
      hMemory.nodup_rows, fun k => ?_⟩
  · have hAnswers :=
      answers_of_serves hGrows hServes (Nat.zero_le _) k a hGet
    rwa [Nat.zero_add] at hAnswers
  · have hWalk :
        (follow id events s w).2 =
          ⟨.row id r.size, .row id r.size⟩ := by
      have hMoved :=
        follow_of_serves hGrows hServes (Nat.zero_le _)
      rwa [Nat.zero_add, Nat.min_eq_right hStopped] at hMoved
    have hLength : steps = (answers id events s w).length :=
      (length_answers events s w).symm
    rw [answers_append, hLength, List.drop_left, hWalk] at hMem
    exact answers_of_stopped later _ _ a hMem
  · refine ⟨.row id k, ?_, ?_⟩
    · have hMoved := Cursor.advanceBy_row id k 0
      rwa [Nat.zero_add] at hMoved
    · change Cursor.row id k = .row id r.size ↔ k = r.size
      rw [Cursor.row.injEq, and_iff_right rfl]

/-
  Before the second step of a walk over two rows a row is put
  in front of both.  The first row is yielded again, the other
  one never, and after a purge there is nothing to yield.
-/
theorem yields_while_growing_inFront :
    let r : Relation :=
      (Relation.memory ⟨"n", [⟨"x", .signed, none⟩]⟩ ⟨0⟩).afterAll
        [.insertRow [1], .insertRow [3]]
    let s : Store := ⟨[], [r], .empty⟩
    let events : List Event :=
      [.next, .change (.insertRow [0]), .next]
    let w := whole s.relation ⟨0⟩
    (answers ⟨0⟩ events s w).map Answer.outcome =
        [.ok (some ⟨r.schema, r.table, [1], 0⟩),
          .ok (some ⟨r.schema, r.table, [1], 0⟩)] ∧
      ∀ a ∈
          (answers ⟨0⟩
            (events ++ [.change .purge, .next]) s w).drop 2,
        a.outcome = .ok none := by
  intro r s events w
  have hMemory : r.IsMemory := ⟨_, rfl⟩
  have hUniform : r.Uniform := by
    apply (Relation.uniform_afterAll_iff _ _ _).mpr
    intro row hRow
    cases hRow
  have hGrows :
      ∀ c, Event.change c ∈ events → c.Grows r.schema := by
    intro c hMem
    have hEq : c = .insertRow [0] := by
      simpa [events] using hMem
    subst hEq
    exact ⟨Relation.Change.noConfusion, fun _ hRow => nomatch hRow⟩
  have hLaw :=
    @yields_while_growing ⟨0⟩ s events hMemory hUniform hGrows
  exact ⟨by cbv, hLaw.2.2.1 (Nat.le_refl 2) _⟩

end Walk

end FactStore
