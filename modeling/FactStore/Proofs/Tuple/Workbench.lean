import FactStore.Proofs.Facts.Columns
import FactStore.Proofs.Relation.LiveWalk
import FactStore.Proofs.Tuple.Access

/-
  This file proves that every tuple that a host can get hold
  of is as wide as its relation and has its cursor at a
  column or right behind the last one, whatever the host did
  before, and from this what its typed writes and typed reads
  do.

  Key definitions include:
    * `Relation.Alike`
    * `Source`
    * `Workbench`
    * `Workbench.perform`
    * `Workbench.Sound`

  Main statements include:
    * `Source.inBounds_of_draw`
    * `Workbench.Sound.perform`
    * `Workbench.typed_access_after_steps`
-/

namespace FactStore

------------------------------------------------------------
-- Relations that Serve the Same Tuples
------------------------------------------------------------

namespace Relation

/- Relations of one schema whose symbols are in one table. -/
structure Alike (r r' : Relation) : Prop where
  schema : r'.schema = r.schema
  table : r'.table = r.table

theorem Alike.refl (r : Relation) : r.Alike r :=
  ⟨rfl, rfl⟩

theorem Evolves.alike
    {r r' : Relation}
    (h : r.Evolves r') : r.Alike r' :=
  ⟨h.schema, h.table⟩

/- No change of its rows makes a relation another one. -/
theorem alike_after
    (r : Relation)
    (c : Change) : r.Alike (r.after c) := by
  unfold after
  split
  · rename_i r' hChange
    cases c with
    | insertRow row =>
        simp only [change] at hChange
        cases hInsert : r.insertRow row with
        | error v =>
            rw [hInsert] at hChange
            cases hChange
        | ok found =>
            rw [hInsert] at hChange
            cases hChange
            exact (evolves_insertRow hInsert).alike
    | insert t => exact (evolves_insert hChange).alike
    | extendRows rows =>
        cases hChange
        unfold extendRows
        split <;> exact ⟨rfl, rfl⟩
    | purge =>
        cases hChange
        exact (evolves_purge r).alike
  · exact Alike.refl r

end Relation

/- A relation that is replaced by one like it is alike. -/
theorem Store.alike_setRelation
    {s : Store}
    {id : RelationId}
    {r : Relation}
    (h : (s.relation id).Alike r)
    (other : RelationId) :
    (s.relation other).Alike
      ((s.setRelation id r).relation other) := by
  rcases s.relation_setRelation_or id r other with
    ⟨rfl, hNew⟩ | hOld
  · rw [hNew]
    exact h
  · rw [hOld]
    exact Relation.Alike.refl _

namespace Tuple

variable {t : Tuple}
variable {r r' : Relation}

/- A tuple in bounds of a relation is so of one like it. -/
theorem InBounds.of_alike
    (h : t.InBounds r)
    (hAlike : r.Alike r') : t.InBounds r' where
  bound :=
    ⟨h.bound.schema.trans hAlike.schema.symm,
      h.bound.table.trans hAlike.table.symm, by
        rw [h.bound.width, Relation.arity, Relation.arity,
          hAlike.schema]⟩
  position := by
    rw [Relation.arity, hAlike.schema]
    exact h.position

theorem InBounds.blank (r : Relation) :
    r.blankTuple.InBounds r :=
  ⟨⟨rfl, rfl, List.length_replicate⟩, Nat.zero_le _⟩

end Tuple

------------------------------------------------------------
-- Where Tuples Come from
------------------------------------------------------------

/-
  The ways to a tuple of a relation: a blank one, one of
  given cells, a stored row, a line of a file, and the next
  tuple of a walk.
-/
inductive Source where
| blank (id : RelationId)
| given (id : RelationId) (cells : Row)
| stored (id : RelationId) (row : Row)
| parsed (id : RelationId) (line : String) (delimiter : Char)
| walked (w : Walk)

/- A tuple of a walk is a stored row of a relation. -/
theorem Walk.ofStored_of_next
    {relation : RelationId → Relation}
    {w : Walk}
    {t : Tuple}
    (h : (w.next relation).1 = .ok (some t)) :
    ∃ id row,
      Tuple.ofStored (relation id).schema (relation id).table
        row = .ok t := by
  unfold Walk.next at h
  split at h
  · cases h
  · split at h
    · cases h
    · rename_i t' hGet
      split at h <;> cases h
      cases hCurrent : w.current with
      | placeholder =>
          rw [hCurrent] at hGet
          cases hGet
      | row id offset =>
          rw [hCurrent, Cursor.get, Relation.tupleAt] at hGet
          split at hGet
          · exact ⟨id, _, hGet⟩
          · cases hGet

namespace Source

/-
  The tuple from a source, and the store after it.  A
  rejected line is none, and neither is the end of a walk.
-/
def draw (s : Store) :
    Source → Except Failure (Option Tuple) × Store
| .blank id => (.ok (some (s.relation id).blankTuple), s)
| .given id cells =>
    let r := s.relation id
    (((Tuple.ofCells r.schema r.table cells).map
      some).mapError .error, s)
| .stored id row =>
    let r := s.relation id
    (((Tuple.ofStored r.schema r.table row).map
      some).mapError .violation, s)
| .parsed id line delimiter =>
    let (outcome, s') :=
      Action.run (Action.parse id line delimiter) s
    (outcome.map Except.toOption, s')
| .walked w => ((w.next s.relation).1.mapError .violation, s)

/- No relation is touched. -/
theorem relation_draw
    (s : Store)
    (source : Source) :
    (source.draw s).2.relation = s.relation := by
  cases source with
  | parsed id line delimiter =>
      simp only [draw, Action.parse, Action.run_ofStep]
      split <;> rfl
  | _ => rfl

/- Reading a stored row gives a tuple in bounds. -/
theorem inBounds_of_ofStored
    {r : Relation}
    {row : Row}
    {t : Tuple}
    (h : Tuple.ofStored r.schema r.table row = .ok t) :
    t.InBounds r := by
  unfold Tuple.ofStored at h
  split at h
  · rename_i hWidth
    cases h
    exact ⟨⟨rfl, rfl, hWidth⟩, Nat.zero_le _⟩
  · cases h

/- A drawn tuple is in bounds of a relation of the store. -/
theorem inBounds_of_draw
    {s : Store}
    {source : Source}
    {t : Tuple}
    (h : (source.draw s).1 = .ok (some t)) :
    ∃ id, t.InBounds (s.relation id) := by
  cases source with
  | blank id =>
      cases h
      exact ⟨id, Tuple.InBounds.blank (s.relation id)⟩
  | given id cells =>
      refine ⟨id, ?_⟩
      simp only [draw, Tuple.ofCells] at h
      split at h
      · rename_i hWidth
        cases h
        exact ⟨⟨rfl, rfl, hWidth⟩, hWidth.le⟩
      · cases h
  | stored id row =>
      refine ⟨id, @inBounds_of_ofStored (s.relation id) row t ?_⟩
      simp only [draw] at h
      cases hStored :
          Tuple.ofStored (s.relation id).schema
            (s.relation id).table row with
      | error v =>
          rw [hStored] at h
          cases h
      | ok t' =>
          rw [hStored] at h
          cases h
          rfl
  | parsed id line delimiter =>
      refine ⟨id, ?_⟩
      have hSpec :=
        Line.parse_spec (s.relation id)
          (s.table (s.relation id).table) line.toList delimiter
      simp only [draw, Action.run_parse] at h
      split at hSpec <;> rename_i hParse <;> rw [hParse] at h
      · cases h
      · cases h
      · cases h
        rcases hSpec with ⟨es, _, _, hBound, hPosition, _⟩
        exact ⟨hBound, hPosition.le⟩
  | walked w =>
      simp only [draw] at h
      cases hNext : (w.next s.relation).1 with
      | error v =>
          rw [hNext] at h
          cases h
      | ok drawn =>
          rw [hNext] at h
          cases h
          rcases Walk.ofStored_of_next hNext with
            ⟨id, row, hStored⟩
          exact ⟨id, inBounds_of_ofStored hStored⟩

end Source

------------------------------------------------------------
-- Workbenches
------------------------------------------------------------

/- A store, and the tuples that a host has of its relations. -/
structure Workbench where
  store : Store
  tuples : List Tuple

namespace Workbench

/-
  What a host does: it draws tuples, copies them and accesses
  them one by one, and uses the store in between.
-/
inductive Step where
| draw (source : Source)
| copy (i : Nat)
| access (i : Nat) (a : Access)
| use (u : Store.Use)
| change (id : RelationId) (c : Relation.Change)
| load
    (id : RelationId) (path : String) (options : FactOptions)

/-
  The workbench after a step, whether or not it succeeds.  A
  step on a tuple that is not there does nothing.
-/
def perform (b : Workbench) : Step → Workbench
| .draw source =>
    match source.draw b.store with
    | (.ok (some t), store) => ⟨store, b.tuples ++ [t]⟩
    | (_, store) => { b with store }
| .copy i =>
    { b with tuples := b.tuples ++ b.tuples[i]?.toList }
| .access i a =>
    match b.tuples[i]? with
    | none => b
    | some t =>
        let (_, t', store) := t.access b.store a
        ⟨store, b.tuples.set i t'⟩
| .use u => { b with store := b.store.use u }
| .change id c => { b with store := b.store.change id c }
| .load id path options =>
    { b with
      store :=
        (Action.run (Action.load id path options) b.store).2 }

/- The workbench after steps, one after the other. -/
def performAll
    (b : Workbench)
    (steps : List Step) : Workbench :=
  steps.foldl perform b

/- Every tuple is in bounds of a relation of the store. -/
def Sound (b : Workbench) : Prop :=
  ∀ t ∈ b.tuples, ∃ id, t.InBounds (b.store.relation id)

/- No step makes a relation another one. -/
theorem alike_perform
    (b : Workbench)
    (step : Step)
    (id : RelationId) :
    (b.store.relation id).Alike
      ((b.perform step).store.relation id) := by
  cases step with
  | draw source =>
      have hSame := source.relation_draw b.store
      simp only [perform]
      split <;> rename_i hDraw <;> rw [hDraw] at hSame <;>
        exact hSame ▸ Relation.Alike.refl _
  | copy i => exact Relation.Alike.refl _
  | access i a =>
      simp only [perform]
      split
      · exact Relation.Alike.refl _
      · rename_i t ht
        rw [t.relation_access b.store a]
        exact Relation.Alike.refl _
  | use u =>
      exact ((b.store.gains_use u).evolves.relation id).alike
  | change other c =>
      simp only [perform, Store.change_eq_setRelation]
      exact Store.alike_setRelation
        (Relation.alike_after _ c) id
  | load other path options =>
      have hEvolves :=
        Action.evolves_load other path options b.store
      exact (hEvolves.relation id).alike

/-
  What a step leaves on the workbench is in bounds of the
  relations as they were before the step.
-/
theorem Sound.inBounds_perform
    {b : Workbench}
    (h : b.Sound)
    (step : Step) :
    ∀ t ∈ (b.perform step).tuples,
      ∃ id, t.InBounds (b.store.relation id) := by
  intro t ht
  cases step with
  | draw source =>
      simp only [Workbench.perform] at ht
      split at ht
      · rename_i t' store hDraw
        rcases List.mem_append.mp ht with hOld | hNew
        · exact h t hOld
        · rw [List.mem_singleton.mp hNew]
          exact Source.inBounds_of_draw (congrArg (·.1) hDraw)
      · exact h t ht
  | copy i =>
      rcases List.mem_append.mp ht with hOld | hCopy
      · exact h t hOld
      · exact h t
          (List.mem_of_getElem? (Option.mem_toList.mp hCopy))
  | access i a =>
      simp only [Workbench.perform] at ht
      split at ht
      · exact h t ht
      · rename_i t' hTuple
        rcases List.mem_or_eq_of_mem_set ht with hOld | rfl
        · exact h t hOld
        · rcases h t' (List.mem_of_getElem? hTuple) with ⟨id, hId⟩
          exact ⟨id, hId.access b.store a⟩
  | use u => exact h t ht
  | change id c => exact h t ht
  | load id path options => exact h t ht

/- A step keeps every tuple in bounds. -/
theorem Sound.perform
    {b : Workbench}
    (h : b.Sound)
    (step : Step) : (b.perform step).Sound := by
  intro t ht
  rcases h.inBounds_perform step t ht with ⟨id, hId⟩
  exact ⟨id, hId.of_alike (b.alike_perform step id)⟩

theorem Sound.performAll
    {b : Workbench}
    (h : b.Sound)
    (steps : List Step) : (b.performAll steps).Sound := by
  induction steps generalizing b with
  | nil => exact h
  | cons step steps ih => exact ih (h.perform step)

/-
  Whatever a host has done, each of its tuples is as wide as
  a relation of the store, with the cursor at a column or
  right behind the last one.  A typed write then fails
  exactly when there is no column left, the column takes no
  values of the kind, or the table is full; a typed read
  likewise, or when the cell is no id of a text.  A refused
  access leaves the tuple and the store as they are, and a
  write that succeeds puts its cell and moves on.
-/
theorem typed_access_after_steps
    (s : Store)
    (steps : List Step) :
    let b := performAll ⟨s, []⟩ steps
    ∀ t ∈ b.tuples,
      (∃ id, t.InBounds (b.store.relation id)) ∧
        (∀ e, t.Writes b.store e) ∧
        ∀ kind, t.Reads b.store kind := by
  intro b t ht
  have hSound : b.Sound :=
    Sound.performAll (fun _ hNone => absurd hNone (by simp)) steps
  rcases hSound t ht with ⟨id, hId⟩
  exact
    ⟨⟨id, hId⟩, fun e => hId.writes b.store e,
      fun kind => hId.reads b.store kind⟩

/-
  A text is neither written behind the last column nor does
  it become known there, and a column of unsigned numbers
  takes no text.
-/
theorem typed_access_after_steps_mixed :
    let schema : Schema :=
      ⟨"m", [⟨"x", .symbol, none⟩, ⟨"n", .unsigned, none⟩]⟩
    let s : Store := ⟨[.empty], [.memory schema ⟨0⟩], .empty⟩
    let b :=
      performAll ⟨s, []⟩
        [.draw (.blank ⟨0⟩), .access 0 (.write (.text "ann")),
          .copy 0, .access 0 (.write (.unsigned 7))]
    let full : Tuple := ⟨schema, ⟨0⟩, [0, 7], 2⟩
    let half : Tuple := ⟨schema, ⟨0⟩, [0, 0], 1⟩
    b.tuples = [full, half] ∧
      full.access b.store (.write (.text "bob")) =
        (.error (.cursorOverrun "m" 2), full, b.store) ∧
      half.access b.store (.write (.text "bob")) =
        (.error (.wrongElement "m" 1 .unsigned),
          half, b.store) := by
  intro schema s b full half
  have hTuples : b.tuples = [full, half] := by decide
  have hFull : full ∈ b.tuples := by simp [hTuples]
  have hHalf : half ∈ b.tuples := by simp [hTuples]
  rcases typed_access_after_steps s _ full hFull with
    ⟨_, hFullWrites, _⟩
  rcases typed_access_after_steps s _ half hHalf with
    ⟨_, hHalfWrites, _⟩
  have hColumn :
      half.schema.attributes[half.position]? =
        some ⟨"n", .unsigned, none⟩ := rfl
  have hType : AttrType.unsigned ∉ ElementKind.columns .text := by
    decide
  exact
    ⟨hTuples,
      (hFullWrites (.text "bob")).refused _ (.overrun rfl),
      (hHalfWrites (.text "bob")).refused _
        (.wrongType hColumn hType)⟩

end Workbench

end FactStore
