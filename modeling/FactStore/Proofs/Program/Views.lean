import FactStore.Proofs.Program.FirstOfName
import FactStore.Proofs.Program.Issued

/-
  This file proves what the views of a program show after any
  calls that register relations, refused calls among them, and
  what purging a view removes.  The relations of a program are
  those registered first under their names, each view shows
  the ones with its flags, and inputs, outputs and internal
  relations are together all of them.

  Key definitions include:
    * `Program.register`, `Program.registerAll`
    * `Program.purgeViews`
    * `Store.Purged`

  Main statements include:
    * `Program.registers_registerAll`
    * `Program.purged_purgeAll`
    * `Program.views_of_registerAll`
-/

namespace FactStore

------------------------------------------------------------
-- Registration
------------------------------------------------------------

namespace Program

/- The program that a call leaves, whatever it answers. -/
def register
    (p : Program)
    (e : Catalog.Entry) : Program :=
  (p.add e).2

/- The program after calls, one after the other. -/
def registerAll
    (p : Program)
    (calls : List Catalog.Entry) : Program :=
  calls.foldl register p

variable {p : Program}
variable {entries : List Catalog.Entry}
variable {e : Catalog.Entry}

/- Calls reach only the catalog. -/
theorem catalog_registerAll
    (p : Program)
    (calls : List Catalog.Entry) :
    (p.registerAll calls).catalog = p.catalog.addEach calls := by
  induction calls generalizing p with
  | nil => rfl
  | cons e calls ih => exact ih (p.register e)

/-
  After any calls the relations are those that were there and
  those of the calls, each the first of its name.
-/
theorem registers_registerAll
    (h : p.catalog.Registers entries)
    (calls : List Catalog.Entry) :
    (p.registerAll calls).catalog.Registers
      (Naming.firsts (·.name) (entries ++ calls)) := by
  rw [catalog_registerAll]
  exact h.addEach calls

/- A taken name is refused, and the program is as before. -/
theorem add_of_taken
    (h : p.catalog.Registers entries)
    (hTaken : e.name ∈ entries.map (·.name)) :
    p.add e = (.error (.relationRegisteredTwice e.name), p) := by
  rw [add, h.add_of_taken hTaken]

theorem add_of_free
    (h : p.catalog.Registers entries)
    (hFree : e.name ∉ entries.map (·.name)) :
    (p.add e).1 = .ok () := by
  rcases h.add_of_free hFree with ⟨catalog, hAdd, _⟩
  rw [add, hAdd]

end Program

------------------------------------------------------------
-- Purges
------------------------------------------------------------

namespace Store

/- Exactly the relations with these ids are purged. -/
structure Purged
    (ids : List RelationId)
    (s s' : Store) : Prop where
  tables : s'.tables = s.tables
  files : s'.files = s.files
  relation :
    ∀ id, s'.relation id =
      if id ∈ ids then (s.relation id).purge else s.relation id

theorem Purged.nil (s : Store) : s.Purged [] s :=
  ⟨rfl, rfl, fun _ => rfl⟩

/- Purges one after the other are one purge. -/
theorem Purged.append
    {ids ids' : List RelationId}
    {s s' s'' : Store}
    (h : s.Purged ids s')
    (h' : s'.Purged ids' s'') : s.Purged (ids ++ ids') s'' where
  tables := h'.tables.trans h.tables
  files := h'.files.trans h.files
  relation := by
    intro id
    rw [h'.relation, h.relation]
    by_cases hFirst : id ∈ ids <;> by_cases hSecond : id ∈ ids' <;>
      simp [hFirst, hSecond, Relation.purge_purge]

/- A relation among them is left without rows. -/
theorem Purged.rows_eq_nil
    {ids : List RelationId}
    {s s' : Store}
    (h : s.Purged ids s')
    {id : RelationId}
    (hMem : id ∈ ids) : (s'.relation id).rows = [] := by
  rw [h.relation, if_pos hMem, Relation.rows_purge]

/- One that is not among them is left as it is. -/
theorem Purged.relation_of_not_mem
    {ids : List RelationId}
    {s s' : Store}
    (h : s.Purged ids s')
    {id : RelationId}
    (hMem : id ∉ ids) : s'.relation id = s.relation id := by
  rw [h.relation, if_neg hMem]

/- The purge of one relation; an unused id has none to purge. -/
theorem purged_singleton
    (s : Store)
    (id : RelationId) :
    s.Purged [id] (s.setRelation id (s.relation id).purge) where
  tables := rfl
  files := rfl
  relation := by
    intro other
    by_cases hUsed : id.index < s.relations.length
    · by_cases hSame : other = id
      · rw [hSame, relation_setRelation _ hUsed,
          if_pos (List.mem_singleton_self id)]
      · rw [relation_setRelation_of_ne _ hSame,
          if_neg (mt List.mem_singleton.mp hSame)]
    · have hDefault : s.relation id = default :=
        List.getD_eq_default _ _ (Nat.le_of_not_lt hUsed)
      rw [relation_setRelation_of_unused _ hUsed]
      split
      · rename_i hMem
        rw [List.mem_singleton.mp hMem, hDefault]
        rfl
      · rfl

end Store

namespace Program

/- Purge one view after the other. -/
def purgeViews
    (p : Program) : List View → Action Unit
| [] => return ()
| v :: views => do
    p.purgeView v
    p.purgeViews views

/- Relations are purged one after the other, without fail. -/
theorem purged_purgeAll
    (ids : List RelationId)
    (s : Store) :
    ∃ s', Action.run (purgeAll ids) s = (.ok (), s') ∧
      s.Purged ids s' := by
  induction ids generalizing s with
  | nil => exact ⟨s, rfl, .nil s⟩
  | cons id ids ih =>
      rcases ih (s.setRelation id (s.relation id).purge) with
        ⟨s', hRun, hPurged⟩
      refine ⟨s', ?_, (s.purged_singleton id).append hPurged⟩
      rw [purgeAll, Action.run_bind, Action.run_purge]
      exact hRun

/- Views are purged one after the other, without fail. -/
theorem purged_purgeViews
    (p : Program)
    (views : List View)
    (s : Store) :
    ∃ s', Action.run (p.purgeViews views) s = (.ok (), s') ∧
      s.Purged (views.flatMap p.catalog.view) s' := by
  induction views generalizing s with
  | nil => exact ⟨s, rfl, .nil s⟩
  | cons v views ih =>
      rcases purged_purgeAll (p.catalog.view v) s with
        ⟨s₁, hFirst, hPurged⟩
      rcases ih s₁ with ⟨s', hRest, hPurged'⟩
      refine ⟨s', ?_, hPurged.append hPurged'⟩
      rw [purgeViews, Action.run_bind, purgeView, hFirst]
      exact hRest

------------------------------------------------------------
-- Views
------------------------------------------------------------

/-
  Whatever calls were made to register relations in a new
  program, those that took effect are the first ones of each
  name.  All of them are shown in their order, the inputs and
  the outputs are those with the flag, and the internal
  relations are those with neither.  A name finds the relation
  that took it, and another name none; a taken name is refused
  and nothing is changed, and a free one is taken.  To purge a
  view empties its relations and leaves all else; when inputs,
  outputs and internal relations were purged, in whatever
  order, all relations of the program are empty.
-/
theorem views_of_registerAll
    (p : Program)
    (calls : List Catalog.Entry) :
    let q := { p with catalog := .empty }.registerAll calls
    let kept := Naming.firsts (·.name) calls
    let names := kept.map (·.name)
    (q.catalog.view .all = kept.map (·.relation) ∧
        q.catalog.view .input =
          (kept.filter (·.isInput)).map (·.relation) ∧
        q.catalog.view .output =
          (kept.filter (·.isOutput)).map (·.relation) ∧
        q.catalog.view .internal =
          (kept.filter fun e => !e.isInput && !e.isOutput).map
            (·.relation)) ∧
      (∀ e ∈ kept, q.catalog.find? e.name = some e.relation) ∧
      (∀ name, name ∉ names → q.catalog.find? name = none) ∧
      (∀ e : Catalog.Entry, e.name ∈ names →
        q.add e = (.error (.relationRegisteredTwice e.name), q)) ∧
      (∀ e : Catalog.Entry, e.name ∉ names →
        (q.add e).1 = .ok ()) ∧
      (∀ (v : View) (s : Store),
        ∃ s', Action.run (q.purgeView v) s = (.ok (), s') ∧
          s'.tables = s.tables ∧
          (∀ id ∈ q.catalog.view v, (s'.relation id).rows = []) ∧
          ∀ id, id ∉ q.catalog.view v →
            s'.relation id = s.relation id) ∧
      ∀ views : List View,
        .input ∈ views → .output ∈ views → .internal ∈ views →
          ∀ s, ∃ s',
            Action.run (q.purgeViews views) s = (.ok (), s') ∧
              s'.tables = s.tables ∧
              ∀ id ∈ q.catalog.view .all,
                (s'.relation id).rows = [] := by
  intro q kept names
  let new : Program := { p with catalog := .empty }
  have hNone : new.catalog.Registers [] := Catalog.registers_empty
  have hKept : q.catalog.Registers kept :=
    registers_registerAll hNone calls
  refine
    ⟨⟨hKept.view_all, hKept.view .input, hKept.view .output,
        hKept.view .internal⟩,
      fun e => hKept.find?_of_mem,
      fun name => hKept.find?_eq_none_iff.mpr,
      fun e => add_of_taken hKept, fun e => add_of_free hKept,
      fun v s => ?_, fun views hIn hOut hInternal s => ?_⟩
  · rcases purged_purgeAll (q.catalog.view v) s with
      ⟨s', hRun, hPurged⟩
    exact
      ⟨s', hRun, hPurged.tables, fun _ => hPurged.rows_eq_nil,
        fun _ => hPurged.relation_of_not_mem⟩
  · rcases q.purged_purgeViews views s with ⟨s', hRun, hPurged⟩
    refine ⟨s', hRun, hPurged.tables, fun id hMem => ?_⟩
    apply hPurged.rows_eq_nil
    apply List.mem_flatMap.mpr
    rcases hKept.exists_mem_view hMem with hV | hV | hV
    · exact ⟨.input, hIn, hV⟩
    · exact ⟨.output, hOut, hV⟩
    · exact ⟨.internal, hInternal, hV⟩

/- The second `in` is refused, though it asks for another role. -/
example :
    let calls : List Catalog.Entry :=
      [⟨"in", ⟨0⟩, true, false⟩, ⟨"both", ⟨1⟩, true, true⟩,
        ⟨"in", ⟨2⟩, false, true⟩, ⟨"tmp", ⟨3⟩, false, false⟩]
    let c := (registerAll ⟨.empty, ⟨0⟩, 1, .idle⟩ calls).catalog
    c.view .input = [⟨0⟩, ⟨1⟩] ∧ c.view .output = [⟨1⟩] ∧
      c.view .internal = [⟨3⟩] := by
  decide

end Program

end FactStore
