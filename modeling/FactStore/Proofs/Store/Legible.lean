import FactStore.Proofs.Facts.File
import FactStore.Proofs.Store.Growth

/-
  This file proves that typed writes and fact files of any
  content leave relations of one symbol table legible: every
  row of them can be read, so every symbol cell is an id that
  the table has issued.

  Key definitions include:
    * `Store.Legible`

  Main statements include:
    * `Action.legible_insertRow`
    * `Action.legible_insert`
    * `Action.legible_load`
    * `Store.Legible.run_dump`
-/

namespace FactStore

------------------------------------------------------------
-- Lines
------------------------------------------------------------

/- A line that is parsed as a tuple can be read. -/
theorem Line.decode_of_parse
    {r : Relation}
    {table table' : SymbolTable}
    {line : List Char}
    {delimiter : Char}
    {t : Tuple}
    (h : parse r table line delimiter = (.ok (.ok t), table')) :
    ∃ es,
      Row.decode table' r.schema.attributes t.cells = .ok es := by
  have hParse := parse_spec r table line delimiter
  rw [h] at hParse
  rcases hParse with ⟨es, _, _, _, _, hDecode⟩
  exact ⟨es, hDecode⟩

/-
  Whatever the lines are, and wherever loading them ends, the
  rows can be read.
-/
theorem FactFile.readable_loadLines
    (path : String)
    (options : FactOptions) :
    ∀ (ls : List (Except IoFault (List Char)))
      (number loaded : Nat) {r : Relation}
      {table : SymbolTable},
      r.Readable table →
        let outcome :=
          loadLines path options ls number loaded r table
        outcome.2.1.Readable outcome.2.2
| [], _, _, _, _, h => h
| .error _ :: _, _, _, _, _, h => h
| .ok text :: rest, number, loaded, r, table, h => by
    have hPrefix :=
      prefix_of_parse r table (dropLast '\r' text) options.delimiter
    simp only [loadLines]
    split
    · exact readable_loadLines path options rest (number + 1)
        loaded h
    · split <;> rename_i table' hParse <;> rw [hParse] at hPrefix
      · split
        · exact (h.grow hPrefix).1
        · exact readable_loadLines path options rest (number + 1)
            loaded (h.grow hPrefix).1
      · exact (h.grow hPrefix).1
      · have hGrown := (h.grow hPrefix).1
        split
        · exact hGrown
        · rename_i r' hInsert
          rcases Line.decode_of_parse hParse with ⟨es, hDecode⟩
          exact readable_loadLines path options rest (number + 1)
            (loaded + 1) (hGrown.of_insert hDecode hInsert)

------------------------------------------------------------
-- Legible Relations
------------------------------------------------------------

namespace Store

/- Relations with one symbol table whose rows can be read. -/
structure Legible
    (s : Store)
    (table : TableId)
    (ids : List RelationId) : Prop where
  used : table.index < s.tables.length
  kept : ∀ id ∈ ids, id.index < s.relations.length
  bound : ∀ id ∈ ids, (s.relation id).table = table
  readable : ∀ id ∈ ids, (s.relation id).Readable (s.table table)

variable {s : Store}
variable {table : TableId}
variable {ids : List RelationId}

/- A table that grows leaves what is legible. -/
theorem Legible.setTable
    (h : s.Legible table ids)
    {id : TableId}
    {table' : SymbolTable}
    (hPrefix : (s.table id).symbols <+: table'.symbols) :
    (s.setTable id table').Legible table ids where
  used := by
    simpa [Store.setTable] using h.used
  kept := h.kept
  bound := h.bound
  readable := fun other hOther =>
    ((h.readable other hOther).grow
      ((evolves_setTable hPrefix).table table)).1

/- So does a relation whose new rows can be read. -/
theorem Legible.setRelation
    (h : s.Legible table ids)
    {id : RelationId}
    {r : Relation}
    (hBound : r.table = table)
    (hReadable : r.Readable (s.table table)) :
    (s.setRelation id r).Legible table ids := by
  refine ⟨h.used, ?_, ?_, ?_⟩
  · simpa [Store.setRelation] using h.kept
  · intro other hOther
    rcases s.relation_setRelation_or id r other with
      ⟨-, hNew⟩ | hOld
    · rw [hNew]
      exact hBound
    · rw [hOld]
      exact h.bound other hOther
  · intro other hOther
    rcases s.relation_setRelation_or id r other with
      ⟨-, hNew⟩ | hOld
    · rw [hNew]
      exact hReadable
    · rw [hOld]
      exact h.readable other hOther

end Store

------------------------------------------------------------
-- Actions
------------------------------------------------------------

namespace Action

variable {s : Store}
variable {table : TableId}
variable {ids : List RelationId}

/- A sequence of actions leaves what each of them leaves. -/
theorem legible_bind
    {α β : Type}
    {action : Action α}
    {next : α → Action β}
    (h : (run action s).2.Legible table ids)
    (hNext :
      ∀ (a : α) (s' : Store), s'.Legible table ids →
        (run (next a) s').2.Legible table ids) :
    (run (action >>= next) s).2.Legible table ids := by
  refine
    related_bind (fun _ s' => s'.Legible table ids)
      (fun _ h' => h') h fun a s' hRun => hNext a s' ?_
  rwa [hRun] at h

theorem legible_append
    (h : s.Legible table ids)
    (t : Tuple)
    (e : Element) :
    (run (append t e) s).2.Legible table ids :=
  h.setTable (t.prefix_of_append _ e)

/- A tuple is stored whose cells can be read there. -/
theorem legible_insert
    (h : s.Legible table ids)
    {id : RelationId}
    (hId : id ∈ ids)
    {t : Tuple}
    {es : List Element}
    (hDecode :
      Row.decode (s.table table)
        (s.relation id).schema.attributes t.cells = .ok es) :
    (run (insert id t) s).2.Legible table ids := by
  rw [run_insert]
  split
  · rename_i r' hInsert
    have hBound :=
      (Relation.evolves_insert hInsert).table.trans (h.bound id hId)
    exact h.setRelation hBound
      ((h.readable id hId).of_insert hDecode hInsert)
  · exact h

theorem legible_insertRow
    (h : s.Legible table ids)
    {id : RelationId}
    (hId : id ∈ ids)
    (row : List Element) :
    (run (insertRow id row) s).2.Legible table ids := by
  have hPrefix :=
    (s.relation id).prefix_of_encodeRow (s.table table) row
  rw [run_insertRow, h.bound id hId]
  split <;> rename_i table' hEncode <;> rw [hEncode] at hPrefix
  · rcases Relation.spec_of_encodeRow hEncode with
      ⟨_, _, hDecode⟩
    rw [← Store.table_setTable table' h.used] at hDecode
    exact legible_insert (h.setTable hPrefix) hId hDecode
  · exact h.setTable hPrefix

theorem legible_purge
    (h : s.Legible table ids)
    {id : RelationId}
    (hId : id ∈ ids) :
    (run (purge id) s).2.Legible table ids := by
  rw [run_purge]
  have hEvolves := (s.relation id).evolves_purge
  exact h.setRelation (hEvolves.table.trans (h.bound id hId))
    (Relation.readable_of_rows_eq_nil _
      (hEvolves.memory (h.readable id hId).memory)
      (s.relation id).rows_purge)

/- A file of any content is loaded, as far as it goes. -/
theorem legible_load
    (h : s.Legible table ids)
    {id : RelationId}
    (hId : id ∈ ids)
    (path : String)
    (options : FactOptions) :
    (run (load id path options) s).2.Legible table ids := by
  simp only [load, run_ofStep, FactFile.load, h.bound id hId]
  split
  · exact h
  · rename_i content _
    let outcome :=
      FactFile.loadLines path options (FactFile.lines content) 1 0
        (s.relation id) (s.table table)
    have hReadable : outcome.2.1.Readable outcome.2.2 :=
      FactFile.readable_loadLines path options _ 1 0
        (h.readable id hId)
    rcases
        FactFile.evolves_loadLines path options
          (FactFile.lines content) 1 0 (s.relation id)
          (s.table table) with
      ⟨hEvolves, hPrefix⟩
    have hBound : outcome.2.1.table = table :=
      hEvolves.table.trans (h.bound id hId)
    -- The table is set first: the new rows are read by it.
    change
      ((s.setTable outcome.2.1.table outcome.2.2).setRelation id
        outcome.2.1).Legible table ids
    rw [hBound]
    refine (h.setTable hPrefix).setRelation hBound ?_
    rw [Store.table_setTable _ h.used]
    exact hReadable

end Action

------------------------------------------------------------
-- Written Relations
------------------------------------------------------------

namespace Store.Legible

variable {s : Store}
variable {table : TableId}
variable {ids : List RelationId}

/- Files are no part of what is legible. -/
theorem replaceFiles
    (h : s.Legible table ids)
    (files : FileTree) :
    { s with files }.Legible table ids :=
  ⟨h.used, h.kept, h.bound, h.readable⟩

/- What is legible is shown. -/
theorem run_dump
    (h : s.Legible table ids)
    {shown : List RelationId}
    (hShown : shown ⊆ ids) :
    ∃ text,
      Action.run (Action.dump shown) s =
        (.ok (.ok (), text), s) := by
  induction shown with
  | nil => exact ⟨"", rfl⟩
  | cons id shown ih =>
      have hId : id ∈ ids := hShown List.mem_cons_self
      rcases ih fun _ hMem => hShown (List.mem_cons_of_mem _ hMem)
        with ⟨rest, hRest⟩
      have hStore :=
        FactFile.store_eq_of_readable '\t' (h.readable id hId)
      simp only [Action.dump, Action.dumpOne, Action.run_bind,
        Action.run_relation, Action.run_table, h.bound id hId,
        hStore, Action.run_pure, hRest]
      exact ⟨_, rfl⟩

/- It is stored as well, unless there is no place for the file. -/
theorem run_store
    (h : s.Legible table ids)
    {id : RelationId}
    (hId : id ∈ ids)
    (path : String)
    (delimiter : Char) :
    (∃ fault,
      Action.run (Action.store id path delimiter) s =
        (.error (.error (.io fault)), s)) ∨
      ∃ files,
        Action.run (Action.store id path delimiter) s =
          (.ok (s.relation id).size, { s with files }) := by
  have hStore :=
    FactFile.store_eq_of_readable delimiter (h.readable id hId)
  simp only [Action.store, Action.run_ofStep, h.bound id hId,
    hStore]
  split
  · exact Or.inl ⟨_, rfl⟩
  · exact Or.inr ⟨_, rfl⟩

end Store.Legible

end FactStore
