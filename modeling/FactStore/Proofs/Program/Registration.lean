import FactStore.Program.Catalog
import FactStore.Proofs.Program.FirstOfName

/-
  This file proves that the map of names and the views of a
  catalog never part: whatever is registered, one relation
  after the other and some of them refused, the containers are
  those of one list of entries, the first of each name.

  Key definitions include:
    * `View.shows`
    * `Catalog.Registers`
    * `Catalog.addEach`

  Main statements include:
    * `Catalog.Registers.add_of_free`
    * `Catalog.Registers.add_of_taken`
    * `Catalog.Registers.addEach`
    * `Catalog.registers_addAll`
-/

namespace FactStore

------------------------------------------------------------
-- Entries of a Catalog
------------------------------------------------------------

/-
  Whether a view shows what is registered with some roles.
  Internal relations are those that have neither.
-/
def View.shows : View → Catalog.Entry → Bool
| all, _ => true
| input, e => e.isInput
| output, e => e.isOutput
| internal, e => !e.isInput && !e.isOutput

namespace Catalog

/-
  The containers of a catalog hold some entries, in order:
  each name stands for its relation, and each view lists the
  relations that it shows.
-/
structure Registers
    (c : Catalog)
    (entries : List Entry) : Prop where
  byName :
    c.byName.entries = entries.map fun e => (e.name, e.relation)
  view :
    ∀ v : View,
      c.view v = (entries.filter v.shows).map (·.relation)

theorem registers_empty : Catalog.empty.Registers [] where
  byName := rfl
  view := by
    intro v
    cases v <;> rfl

variable {c : Catalog}
variable {entries : List Entry}
variable {e : Entry}

theorem Registers.names
    (h : c.Registers entries) :
    c.byName.names = entries.map (·.name) :=
  NameMap.names_of_entries h.byName

/- No name is registered twice. -/
theorem Registers.nodup
    (h : c.Registers entries) : (entries.map (·.name)).Nodup := by
  rw [← h.names]
  exact c.byName.distinct

theorem Registers.view_all
    (h : c.Registers entries) :
    c.view .all = entries.map (·.relation) := by
  have hAll : entries.filter View.all.shows = entries :=
    List.filter_eq_self.mpr fun _ _ => rfl
  rw [h.view, hAll]

/- A registered relation is found under its name. -/
theorem Registers.find?_of_mem
    (h : c.Registers entries)
    (hMem : e ∈ entries) : c.find? e.name = some e.relation :=
  NameMap.get?_of_entries h.byName hMem

/- Only a registered relation is found. -/
theorem Registers.exists_of_find?
    (h : c.Registers entries)
    {name : String}
    {id : RelationId}
    (hFind : c.find? name = some id) :
    ∃ e ∈ entries, e.name = name ∧ e.relation = id :=
  NameMap.exists_of_get?_of_entries h.byName hFind

theorem Registers.find?_eq_none_iff
    (h : c.Registers entries)
    {name : String} :
    c.find? name = none ↔ name ∉ entries.map (·.name) := by
  rw [find?, NameMap.get?_eq_none_iff, h.names]

------------------------------------------------------------
-- Views
------------------------------------------------------------

/- A relation that is found by its name is one of all. -/
theorem Registers.mem_all_of_find?
    (h : c.Registers entries)
    {name : String}
    {id : RelationId}
    (hFind : c.find? name = some id) : id ∈ c.view .all := by
  rcases h.exists_of_find? hFind with ⟨e, hMem, _, rfl⟩
  rw [h.view_all]
  exact List.mem_map_of_mem hMem

/- Every view shows relations that are registered. -/
theorem Registers.view_subset_all
    (h : c.Registers entries)
    (v : View) : c.view v ⊆ c.view .all := by
  rw [h.view, h.view_all]
  exact List.map_subset _ List.filter_sublist.subset

/- A relation is an input, an output, or neither. -/
theorem Registers.exists_mem_view
    (h : c.Registers entries)
    {id : RelationId}
    (hMem : id ∈ c.view .all) :
    id ∈ c.view .input ∨ id ∈ c.view .output ∨
      id ∈ c.view .internal := by
  rw [h.view_all] at hMem
  rcases List.mem_map.mp hMem with ⟨e, hEntry, rfl⟩
  have hShows :
      ∀ v : View, v.shows e → e.relation ∈ c.view v := by
    intro v hV
    rw [h.view]
    exact List.mem_map_of_mem (List.mem_filter.mpr ⟨hEntry, hV⟩)
  cases hIn : e.isInput with
  | true => exact Or.inl (hShows .input hIn)
  | false =>
      cases hOut : e.isOutput with
      | true => exact Or.inr (Or.inl (hShows .output hOut))
      | false =>
          refine Or.inr (Or.inr (hShows .internal ?_))
          rw [View.shows, hIn, hOut]
          rfl

------------------------------------------------------------
-- One Registration
------------------------------------------------------------

/- Each view is extended exactly when it shows the relation. -/
theorem view_list_classify
    (c : Catalog)
    (e : Entry)
    (v : View) :
    ((c.list e).classify e).view v =
      if v.shows e then c.view v ++ [e.relation] else c.view v := by
  cases hIn : e.isInput <;> cases hOut : e.isOutput <;>
    cases v <;> simp [list, classify, view, View.shows, hIn, hOut]

theorem byName_list_classify
    (c : Catalog)
    (e : Entry) :
    ((c.list e).classify e).byName =
      c.byName.insert e.name e.relation := by
  cases hIn : e.isInput <;> cases hOut : e.isOutput <;>
    simp [list, classify, hIn, hOut]

/- A taken name is refused, and nothing changes. -/
theorem Registers.add_of_taken
    (h : c.Registers entries)
    (hTaken : e.name ∈ entries.map (·.name)) :
    c.add e = (.error (.relationRegisteredTwice e.name), c) := by
  rw [← h.names] at hTaken
  exact Catalog.add_of_taken hTaken

/- A free name is taken up behind the others. -/
theorem Registers.add_of_free
    (h : c.Registers entries)
    (hFree : e.name ∉ entries.map (·.name)) :
    ∃ c', c.add e = (.ok (), c') ∧
      c'.Registers (entries ++ [e]) := by
  rw [← h.names] at hFree
  refine ⟨_, Catalog.add_of_free hFree, ?_, fun v => ?_⟩
  · rw [byName_list_classify]
    exact NameMap.entries_insert_of_entries h.byName hFree
  · rw [view_list_classify, h.view, List.filter_append,
      List.map_append]
    cases hShown : v.shows e <;> simp [hShown]

/- One call registers its relation if the name is free. -/
theorem Registers.add
    (h : c.Registers entries)
    (e : Entry) :
    (c.add e).2.Registers
      (Naming.firsts (·.name) (entries ++ [e])) := by
  rw [Naming.firsts_concat_of_nodup h.nodup]
  split_ifs with hTaken
  · rw [h.add_of_taken hTaken]
    exact h
  · rcases h.add_of_free hTaken with ⟨c', hAdd, hGrown⟩
    rw [hAdd]
    exact hGrown

------------------------------------------------------------
-- Many Registrations
------------------------------------------------------------

/- The catalog after calls, some of which may be refused. -/
def addEach
    (c : Catalog)
    (calls : List Entry) : Catalog :=
  calls.foldl (fun c e => (c.add e).2) c

/- The first entries of each name are registered. -/
theorem Registers.addEach
    (h : c.Registers entries)
    (calls : List Entry) :
    (c.addEach calls).Registers
      (Naming.firsts (·.name) (entries ++ calls)) := by
  induction calls generalizing c entries with
  | nil =>
      rw [List.append_nil, Naming.firsts_of_nodup h.nodup]
      exact h
  | cons e calls ih =>
      have hRest := ih (h.add e)
      rw [Naming.firsts_firsts_append, List.append_assoc,
        List.singleton_append] at hRest
      exact hRest

/- Entries of different names are all registered. -/
theorem Registers.addAll
    (h : c.Registers entries)
    {calls : List Entry}
    (hDistinct : ((entries ++ calls).map (·.name)).Nodup) :
    ∃ c', c.addAll calls = (.ok (), c') ∧
      c'.Registers (entries ++ calls) := by
  induction calls generalizing c entries with
  | nil =>
      rw [List.append_nil]
      exact ⟨c, rfl, h⟩
  | cons e calls ih =>
      rw [List.append_cons] at hDistinct ⊢
      have hFree : e.name ∉ entries.map (·.name) := by
        rw [List.append_assoc, List.map_append,
          List.nodup_append] at hDistinct
        intro hMem
        exact hDistinct.2.2 _ hMem _ List.mem_cons_self rfl
      rcases h.add_of_free hFree with ⟨c₁, hAdd, hGrown⟩
      rw [Catalog.addAll, hAdd]
      exact ih hGrown hDistinct

theorem registers_addAll
    {calls : List Entry}
    (hDistinct : (calls.map (·.name)).Nodup) :
    ∃ c, Catalog.empty.addAll calls = (.ok (), c) ∧
      c.Registers calls :=
  registers_empty.addAll hDistinct

end Catalog

end FactStore
