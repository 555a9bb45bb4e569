/-
  This file defines maps from names to values.  A name stands
  for one value at most; a value that is inserted under a
  known name takes the place of the value before.

  Key definitions include:
    * `NameMap`
    * `NameMap.get?`
    * `NameMap.insert`

  Main statements include:
    * `NameMap.get?_eq_some_iff`
    * `NameMap.get?_eq_none_iff`
    * `NameMap.entries_insert_of_new`
    * `NameMap.get?_of_entries`
-/

namespace FactStore

------------------------------------------------------------
-- Maps
------------------------------------------------------------

/- Values under names, of which none stands twice. -/
structure NameMap (α : Type) where
  entries : List (String × α)
  distinct : (entries.map (·.1)).Nodup
deriving DecidableEq, Repr

namespace NameMap

variable {α : Type}

/- The map without names. -/
def empty : NameMap α :=
  ⟨[], List.nodup_nil⟩

instance : Inhabited (NameMap α) := ⟨empty⟩

/- The known names, in the order in which they came. -/
def names (m : NameMap α) : List String :=
  m.entries.map (·.1)

/- The value under a name. -/
def get?
    (m : NameMap α)
    (name : String) : Option α :=
  (m.entries.find? fun e => e.1 = name).map (·.2)

/- Whether a name is known. -/
def contains
    (m : NameMap α)
    (name : String) : Bool :=
  (m.get? name).isSome

------------------------------------------------------------
-- Insertion
------------------------------------------------------------

/-
  Put a value under a name: in the place of the value that it
  stands for already, or behind all others.
-/
def put
    (name : String)
    (a : α) : List (String × α) → List (String × α)
| [] => [(name, a)]
| e :: es =>
    if e.1 = name then (name, a) :: es else e :: put name a es

/- A name that is known stays at its place. -/
theorem names_put_of_mem
    {name : String}
    (a : α)
    {es : List (String × α)}
    (h : name ∈ es.map (·.1)) :
    (put name a es).map (·.1) = es.map (·.1) := by
  induction es with
  | nil => cases h
  | cons e es ih =>
      rw [put]
      split
      · rename_i hSame
        rw [List.map_cons, List.map_cons, hSame]
      · rename_i hOther
        rw [List.map_cons, List.mem_cons] at h
        rw [List.map_cons, List.map_cons,
          ih (h.resolve_left fun hSame => hOther hSame.symm)]

/- A name that is new comes last. -/
theorem put_of_not_mem
    {name : String}
    (a : α)
    {es : List (String × α)}
    (h : name ∉ es.map (·.1)) :
    put name a es = es ++ [(name, a)] := by
  induction es with
  | nil => rfl
  | cons e es ih =>
      rw [List.map_cons, List.mem_cons, not_or] at h
      rw [put, if_neg fun hSame => h.1 hSame.symm, ih h.2]
      rfl

/- Names stay distinct when a value is put under one. -/
theorem nodup_names_put
    {name : String}
    (a : α)
    {es : List (String × α)}
    (h : (es.map (·.1)).Nodup) :
    ((put name a es).map (·.1)).Nodup := by
  by_cases hKnown : name ∈ es.map (·.1)
  · rw [names_put_of_mem a hKnown]
    exact h
  · rw [put_of_not_mem a hKnown, List.map_append,
      List.nodup_append]
    refine ⟨h, List.pairwise_singleton _ _, ?_⟩
    intro n hMem m hLast hEq
    have hName : m = name := List.mem_singleton.mp hLast
    exact hKnown (hName ▸ hEq ▸ hMem)

/- Put a value under a name. -/
def insert
    (m : NameMap α)
    (name : String)
    (a : α) : NameMap α :=
  ⟨put name a m.entries, nodup_names_put a m.distinct⟩

------------------------------------------------------------
-- Finding
------------------------------------------------------------

/- Among distinct names, a search finds the entry of a name. -/
theorem find?_eq_some_iff
    {name : String}
    {a : α}
    {es : List (String × α)}
    (hDistinct : (es.map (·.1)).Nodup) :
    (es.find? fun e => e.1 = name).map (·.2) = some a ↔
      (name, a) ∈ es := by
  induction es with
  | nil => simp
  | cons e es ih =>
      rcases List.nodup_cons.mp hDistinct with ⟨hFree, hRest⟩
      rw [List.mem_cons, ← ih hRest]
      by_cases hSame : e.1 = name
      · have hOnly : (name, a) ∉ es := by
          subst hSame
          exact fun hMem =>
            hFree (List.mem_map.mpr ⟨_, hMem, rfl⟩)
        rw [ih hRest, or_iff_left hOnly]
        simp [hSame, Prod.ext_iff, eq_comm]
      · have hOther : (name, a) ≠ e := fun hEq =>
          hSame (congrArg (·.1) hEq).symm
        simp [hSame, hOther]

/- A value is found under its name, and nothing else is. -/
theorem get?_eq_some_iff
    {m : NameMap α}
    {name : String}
    {a : α} :
    m.get? name = some a ↔ (name, a) ∈ m.entries :=
  find?_eq_some_iff m.distinct

/- Nothing is found where the name is not known. -/
theorem get?_eq_none_iff
    {m : NameMap α}
    {name : String} : m.get? name = none ↔ name ∉ m.names := by
  rw [get?, Option.map_eq_none_iff, List.find?_eq_none, names,
    List.mem_map, not_exists]
  exact
    ⟨fun h e hMem => h e hMem.1 (decide_eq_true hMem.2),
      fun h e hMem hSame => h e ⟨hMem, of_decide_eq_true hSame⟩⟩

theorem contains_iff_mem_names
    {m : NameMap α}
    {name : String} : m.contains name = true ↔ name ∈ m.names := by
  have hNone := @get?_eq_none_iff _ m name
  rw [contains]
  cases hFound : m.get? name with
  | none => simpa using hNone.mp hFound
  | some a =>
      rw [hFound] at hNone
      simpa using hNone

/- A new name comes behind all that are known. -/
theorem entries_insert_of_new
    {m : NameMap α}
    {name : String}
    (a : α)
    (h : m.get? name = none) :
    (m.insert name a).entries = m.entries ++ [(name, a)] :=
  put_of_not_mem a (get?_eq_none_iff.mp h)

/- Maps of the same entries are the same. -/
theorem eq_of_entries_eq
    {m m' : NameMap α}
    (h : m.entries = m'.entries) : m = m' := by
  cases m
  cases m'
  cases h
  rfl

------------------------------------------------------------
-- Things with Names
------------------------------------------------------------

variable {β : Type}
variable {m : NameMap α}
variable {name : β → String}
variable {value : β → α}
variable {bs : List β}

/- A map of things under their names knows these names. -/
theorem names_of_entries
    (h : m.entries = bs.map fun b => (name b, value b)) :
    m.names = bs.map name := by
  rw [names, h, List.map_map]
  rfl

/- Under its name it has what stands for a thing. -/
theorem get?_of_entries
    (h : m.entries = bs.map fun b => (name b, value b))
    {b : β}
    (hMem : b ∈ bs) : m.get? (name b) = some (value b) := by
  rw [get?_eq_some_iff, h]
  exact List.mem_map_of_mem hMem

/- What is found stands for one of the things. -/
theorem exists_of_get?_of_entries
    (h : m.entries = bs.map fun b => (name b, value b))
    {n : String}
    {a : α}
    (hFound : m.get? n = some a) :
    ∃ b ∈ bs, name b = n ∧ value b = a := by
  rw [get?_eq_some_iff, h] at hFound
  rcases List.mem_map.mp hFound with ⟨b, hMem, hEq⟩
  exact ⟨b, hMem, congrArg (·.1) hEq, congrArg (·.2) hEq⟩

/- One more thing of a free name comes behind the others. -/
theorem entries_insert_of_entries
    (h : m.entries = bs.map fun b => (name b, value b))
    {b : β}
    (hFree : name b ∉ m.names) :
    (m.insert (name b) (value b)).entries =
      (bs ++ [b]).map fun b => (name b, value b) := by
  rw [entries_insert_of_new _ (get?_eq_none_iff.mpr hFree), h,
    List.map_append]
  rfl

end NameMap

end FactStore
