import Mathlib.Data.List.Induction

/-
  This file proves what is kept when things are registered
  one after the other, each under its name, and no name is
  registered twice: the first thing of each name, in the
  order of arrival.

  Key definitions include:
    * `Naming.firsts`

  Main statements include:
    * `Naming.nodup_names_firsts`
    * `Naming.firsts_concat`
    * `Naming.firsts_firsts_append`
-/

namespace FactStore

namespace Naming

variable {α : Type}
variable (name : α → String)

/- The first thing of each name, in order. -/
def firsts : List α → List α
| [] => []
| a :: as => a :: (firsts as).filter fun b => name b ≠ name a

variable {name}
variable {a : α}
variable {as : List α}

/- Each name still has its first thing. -/
theorem mem_names_firsts_iff
    {n : String} :
    n ∈ (firsts name as).map name ↔ n ∈ as.map name := by
  induction as with
  | nil => rfl
  | cons a as ih =>
      by_cases hEq : n = name a
      · simp [firsts, hEq]
      · have hRest :
            n ∈ ((firsts name as).filter
                fun b => name b ≠ name a).map name ↔
              n ∈ (firsts name as).map name := by
          simp only [List.mem_map, List.mem_filter]
          constructor
          · rintro ⟨b, ⟨hMem, _⟩, hName⟩
            exact ⟨b, hMem, hName⟩
          · rintro ⟨b, hMem, rfl⟩
            exact ⟨b, ⟨hMem, decide_eq_true hEq⟩, rfl⟩
        rw [firsts, List.map_cons, List.map_cons, List.mem_cons,
          List.mem_cons, hRest, ih]

/- No name is left twice. -/
theorem nodup_names_firsts
    (as : List α) : ((firsts name as).map name).Nodup := by
  induction as with
  | nil => exact List.nodup_nil
  | cons a as ih =>
      rw [firsts, List.map_cons, List.nodup_cons]
      constructor
      · intro hMem
        rcases List.mem_map.mp hMem with ⟨b, hRest, hName⟩
        have hNe := (List.mem_filter.mp hRest).2
        exact of_decide_eq_true hNe hName
      · exact ih.sublist (List.filter_sublist.map name)

/- Things of different names are all kept. -/
theorem firsts_of_nodup
    (h : (as.map name).Nodup) : firsts name as = as := by
  induction as with
  | nil => rfl
  | cons a as ih =>
      rcases List.nodup_cons.mp h with ⟨hFree, hRest⟩
      rw [firsts, ih hRest, List.filter_eq_self.mpr]
      intro b hMem
      apply decide_eq_true
      intro hName
      apply hFree
      rw [← hName]
      exact List.mem_map_of_mem hMem

/- A last thing is kept if its name has not been there before. -/
theorem firsts_concat
    (as : List α)
    (a : α) :
    firsts name (as ++ [a]) =
      if name a ∈ as.map name then firsts name as
      else firsts name as ++ [a] := by
  induction as with
  | nil => rfl
  | cons b as ih =>
      rw [List.cons_append, firsts, ih, firsts]
      by_cases hSame : name a = name b
      · simp only [List.map_cons, List.mem_cons, hSame, true_or,
          if_true]
        split
        · rfl
        · simp [List.filter_append, hSame]
      · simp only [List.map_cons, List.mem_cons, hSame, false_or]
        split
        · rfl
        · simp [List.filter_append, hSame]

/- Where no name stands twice, only a free name is taken up. -/
theorem firsts_concat_of_nodup
    (h : (as.map name).Nodup)
    (a : α) :
    firsts name (as ++ [a]) =
      if name a ∈ as.map name then as else as ++ [a] := by
  rw [firsts_concat, firsts_of_nodup h]

/- To keep first things early changes nothing later. -/
theorem firsts_firsts_append
    (as bs : List α) :
    firsts name (firsts name as ++ bs) = firsts name (as ++ bs) := by
  induction bs using List.reverseRecOn with
  | nil =>
      rw [List.append_nil, List.append_nil,
        firsts_of_nodup (nodup_names_firsts as)]
  | append_singleton bs b ih =>
      rw [← List.append_assoc, ← List.append_assoc, firsts_concat,
        firsts_concat, ih]
      simp only [List.map_append, List.mem_append,
        mem_names_firsts_iff]

end Naming

end FactStore
