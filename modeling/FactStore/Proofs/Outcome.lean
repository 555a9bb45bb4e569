import Mathlib.Data.List.Forall2

/-
  This file proves what a list of steps that may fail comes
  to: the answers of all of them, or the failure of the first
  one that fails.

  Main statements include:
    * `mapM_eq_ok_iff`
    * `mapM_eq_error_iff`
-/

namespace FactStore

variable {α β ε : Type}

/- All steps answer, one after the other. -/
theorem mapM_eq_ok_iff
    {f : α → Except ε β}
    {as : List α}
    {bs : List β} :
    as.mapM f = .ok bs ↔
      List.Forall₂ (fun a b => f a = .ok b) as bs := by
  induction as generalizing bs with
  | nil =>
      rw [List.mapM_nil, List.forall₂_nil_left_iff]
      exact Except.ok.injEq [] bs ▸ eq_comm
  | cons a as ih =>
      rw [List.mapM_cons, List.forall₂_cons_left_iff]
      cases hHead : f a with
      | error e =>
          refine iff_of_false (fun h => by cases h) ?_
          rintro ⟨b, _, hAnswer, _⟩
          cases hAnswer
      | ok b =>
          cases hTail : as.mapM f with
          | error e =>
              refine iff_of_false (fun h => by cases h) ?_
              rintro ⟨_, bs', _, hRest, _⟩
              rw [ih.mpr hRest] at hTail
              cases hTail
          | ok bs' =>
              constructor
              · rintro ⟨⟩
                exact ⟨b, bs', rfl, ih.mp hTail, rfl⟩
              · rintro ⟨_, rest, ⟨⟩, hRest, rfl⟩
                rw [ih.mpr hRest] at hTail
                cases hTail
                rfl

/- The first step that fails decides, and those before it answer. -/
theorem mapM_eq_error_iff
    {f : α → Except ε β}
    {as : List α}
    {e : ε} :
    as.mapM f = .error e ↔
      ∃ before a after, as = before ++ a :: after ∧
        (∀ x ∈ before, ∃ b, f x = .ok b) ∧ f a = .error e := by
  induction as with
  | nil =>
      refine iff_of_false (fun h => by cases h) ?_
      rintro ⟨before, a, after, hNil, _⟩
      cases before <;> cases hNil
  | cons a as ih =>
      rw [List.mapM_cons]
      cases hHead : f a with
      | error e' =>
          constructor
          · rintro ⟨⟩
            exact ⟨[], a, as, rfl, by simp, hHead⟩
          · rintro ⟨before, x, after, hSplit, hBefore, hFails⟩
            cases before with
            | nil =>
                cases hSplit
                rw [hHead] at hFails
                cases hFails
                rfl
            | cons y before =>
                cases hSplit
                rcases hBefore a List.mem_cons_self with ⟨b, hb⟩
                rw [hHead] at hb
                cases hb
      | ok b =>
          have hTail :
              (do
                let b ← Except.ok b
                let bs ← as.mapM f
                pure (b :: bs)) = .error e ↔
                as.mapM f = .error e := by
            cases as.mapM f <;> simp [bind, Except.bind, pure, Except.pure]
          rw [hTail, ih]
          constructor
          · rintro ⟨before, x, after, rfl, hBefore, hFails⟩
            refine ⟨a :: before, x, after, rfl, ?_, hFails⟩
            exact List.forall_mem_cons.mpr ⟨⟨b, hHead⟩, hBefore⟩
          · rintro ⟨before, x, after, hSplit, hBefore, hFails⟩
            cases before with
            | nil =>
                cases hSplit
                rw [hHead] at hFails
                cases hFails
            | cons y before =>
                cases hSplit
                exact
                  ⟨before, x, after, rfl,
                    (List.forall_mem_cons.mp hBefore).2, hFails⟩

end FactStore
