import FactStore.Facts.Field
import FactStore.Proofs.Number.Digits
import Mathlib.Data.List.Forall2

/-
  This file proves that a line is split into the fields that
  it was joined from.  A text that is read as one field,
  whatever stands behind it, may be joined with any others.

  Key definitions include:
    * `Field.ReadsAs`

  Main statements include:
    * `Field.readsAs_escape`
    * `Field.readsAs_of_not_mem`
    * `Field.split_join`
    * `Field.split_join_escape_iff`
-/

namespace FactStore

namespace Field

/- The text is read as a value that starts the first field. -/
def ReadsAs
    (delimiter : Char)
    (text value : List Char) : Prop :=
  ∀ rest,
    split delimiter (text ++ rest) =
      prepend value (split delimiter rest)

/- A delimiter ends the field before it. -/
theorem split_delimiter
    (delimiter : Char)
    (rest : List Char) :
    split delimiter (delimiter :: rest) =
      [] :: split delimiter rest := by
  rw [split.eq_def]
  simp

/- Any other character than a backslash is part of a field. -/
theorem split_cons
    {delimiter c : Char}
    (hDelimiter : c ≠ delimiter)
    (hBackslash : c ≠ '\\')
    (rest : List Char) :
    split delimiter (c :: rest) =
      prepend [c] (split delimiter rest) := by
  rw [split.eq_def]
  simp [hDelimiter, hBackslash]

------------------------------------------------------------
-- Texts of Fields
------------------------------------------------------------

theorem prepend_append
    (text text' : List Char)
    (fields : List (List Char)) :
    prepend (text ++ text') fields =
      prepend text (prepend text' fields) := by
  cases fields <;> simp [prepend]

theorem readsAs_nil (delimiter : Char) :
    ReadsAs delimiter [] [] := by
  intro rest
  cases hRest : split delimiter rest with
  | nil => exact absurd hRest (split_ne_nil delimiter rest)
  | cons field fields => simp [prepend, hRest]

theorem ReadsAs.append
    {delimiter : Char}
    {text text' value value' : List Char}
    (h : ReadsAs delimiter text value)
    (h' : ReadsAs delimiter text' value') :
    ReadsAs delimiter (text ++ text') (value ++ value') := by
  intro rest
  rw [List.append_assoc, h, h', prepend_append]

/- A character that is no delimiter is read as it stands. -/
theorem readsAs_singleton
    {delimiter c : Char}
    (hDelimiter : c ≠ delimiter)
    (hBackslash : c ≠ '\\') : ReadsAs delimiter [c] [c] :=
  split_cons hDelimiter hBackslash

/- A character behind a backslash is read as its escape. -/
theorem readsAs_backslash
    {delimiter : Char}
    (hDelimiter : delimiter ≠ '\\')
    (c : Char) :
    ReadsAs delimiter ['\\', c] (unescape delimiter c) := by
  intro rest
  simp [split, hDelimiter.symm]

/- A delimiter that no escape is written with. -/
def IsSeparator (delimiter : Char) : Prop :=
  delimiter ≠ '\\' ∧ delimiter ≠ 'n' ∧ delimiter ≠ 'r' ∧
    delimiter ≠ 't'

theorem isSeparator_tab : IsSeparator '\t' := by
  refine ⟨?_, ?_, ?_, ?_⟩ <;> decide

/- Each character of a symbol is read back from its form. -/
theorem readsAs_escapeChar
    {delimiter : Char}
    (h : IsSeparator delimiter)
    (c : Char) :
    ReadsAs delimiter (escapeChar delimiter c) [c] := by
  rcases h with ⟨hBackslash, hNewline, hReturn, hTab⟩
  by_cases h₁ : c = '\\'
  · subst h₁
    simpa [escapeChar, unescape] using
      readsAs_backslash hBackslash '\\'
  by_cases h₂ : c = '\n'
  · subst h₂
    simpa [escapeChar, unescape, hNewline.symm] using
      readsAs_backslash hBackslash 'n'
  by_cases h₃ : c = '\r'
  · subst h₃
    simpa [escapeChar, unescape, hReturn.symm] using
      readsAs_backslash hBackslash 'r'
  by_cases h₄ : c = '\t'
  · subst h₄
    simpa [escapeChar, unescape, hTab.symm] using
      readsAs_backslash hBackslash 't'
  by_cases h₅ : c = delimiter
  · subst h₅
    simpa [escapeChar, unescape, h₁, h₂, h₃, h₄] using
      readsAs_backslash hBackslash c
  simpa [escapeChar, h₁, h₂, h₃, h₄, h₅] using
    readsAs_singleton h₅ h₁

/- A symbol is read back from its escaped form. -/
theorem readsAs_escape
    {delimiter : Char}
    (h : IsSeparator delimiter)
    (symbol : List Char) :
    ReadsAs delimiter (escape delimiter symbol) symbol := by
  induction symbol with
  | nil => exact readsAs_nil delimiter
  | cons c cs ih => exact (readsAs_escapeChar h c).append ih

/-
  A text without the delimiter and without backslashes is
  read as it stands.
-/
theorem readsAs_of_not_mem
    {delimiter : Char}
    {text : List Char}
    (hDelimiter : delimiter ∉ text)
    (hBackslash : '\\' ∉ text) :
    ReadsAs delimiter text text := by
  induction text with
  | nil => exact readsAs_nil delimiter
  | cons c cs ih =>
      have hSeparate : c ≠ delimiter := by
        rintro rfl
        exact hDelimiter List.mem_cons_self
      have hPlain : c ≠ '\\' := by
        rintro rfl
        exact hBackslash List.mem_cons_self
      exact (readsAs_singleton hSeparate hPlain).append
        (ih (fun h => hDelimiter (List.mem_cons_of_mem _ h))
          (fun h => hBackslash (List.mem_cons_of_mem _ h)))

------------------------------------------------------------
-- Lines of Fields
------------------------------------------------------------

/- A line is split into the values of the fields joined. -/
theorem split_join
    {delimiter : Char}
    {texts values : List (List Char)}
    (hFields : List.Forall₂ (ReadsAs delimiter) texts values)
    (hNonempty : texts ≠ []) :
    split delimiter (join delimiter texts) = values := by
  induction hFields with
  | nil => exact absurd rfl hNonempty
  | @cons text value texts values hField hRest ih =>
      cases hRest with
      | nil =>
          have hRead := hField []
          rw [List.append_nil] at hRead
          simpa [join, split, prepend] using hRead
      | @cons text' value' texts' values' hField' hRest' =>
          have hTail := ih (by simp)
          rw [join, List.intercalate_cons_cons,
            List.append_assoc, hField, List.singleton_append]
          rw [join] at hTail
          rw [split_delimiter, hTail]
          simp [prepend]

/-
  What holds of the delimiter holds of joined fields when it
  holds of each of them.
-/
theorem all_join
    {delimiter : Char}
    {p : Char → Bool}
    (hDelimiter : p delimiter = true)
    (texts : List (List Char)) :
    (join delimiter texts).all p = texts.all (·.all p) := by
  unfold join
  induction texts with
  | nil => rfl
  | cons text texts ih =>
      cases texts with
      | nil => simp
      | cons text' texts =>
          rw [List.intercalate_cons_cons, List.append_assoc,
            List.all_append, List.singleton_append,
            List.all_cons, hDelimiter, Bool.true_and, ih]
          rfl

/- An escaped symbol has none of the controls. -/
theorem not_mem_escape
    {c : Char}
    (hControl : c = '\n' ∨ c = '\r' ∨ c = '\t')
    (delimiter : Char)
    (symbol : List Char) : c ∉ escape delimiter symbol := by
  intro hc
  rcases List.mem_flatMap.mp hc with ⟨d, _, hd⟩
  unfold escapeChar at hd
  repeat' split at hd
  all_goals
    rcases hControl with rfl | rfl | rfl <;> grind

------------------------------------------------------------
-- Delimiters That Are Safe
------------------------------------------------------------

/-
  A delimiter that an escape is written with ends a field or
  stands for itself where the escape was meant, so the text
  that is escaped like that is not read back.
-/
theorem exists_misread
    {delimiter : Char}
    (h : ¬ IsSeparator delimiter) :
    ∃ symbol : String,
      split delimiter (escape delimiter symbol.toList) ≠
        [symbol.toList] := by
  have hEscapes :
      delimiter = '\\' ∨ delimiter = 'n' ∨ delimiter = 'r' ∨
        delimiter = 't' := by
    unfold IsSeparator at h
    tauto
  rcases hEscapes with rfl | rfl | rfl | rfl
  · exact ⟨"\\", by decide⟩
  · exact ⟨"\n", by decide⟩
  · exact ⟨"\r", by decide⟩
  · exact ⟨"\t", by decide⟩

/-
  Escaped symbols that are joined by a delimiter are split
  into the same symbols, however many there are, exactly when
  no escape is written with the delimiter.
-/
theorem split_join_escape_iff (delimiter : Char) :
    (∀ symbols : List String, symbols ≠ [] →
        split delimiter
            (join delimiter
              (symbols.map (escape delimiter ·.toList))) =
          symbols.map String.toList) ↔
      delimiter ≠ '\\' ∧ delimiter ≠ 'n' ∧ delimiter ≠ 'r' ∧
        delimiter ≠ 't' := by
  constructor
  · intro hLaw
    by_contra hUnsafe
    rcases exists_misread hUnsafe with ⟨symbol, hMisread⟩
    have hOne := hLaw [symbol] (List.cons_ne_nil _ _)
    exact hMisread (by simpa [join] using hOne)
  · intro hSafe symbols hNonempty
    apply split_join
    · rw [List.forall₂_map_left_iff, List.forall₂_map_right_iff,
        List.forall₂_same]
      exact fun symbol _ => readsAs_escape hSafe symbol.toList
    · exact mt List.map_eq_nil_iff.mp hNonempty

end Field

end FactStore
