import FactStore.Proofs.Facts.Line
import FactStore.Proofs.Relation.Contents

/-
  This file proves that a fact file holds one line for each
  row that was stored.

  Key definitions include:
    * `FactFile.ofRows`

  Main statements include:
    * `FactFile.lines_ofRows`
    * `FactFile.store_of_readable`
    * `FactFile.store_eq_of_readable`
-/

namespace FactStore

namespace FactFile

------------------------------------------------------------
-- Lines of a Text
------------------------------------------------------------

/- A character that does not occur is not dropped from the end. -/
theorem dropLast_of_not_mem
    {c : Char}
    {line : List Char}
    (h : c ∉ line) : dropLast c line = line := by
  have hLast : line.getLast? ≠ some c :=
    fun hLast => h (List.mem_of_getLast? hLast)
  rw [dropLast, if_neg hLast]

/-
  A line ends at the first newline, and loses a carriage
  return before it.
-/
theorem textLines_append
    {line : List Char}
    (hNewline : '\n' ∉ line)
    (rest : List Char) :
    textLines (line ++ '\n' :: rest) =
      dropLast '\r' line :: textLines rest := by
  induction line with
  | nil =>
      rw [List.nil_append, textLines.eq_def]
      simp [dropLast]
  | cons c cs ih =>
      have hc : c ≠ '\n' := by
        rintro rfl
        exact hNewline List.mem_cons_self
      have hTail :=
        ih fun h => hNewline (List.mem_cons_of_mem _ h)
      cases cs with
      | nil =>
          rw [List.nil_append] at hTail
          rw [List.cons_append, List.nil_append,
            textLines.eq_def]
          by_cases hReturn : c = '\r'
          · simp [hReturn, dropLast]
          · simp [hc, hReturn, dropLast, hTail]
      | cons d ds =>
          have hd : d ≠ '\n' := by
            rintro rfl
            exact hNewline (by simp)
          rw [List.cons_append] at hTail
          rw [List.cons_append, List.cons_append,
            textLines.eq_def]
          simp only [hc, hd, if_false, and_false, hTail]
          simp only [dropLast, List.getLast?_cons_cons]
          split <;> rfl

/- The text of lines is the lines, each with its newline. -/
theorem textLines_unlines
    {ls : List (List Char)}
    (hNewline : ∀ line ∈ ls, '\n' ∉ line)
    (hReturn : ∀ line ∈ ls, '\r' ∉ line) :
    textLines (unlines (ls.map String.ofList)).toList = ls := by
  have hText :
      (unlines (ls.map String.ofList)).toList =
        ls.flatMap (· ++ ['\n']) := by
    simp [unlines, List.flatMap_map]
  rw [hText]
  induction ls with
  | nil => rfl
  | cons line ls ih =>
      rw [List.flatMap_cons, List.append_assoc,
        List.singleton_append,
        textLines_append (hNewline line List.mem_cons_self),
        dropLast_of_not_mem (hReturn line List.mem_cons_self)]
      refine congrArg (line :: ·) (ih ?_ ?_ ?_)
      · exact fun l hl => hNewline l (List.mem_cons_of_mem _ hl)
      · exact fun l hl => hReturn l (List.mem_cons_of_mem _ hl)
      · simp [unlines, List.flatMap_map]

/- What was encoded as bytes is decoded as the same text. -/
theorem fromUTF8?_toUTF8 (s : String) :
    String.fromUTF8? s.toUTF8 = some s := by
  have hValid : s.toUTF8.IsValidUTF8 := s.isValidUTF8
  rw [String.fromUTF8?, dif_pos hValid]
  rfl

/- The text of a fact file that holds rows of values. -/
def ofRows (vs : List (List Element)) : String :=
  unlines ((vs.map Line.text).map String.ofList)

/- The lines of a fact file are those of its rows. -/
theorem lines_ofRows (vs : List (List Element)) :
    lines (ofRows vs).toUTF8 = (vs.map Line.text).map .ok := by
  have hLines :
      textLines (ofRows vs).toList = vs.map Line.text := by
    apply textLines_unlines
    · intro line hLine
      rcases List.mem_map.mp hLine with ⟨es, _, rfl⟩
      exact Line.not_mem_text (Or.inl rfl) es
    · intro line hLine
      rcases List.mem_map.mp hLine with ⟨es, _, rfl⟩
      exact Line.not_mem_text (Or.inr rfl) es
  rw [lines, fromUTF8?_toUTF8]
  exact congrArg (List.map Except.ok) hLines

------------------------------------------------------------
-- Storing
------------------------------------------------------------

/- Each row that can be read is written as the line of its values. -/
theorem storeRows_of_decodes
    (delimiter : Char)
    {r : Relation}
    {table : SymbolTable}
    {rows : List Row}
    (hWidths : ∀ row ∈ rows, row.length = r.arity)
    (hDecodes :
      ∀ row ∈ rows, ∃ es,
        Row.decode table r.schema.attributes row = .ok es) :
    storeRows r table delimiter rows =
      (.ok (),
        (rows.filterMap fun row =>
          (Row.decode table r.schema.attributes row).toOption).map
            (Line.ofValues delimiter)) := by
  induction rows with
  | nil => rfl
  | cons row rows ih =>
      rcases hDecodes row List.mem_cons_self with ⟨es, hDecode⟩
      have hLine :=
        Line.rowLine_of_decode delimiter
          (hWidths row List.mem_cons_self) hDecode
      have hRest :=
        ih (fun r hr => hWidths r (List.mem_cons_of_mem _ hr))
          (fun r hr => hDecodes r (List.mem_cons_of_mem _ hr))
      rw [storeRows, hLine, hRest, List.filterMap_cons, hDecode]
      rfl

/- A relation that can be read is stored, row by row. -/
theorem store_eq_of_readable
    (delimiter : Char)
    {r : Relation}
    {table : SymbolTable}
    (h : r.Readable table) :
    store r table delimiter =
      (.ok r.size,
        unlines
          ((r.values table).map (Line.ofValues delimiter))) := by
  rw [store, storeRows_of_decodes delimiter h.uniform h.decodes]
  rfl

theorem store_of_readable
    {r : Relation}
    {table : SymbolTable}
    (h : r.Readable table) :
    store r table '\t' =
      (.ok r.size, ofRows (r.values table)) := by
  have hLines :
      Line.ofValues '\t' = String.ofList ∘ Line.text :=
    funext Line.ofValues_tab
  rw [store_eq_of_readable '\t' h, ofRows, List.map_map, hLines]

end FactFile

end FactStore
