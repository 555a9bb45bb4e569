import Mathlib.Data.List.SplitBy
import FactStore.Proofs.Facts.StrictLoad

/-
  This file proves that a load that passes over rejected
  lines does what a strict load does with the file that is
  left when these lines are deleted.  A line is kept or
  deleted whatever was loaded before it, and a deleted one
  leaves no trace.

  Key definitions include:
    * `FactFile.cutLines`, `FactFile.bare`
    * `Store.keeps`, `Store.cleaned`

  Main statements include:
    * `FactFile.lineInduction`
    * `FactFile.textLines_cleaned`
    * `FactFile.loadLines_of_lenient`
    * `Action.load_lenient_eq_strict_of_cleaned`
-/

namespace FactStore

namespace FactFile

------------------------------------------------------------
-- Cut Texts
------------------------------------------------------------

/- The lines of a text, cut behind each newline. -/
def cutLines (text : List Char) : List (List Char) :=
  text.splitBy fun c _ => c != '\n'

/-
  A line that was cut from a text without the newline at its
  end, or a carriage return and the newline.
-/
def withoutEnd (line : List Char) : List Char :=
  if line.getLast? = some '\n' then dropLast '\r' line.dropLast
  else line

/- What a load reads of a line that was cut from a text. -/
def bare (line : List Char) : List Char :=
  dropLast '\r' (withoutEnd line)

/- Nothing is cut within a line. -/
theorem isChain_of_not_mem
    {line : List Char}
    (h : '\n' ∉ line) :
    line.IsChain fun c _ => (c != '\n') = true := by
  apply List.Pairwise.isChain
  apply List.pairwise_of_forall_mem_list
  intro c hc _ _
  apply bne_iff_ne.mpr
  rintro rfl
  exact h hc

/- A line without a newline is the last one of its text. -/
theorem cutLines_of_not_mem
    {line : List Char}
    (hSome : line ≠ [])
    (h : '\n' ∉ line) : cutLines line = [line] :=
  List.splitBy_of_isChain hSome (isChain_of_not_mem h)

/- The first line is cut from a text behind its newline. -/
theorem cutLines_append
    {line : List Char}
    (h : '\n' ∉ line)
    (rest : List Char) :
    cutLines (line ++ '\n' :: rest) =
      (line ++ ['\n']) :: cutLines rest := by
  have hChain :
      (line ++ ['\n']).IsChain fun c _ => (c != '\n') = true := by
    refine
      List.isChain_append.mpr
        ⟨isChain_of_not_mem h, .singleton _, ?_⟩
    intro c hc _ _
    apply bne_iff_ne.mpr
    rintro rfl
    exact h (List.mem_of_getLast? hc)
  have hCut : cutLines (line ++ ['\n']) = [line ++ ['\n']] :=
    List.splitBy_of_isChain (by simp) hChain
  rw [List.append_cons, cutLines, List.splitBy_append]
  · exact congrArg (· ++ cutLines rest) hCut
  · simp

/- A text is empty, one line, or a line in front of a text. -/
@[elab_as_elim]
theorem lineInduction
    {motive : List Char → Prop}
    (nil : motive [])
    (last : ∀ line, line ≠ [] → '\n' ∉ line → motive line)
    (cons :
      ∀ line rest, '\n' ∉ line → motive rest →
        motive (line ++ '\n' :: rest))
    (text : List Char) : motive text := by
  by_cases hNewline : '\n' ∈ text
  · rcases List.eq_append_cons_of_mem hNewline with
      ⟨line, rest, hText, hLine⟩
    rw [hText]
    exact cons line rest hLine (lineInduction nil last cons rest)
  · by_cases hNil : text = []
    · rw [hNil]
      exact nil
    · exact last text hNil hNewline
termination_by text.length
decreasing_by
  rw [hText]
  simp
  omega

/- A text without newlines is its own and only line. -/
theorem textLines_of_not_mem
    {line : List Char}
    (hSome : line ≠ [])
    (h : '\n' ∉ line) : textLines line = [line] := by
  induction line with
  | nil => exact absurd rfl hSome
  | cons c cs ih =>
      have hc : c ≠ '\n' := by
        rintro rfl
        exact h List.mem_cons_self
      have hTail := fun hNil =>
        ih hNil fun hMem => h (List.mem_cons_of_mem _ hMem)
      cases cs with
      | nil => rw [textLines, if_neg hc]
      | cons d ds =>
          have hd : d ≠ '\n' := by
            rintro rfl
            exact h (by simp)
          rw [textLines.eq_def]
          simp [hc, hd, hTail]

/- The lines of a text are those that are cut from it. -/
theorem textLines_eq (text : List Char) :
    textLines text = (cutLines text).map withoutEnd := by
  induction text using lineInduction with
  | nil => rfl
  | last line hSome hLine =>
      have hEnd : line.getLast? ≠ some '\n' :=
        fun hLast => hLine (List.mem_of_getLast? hLast)
      rw [textLines_of_not_mem hSome hLine,
        cutLines_of_not_mem hSome hLine, List.map_singleton,
        withoutEnd, if_neg hEnd]
  | cons line rest hLine ih =>
      rw [textLines_append hLine, cutLines_append hLine,
        List.map_cons, ih, withoutEnd]
      simp

/- What is left of the lines of a text is cut in the same way. -/
theorem cutLines_flatten_filter
    (kept : List Char → Bool)
    (text : List Char) :
    cutLines ((cutLines text).filter kept).flatten =
      (cutLines text).filter kept := by
  induction text using lineInduction with
  | nil => rfl
  | last line hSome hLine =>
      rw [cutLines_of_not_mem hSome hLine, List.filter_cons,
        List.filter_nil]
      split
      · rw [List.flatten_singleton, cutLines_of_not_mem hSome hLine]
      · rfl
  | cons line rest hLine ih =>
      rw [cutLines_append hLine, List.filter_cons]
      split
      · rw [List.flatten_cons, List.append_assoc,
          List.singleton_append, cutLines_append hLine, ih]
      · exact ih

end FactFile

------------------------------------------------------------
-- Deleted Lines
------------------------------------------------------------

namespace Store

/- Whether a relation does not reject a line, or never sees it. -/
def keeps
    (s : Store)
    (id : RelationId)
    (delimiter : Char)
    (line : List Char) : Bool :=
  FactFile.isBlank line ||
    (s.rejection? id delimiter line).isNone

/-
  The lines that are neither blank nor rejected, as a load
  sees them.
-/
def accepted
    (s : Store)
    (id : RelationId)
    (delimiter : Char)
    (ls : List (List Char)) : List (List Char) :=
  (ls.map (FactFile.dropLast '\r')).filter fun line =>
    !FactFile.isBlank line &&
      (s.rejection? id delimiter line).isNone

/-
  A text without the lines that a relation rejects.  Each is
  deleted together with its end.
-/
def cleaned
    (s : Store)
    (id : RelationId)
    (delimiter : Char)
    (text : String) : String :=
  let kept :=
    (FactFile.cutLines text.toList).filter fun line =>
      s.keeps id delimiter (FactFile.bare line)
  String.ofList kept.flatten

end Store

namespace FactFile

/- The lines that are left when a text is cleaned. -/
theorem textLines_cleaned
    (s : Store)
    (id : RelationId)
    (delimiter : Char)
    (text : String) :
    textLines (s.cleaned id delimiter text).toList =
      (textLines text.toList).filter fun line =>
        s.keeps id delimiter (dropLast '\r' line) := by
  rw [Store.cleaned, String.toList_ofList, textLines_eq,
    cutLines_flatten_filter, textLines_eq, List.filter_map]
  rfl

/-
  A load that passes over rejected lines does the same as a
  strict one without these lines, wherever it starts.  No line
  is named in an answer.
-/
theorem loadLines_of_lenient
    (path path' : String)
    (delimiter : Char)
    (s : Store)
    (id : RelationId)
    (ls : List (List Char)) :
    ∀ (number number' loaded : Nat) {r : Relation}
      (table : SymbolTable),
      r.schema = (s.relation id).schema →
        loadLines path ⟨delimiter, false⟩ (ls.map .ok) number
            loaded r table =
          loadLines path' ⟨delimiter, true⟩
            ((ls.filter fun line =>
                s.keeps id delimiter (dropLast '\r' line)).map
              .ok)
            number' loaded r table := by
  -- The relation changes from line to line, but not its schema.
  induction ls with
  | nil => exact fun _ _ _ _ _ _ => rfl
  | cons text ls ih =>
      intro number number' loaded r table hSchema
      have hRejected :=
        s.rejection?_eq id delimiter (dropLast '\r' text)
      rw [List.map_cons, List.filter_cons, Store.keeps]
      cases hBlank : isBlank (dropLast '\r' text) with
      | true =>
          simp only [Bool.true_or, if_true, List.map_cons,
            loadLines, hBlank]
          exact ih (number + 1) (number' + 1) loaded table hSchema
      | false =>
          rw [← hSchema] at hRejected
          cases hValues :
              Line.values r.schema (dropLast '\r' text)
                delimiter with
          | error fault =>
              rw [hValues] at hRejected
              simp only [hRejected, Option.isNone_some,
                Bool.or_false, Bool.false_eq_true, if_false,
                loadLines, hBlank, Line.parse_eq, hValues]
              exact ih (number + 1) number' loaded table hSchema
          | ok vs =>
              rw [hValues] at hRejected
              simp only [hRejected, Option.isNone_none,
                Bool.or_true, if_true, List.map_cons, loadLines,
                hBlank, Bool.false_eq_true, if_false,
                Line.parse_eq, hValues]
              rcases r.blankTuple.appendAll table vs with
                ⟨v | t, table'⟩
              · rfl
              · cases hInsert : r.insert t with
                | error v => simp only [hInsert]
                | ok r' =>
                    simp only [hInsert]
                    apply ih
                    rw [(Relation.evolves_insert hInsert).schema,
                      hSchema]

/- A strict load that succeeds has no line to pass over. -/
theorem loadLines_of_strict_ok
    (path : String)
    (delimiter : Char)
    (ls : List (Except IoFault (List Char))) :
    ∀ {number loaded count : Nat} {r : Relation}
      {table : SymbolTable},
      (loadLines path ⟨delimiter, true⟩ ls number loaded r
          table).1 = .ok count →
        loadLines path ⟨delimiter, true⟩ ls number loaded r
            table =
          loadLines path ⟨delimiter, false⟩ ls number loaded r
            table := by
  induction ls with
  | nil => exact fun _ => rfl
  | cons line ls ih =>
      intro number loaded count r table hOk
      cases line with
      | error fault => rfl
      | ok text =>
          simp only [loadLines] at hOk ⊢
          cases hBlank : isBlank (dropLast '\r' text) with
          | true =>
              simp only [hBlank, if_true] at hOk ⊢
              exact ih hOk
          | false =>
              simp only [hBlank, Bool.false_eq_true,
                if_false] at hOk ⊢
              rcases hParse :
                  Line.parse r table (dropLast '\r' text)
                    delimiter with
                ⟨fault | v | t, table'⟩
              · simp only [hParse, if_true] at hOk
                cases hOk
              · rfl
              · simp only [hParse] at hOk ⊢
                cases hInsert : r.insert t with
                | error v => rfl
                | ok r' =>
                    simp only [hInsert] at hOk
                    exact ih hOk

/- The lines that are numbered are those that are not blank. -/
theorem lines_entries
    (number : Nat)
    (ls : List (List Char)) :
    (entries number ls).map Prod.fst =
      (ls.map (dropLast '\r')).filter (!isBlank ·) := by
  rw [← List.zipIdx_map_fst number (ls.map (dropLast '\r')),
    List.filter_map]
  rfl

/- The kept lines that are not blank are the accepted ones. -/
theorem lines_entries_kept
    (s : Store)
    (id : RelationId)
    (delimiter : Char)
    (number : Nat)
    (ls : List (List Char)) :
    let kept :=
      ls.filter fun line => s.keeps id delimiter (dropLast '\r' line)
    (entries number kept).map Prod.fst =
      s.accepted id delimiter ls := by
  intro kept
  have hKept :
      kept.map (dropLast '\r') =
        (ls.map (dropLast '\r')).filter (s.keeps id delimiter) := by
    rw [List.filter_map]
    rfl
  rw [lines_entries, hKept, List.filter_filter]
  apply List.filter_congr
  intro line _
  rw [Store.keeps]
  cases isBlank line <;> rfl

/-
  A load that passes over rejected lines answers the number of
  the accepted ones, if their texts find ids.
-/
theorem loadLines_lenient_answer
    (path : String)
    (delimiter : Char)
    {s : Store}
    {id : RelationId}
    (hMemory : (s.relation id).IsMemory)
    (table : SymbolTable)
    (ls : List (List Char)) :
    let r := s.relation id
    let accepted := s.accepted id delimiter ls
    let result :=
      loadLines path ⟨delimiter, false⟩ (ls.map .ok) 1 0 r table
    ∃ vs : List (List Element),
      List.Forall₂ (Line.StandsFor r.schema delimiter) accepted
          vs ∧
        match table.internEach? (vs.flatMap Element.texts) with
        | none =>
            result.1 = .error (.violation .symbolsExhausted)
        | some _ => result.1 = .ok accepted.length := by
  intro r accepted result
  let kept :=
    ls.filter fun line => s.keeps id delimiter (dropLast '\r' line)
  have hSame :
      result =
        loadLines path ⟨delimiter, true⟩ (kept.map .ok) 1 0 r
          table :=
    loadLines_of_lenient path path delimiter s id ls 1 1 0 table
      rfl
  have hLines : (entries 1 kept).map Prod.fst = accepted :=
    lines_entries_kept s id delimiter 1 ls
  have hNone :
      ∀ entry ∈ entries 1 kept,
        s.rejection? id delimiter entry.1 = none := by
    intro entry hEntry
    have hLine : entry.1 ∈ accepted := by
      rw [← hLines]
      exact List.mem_map_of_mem hEntry
    rcases List.mem_filter.mp hLine with ⟨_, hAccepted⟩
    simp only [Bool.and_eq_true] at hAccepted
    exact Option.isNone_iff_eq_none.mp hAccepted.2
  rcases
      loadLines_strict_answer path delimiter hMemory table kept with
    ⟨vs, hStands, hLoad⟩
  refine ⟨vs, ?_, ?_⟩
  · rw [← hLines, List.forall₂_map_left_iff]
    rwa [List.takeWhile_eq_self_iff.mpr] at hStands
    intro entry hEntry
    exact Option.isNone_iff_eq_none.mpr (hNone entry hEntry)
  · rw [hSame]
    split <;> rename_i hIntern <;> rw [hIntern] at hLoad
    · exact hLoad
    · rw [hLoad.1 hNone, ← hLines, List.length_map]

end FactFile

namespace Action

------------------------------------------------------------
-- Lenient Loads
------------------------------------------------------------

/-
  A strict load of the cleaned file answers the same as a
  load of the file that passes over rejected lines, and the
  stores that they leave differ in their files only.
-/
theorem run_load_cleaned
    {s : Store}
    {id : RelationId}
    {path path' text : String}
    {content : ByteArray}
    {files : FileTree}
    (delimiter : Char)
    (hRead : s.files.read path = .ok content)
    (hText : String.fromUTF8? content = some text)
    (hCleaned :
      files.read path' =
        .ok (s.cleaned id delimiter text).toUTF8) :
    let lenient := run (load id path ⟨delimiter, false⟩) s
    run (load id path' ⟨delimiter, true⟩) { s with files } =
      (lenient.1, { lenient.2 with files }) := by
  have hSame :=
    FactFile.loadLines_of_lenient path path' delimiter s id
      (FactFile.textLines text.toList) 1 1 0
      (s.table (s.relation id).table) rfl
  simp only [load, run_ofStep, FactFile.load, FactFile.lines,
    hRead, hText, hCleaned, FactFile.fromUTF8?_toUTF8,
    FactFile.textLines_cleaned, hSame]
  rfl

/-
  A load of a file of valid text that passes over rejected
  lines answers what a strict load of the cleaned file does
  from the same tables and relations, and leaves the same
  tables and relations.  The answer is the number of lines
  that are neither blank nor rejected, unless a cell cannot
  number their texts.  No load changes which lines are
  rejected, and on a file whose strict load succeeds the two
  ways to load do the same.
-/
theorem load_lenient_eq_strict_of_cleaned
    {s : Store}
    {id : RelationId}
    {path path' text : String}
    {content : ByteArray}
    {files : FileTree}
    (delimiter : Char)
    (hMemory : (s.relation id).IsMemory)
    (hRead : s.files.read path = .ok content)
    (hText : String.fromUTF8? content = some text)
    (hCleaned :
      files.read path' =
        .ok (s.cleaned id delimiter text).toUTF8) :
    let r := s.relation id
    let table := s.table r.table
    let accepted :=
      s.accepted id delimiter (FactFile.textLines text.toList)
    let lenient := run (load id path ⟨delimiter, false⟩) s
    let strict := run (load id path ⟨delimiter, true⟩) s
    let ofCleaned :=
      run (load id path' ⟨delimiter, true⟩) { s with files }
    lenient.1 = ofCleaned.1 ∧
      { lenient.2 with files } = ofCleaned.2 ∧
      (∃ vs : List (List Element),
        List.Forall₂ (Line.StandsFor r.schema delimiter) accepted
            vs ∧
          let ids :=
            (table.symbols ++
              vs.flatMap Element.texts).toFinset.card
          (ids ≤ SymbolTable.capacity →
              lenient.1 = .ok accepted.length) ∧
            (SymbolTable.capacity < ids →
              lenient.1 =
                .error (.violation .symbolsExhausted))) ∧
      (∀ (other : RelationId) (earlier : String)
          (options : FactOptions) (tree : FileTree)
          (line : List Char),
        let before :=
          (run (load other earlier options)
            { s with files := tree }).2
        before.rejection? id delimiter line =
          s.rejection? id delimiter line) ∧
      ∀ count, strict.1 = .ok count → lenient = strict := by
  intro r table accepted lenient strict ofCleaned
  have hOfCleaned :
      ofCleaned = (lenient.1, { lenient.2 with files }) :=
    run_load_cleaned delimiter hRead hText hCleaned
  have hLenient :=
    @run_load_of_text s id path text content ⟨delimiter, false⟩
      hRead hText
  have hStrict :=
    @run_load_of_text s id path text content ⟨delimiter, true⟩
      hRead hText
  refine ⟨?_, ?_, ?_, ?_, ?_⟩
  · rw [hOfCleaned]
  · rw [hOfCleaned]
  · rcases
        FactFile.loadLines_lenient_answer path delimiter hMemory
          table (FactFile.textLines text.toList) with
      ⟨vs, hStands, hAnswer⟩
    have hIds :=
      table.internEach?_spec (vs.flatMap Element.texts)
    refine ⟨vs, hStands, ?_⟩
    simp only [lenient, hLenient]
    cases hIntern :
        table.internEach? (vs.flatMap Element.texts) with
    | none =>
        rw [hIntern] at hAnswer hIds
        exact
          ⟨fun hFew => absurd hIds (Nat.not_lt.mpr hFew),
            fun _ => hAnswer⟩
    | some table' =>
        rw [hIntern] at hAnswer hIds
        exact
          ⟨fun _ => hAnswer,
            fun hMany => absurd hIds.1 (Nat.not_le.mpr hMany)⟩
  · intro other earlier options tree line before
    apply Store.rejection?_of_evolves
    exact
      (s.evolves_files tree).trans
        (evolves_load other earlier options { s with files := tree })
  · intro count hOk
    simp only [strict, hStrict] at hOk
    have hAgree :=
      FactFile.loadLines_of_strict_ok path delimiter
        ((FactFile.textLines text.toList).map .ok) hOk
    simp only [lenient, strict, hLenient, hStrict, hAgree]

/-
  A file whose second line holds no number and ends in a
  carriage return and a newline: both loads answer that they
  stored the other two lines.
-/
theorem load_lenient_eq_strict_of_cleaned_second :
    let schema : Schema :=
      ⟨"m", [⟨"who", .symbol, none⟩, ⟨"n", .signed, none⟩]⟩
    let text := "al\t7\n bo\tx\r\n\ncy\t1"
    let files : FileTree := ⟨[(["m.facts"], text.toUTF8)], []⟩
    let files' : FileTree :=
      ⟨[(["m.facts"], "al\t7\n\ncy\t1".toUTF8)], []⟩
    let r := Relation.memory schema ⟨0⟩
    let s : Store := ⟨[.holding ["cy"]], [r], files⟩
    let lenient := run (load ⟨0⟩ "m.facts" ⟨'\t', false⟩) s
    let ofCleaned :=
      run (load ⟨0⟩ "m.facts" ⟨'\t', true⟩)
        { s with files := files' }
    lenient.1 = .ok 2 ∧ ofCleaned.1 = .ok 2 ∧
      { lenient.2 with files := files' } = ofCleaned.2 := by
  intro schema text files files' r s lenient ofCleaned
  let al := ['a', 'l', '\t', '7']
  let cy := ['c', 'y', '\t', '1']
  have hText : s.cleaned ⟨0⟩ '\t' text = "al\t7\n\ncy\t1" := by
    cbv
  have hAccepted :
      s.accepted ⟨0⟩ '\t' (FactFile.textLines text.toList) =
        [al, cy] := by
    cbv
  have hAl :
      Line.StandsFor schema '\t' al [.text "al", .signed 7] := by
    rw [Line.StandsFor, if_neg (by decide)]
    constructor <;> cbv
  have hCy :
      Line.StandsFor schema '\t' cy [.text "cy", .signed 1] := by
    rw [Line.StandsFor, if_neg (by decide)]
    constructor <;> cbv
  have hRead :
      files'.read "m.facts" =
        .ok (s.cleaned ⟨0⟩ '\t' text).toUTF8 := by
    rw [hText]
    rfl
  rcases
      @load_lenient_eq_strict_of_cleaned s ⟨0⟩ "m.facts" "m.facts"
        text text.toUTF8 files' '\t' ⟨_, rfl⟩ rfl
        (FactFile.fromUTF8?_toUTF8 text) hRead with
    ⟨hAnswers, hStores, ⟨vs, hStands, hCount, _⟩, _⟩
  rw [hAccepted] at hStands hCount
  have hValues :
      vs =
        [[.text "al", .signed 7], [.text "cy", .signed 1]] := by
    rcases List.forall₂_cons_left_iff.mp hStands with
      ⟨es, rest, hes, hRest, rfl⟩
    rcases List.forall₂_cons_left_iff.mp hRest with
      ⟨es', rest', hes', hRest', rfl⟩
    rw [hes.unique hAl, hes'.unique hCy,
      List.forall₂_nil_left_iff.mp hRest']
  subst hValues
  have hFew :
      ["cy", "al", "cy"].toFinset.card ≤ SymbolTable.capacity :=
    (List.toFinset_card_le _).trans (by decide)
  have hTwo := hCount hFew
  exact ⟨hTwo, hAnswers.symm.trans hTwo, hStores⟩

end Action

end FactStore
