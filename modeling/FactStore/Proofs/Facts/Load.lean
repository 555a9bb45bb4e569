import FactStore.Proofs.Facts.File

/-
  This file proves what a strict load does with the lines of
  any text.  It reads the lines that are no blank ones up to
  the first that is rejected, stores what those before it
  stand for, and answers their number or the number of that
  line.  It succeeds when a cell can number all texts on the
  way.

  Key definitions include:
    * `FactFile.entries`
    * `FactFile.readThrough`

  Main statements include:
    * `FactFile.loadLines_of_standsFor`
    * `FactFile.loadLines_of_strict`
    * `FactFile.loadLines_text`, `FactFile.exists_loadLines`
    * `Action.run_load_of_text`
-/

namespace FactStore

namespace FactFile

------------------------------------------------------------
-- Numbered Lines
------------------------------------------------------------

/-
  The lines that are no blank ones, with their numbers.  Each
  has lost a carriage return at its end.
-/
def entries
    (number : Nat)
    (ls : List (List Char)) : List (List Char × Nat) :=
  ((ls.map (dropLast '\r')).zipIdx number).filter
    fun entry => !isBlank entry.1

theorem entries_cons
    (number : Nat)
    (text : List Char)
    (ls : List (List Char)) :
    entries number (text :: ls) =
      if isBlank (dropLast '\r' text) then entries (number + 1) ls
      else
        (dropLast '\r' text, number) :: entries (number + 1) ls := by
  rw [entries, List.map_cons, List.zipIdx_cons, List.filter_cons]
  cases isBlank (dropLast '\r' text) <;> rfl

/-
  What lines stand for up to the first that is rejected, and
  the number and the fault of that one.
-/
def readThrough
    (schema : Schema)
    (delimiter : Char) :
    List (List Char × Nat) →
      List (List Element) × Option (Nat × LineFault)
| [] => ([], none)
| (line, number) :: rest =>
    match Line.values schema line delimiter with
    | .error fault => ([], some (number, fault))
    | .ok vs =>
        let (accepted, stop) := readThrough schema delimiter rest
        (Relation.columnValues schema vs :: accepted, stop)

theorem readThrough_of_standsFor
    {schema : Schema}
    {delimiter : Char}
    {line : List Char}
    {es : List Element}
    (h : Line.StandsFor schema delimiter line es)
    (number : Nat)
    (rest : List (List Char × Nat)) :
    readThrough schema delimiter ((line, number) :: rest) =
      (es :: (readThrough schema delimiter rest).1,
        (readThrough schema delimiter rest).2) := by
  have hSame :
      Relation.columnValues schema (es.map Line.raw) = es :=
    Line.zipWith_onColumn_raw h.kinds
  rw [readThrough, Line.values_of_standsFor h]
  simp only [hSame]

------------------------------------------------------------
-- Strict Loads
------------------------------------------------------------

/-
  A line that stands for values stores them, if their texts
  find ids, and the load goes on behind it.
-/
theorem loadLines_of_standsFor
    {path : String}
    {options : FactOptions}
    {text : List Char}
    {r : Relation}
    {table : SymbolTable}
    {es : List Element}
    (hStays : isBlank (dropLast '\r' text) = false)
    (hStands :
      Line.StandsFor r.schema options.delimiter
        (dropLast '\r' text) es)
    (hMemory : r.IsMemory)
    (rest : List (Except IoFault (List Char)))
    (number loaded : Nat) :
    let result :=
      loadLines path options (.ok text :: rest) number loaded r
        table
    match table.internEach? (Element.texts es) with
    | none => result.1 = .error (.violation .symbolsExhausted)
    | some table' =>
        ∃ r',
          result =
              loadLines path options rest (number + 1) (loaded + 1)
                r' table' ∧
            r.Stores table [es] r' table' := by
  have hLine := Line.parse_of_standsFor hStands table
  simp only [loadLines, hStays, Bool.false_eq_true, if_false]
  cases hTable : table.internEach? (Element.texts es) with
  | none =>
      rw [hTable] at hLine
      rcases hLine with ⟨table', hParse⟩
      simp only [hParse]
  | some table' =>
      rw [hTable] at hLine
      rcases hLine with ⟨t, hParse, hBound, _, hDecode⟩
      rcases
          hMemory.stores_insert
            (SymbolTable.prefix_of_internEach? hTable)
            hBound hDecode with
        ⟨r', hInsert, hStores⟩
      refine ⟨r', ?_, hStores⟩
      simp only [hParse, hInsert]

/- What a load answers that has read so many lines and then stops. -/
def answer
    (path : String)
    (loaded : Nat) :
    Option (Nat × LineFault) → Except Failure Nat
| none => .ok loaded
| some (number, fault) =>
    .error (.error (.parse path number fault.message))

/-
  A strict load stores what the lines up to the first that is
  rejected stand for, and answers that one or the number of
  lines.  It fails for another reason exactly when a text on
  the way finds no id.
-/
theorem loadLines_of_strict
    (path : String)
    {options : FactOptions}
    (hStrict : options.strict = true)
    (ls : List (List Char)) :
    ∀ (number loaded : Nat) {r : Relation}
      (table : SymbolTable),
      r.IsMemory →
        let read :=
          readThrough r.schema options.delimiter
            (entries number ls)
        let result :=
          loadLines path options (ls.map .ok) number loaded r table
        match table.internEach? (read.1.flatMap Element.texts) with
        | none =>
            result.1 = .error (.violation .symbolsExhausted)
        | some table' =>
            result.1 =
                answer path (loaded + read.1.length) read.2 ∧
              result.2.2 = table' ∧
              r.Stores table read.1 result.2.1 table' := by
  -- The relation and its table change from line to line.
  induction ls with
  | nil =>
      intro number loaded r table hMemory
      exact ⟨rfl, rfl, .refl table hMemory⟩
  | cons text ls ih =>
      intro number loaded r table hMemory
      rw [entries_cons, List.map_cons]
      cases hBlank : isBlank (dropLast '\r' text) with
      | true =>
          simp only [loadLines, hBlank, if_true]
          exact ih (number + 1) loaded table hMemory
      | false =>
          cases hValues :
              Line.values r.schema (dropLast '\r' text)
                options.delimiter with
          | error fault =>
              simp only [loadLines, hBlank, Bool.false_eq_true,
                if_false, readThrough, hValues, Line.parse_eq,
                hStrict, if_true]
              exact ⟨rfl, rfl, .refl table hMemory⟩
          | ok vs =>
              have hStands := (Line.standsFor_of_values hValues).1
              have hLine :=
                @loadLines_of_standsFor path options text r table _
                  hBlank hStands hMemory (ls.map .ok) number
                  loaded
              simp only [Bool.false_eq_true, if_false,
                readThrough_of_standsFor hStands,
                List.flatMap_cons, SymbolTable.internEach?_append]
              cases hTable :
                  table.internEach?
                    (Element.texts
                      (Relation.columnValues r.schema vs)) with
              | none =>
                  rw [hTable] at hLine
                  exact hLine
              | some table₁ =>
                  rw [hTable] at hLine
                  rcases hLine with ⟨r₁, hNext, hStores⟩
                  have hRest :=
                    ih (number + 1) (loaded + 1) table₁
                      hStores.memory
                  simp only [hStores.schema] at hRest
                  simp only [hNext, Option.bind_some]
                  split <;> rename_i hKnown <;>
                    rw [hKnown] at hRest
                  · exact hRest
                  · rcases hRest with ⟨hAnswer, hSymbols, hMore⟩
                    refine ⟨?_, hSymbols, hStores.trans hMore⟩
                    rw [hAnswer, List.length_cons,
                      Nat.add_right_comm, Nat.add_assoc]

------------------------------------------------------------
-- Stored Rows
------------------------------------------------------------

/- The lines of rows are read as those that do not vanish. -/
theorem readThrough_text
    {schema : Schema}
    {vs : List (List Element)}
    (hKinds :
      ∀ es ∈ vs,
        List.Forall₂ (fun a e => e.kind = Line.kindOf a.type)
          schema.attributes es)
    (hCanonical : ∀ es ∈ vs, ∀ e ∈ es, e.Canonical)
    (number : Nat) :
    readThrough schema '\t' (entries number (vs.map Line.text)) =
      (vs.filter (!Line.vanishes ·), none) := by
  induction vs generalizing number with
  | nil => rfl
  | cons es vs ih =>
      have hRest :=
        ih (fun v hv => hKinds v (List.mem_cons_of_mem _ hv))
          (fun v hv => hCanonical v (List.mem_cons_of_mem _ hv))
          (number + 1)
      have hStands :=
        Line.standsFor_text (hKinds es List.mem_cons_self)
          (hCanonical es List.mem_cons_self)
      rw [List.map_cons, entries_cons,
        dropLast_of_not_mem (Line.not_mem_text (Or.inr rfl) es),
        Line.isBlank_text, List.filter_cons]
      cases Line.vanishes es with
      | true => exact hRest
      | false =>
          simp only [Bool.false_eq_true, if_false,
            readThrough_of_standsFor hStands, hRest]
          rfl

/-
  Loading the lines of rows stores each row whose line is not
  blank, and counts it, if the texts of these rows find ids.
-/
theorem loadLines_text
    (path : String)
    {vs : List (List Element)}
    {r : Relation}
    {table table' : SymbolTable}
    (hMemory : r.IsMemory)
    (hKinds :
      ∀ es ∈ vs,
        List.Forall₂ (fun a e => e.kind = Line.kindOf a.type)
          r.schema.attributes es)
    (hCanonical : ∀ es ∈ vs, ∀ e ∈ es, e.Canonical)
    (hTexts :
      table.internEach?
          ((vs.filter (!Line.vanishes ·)).flatMap Element.texts) =
        some table')
    (number loaded : Nat) :
    ∃ r',
      loadLines path default
          ((vs.map Line.text).map .ok) number loaded r table =
        (.ok (loaded + (vs.filter (!Line.vanishes ·)).length),
          r', table') ∧
      r.Stores table (vs.filter (!Line.vanishes ·)) r' table' := by
  have hLoad :=
    @loadLines_of_strict path default rfl
      (vs.map Line.text) number loaded r table hMemory
  have hDelimiter : (default : FactOptions).delimiter = '\t' := rfl
  simp only [hDelimiter, readThrough_text hKinds hCanonical,
    hTexts] at hLoad
  rcases hLoad with ⟨hAnswer, rfl, hStores⟩
  exact ⟨_, Prod.ext hAnswer rfl, hStores⟩

/-
  Loading the lines of rows adds each row whose line is not
  blank, and counts it.  The texts of the rows are known to a
  table of admissible size, so there is room for them.
-/
theorem exists_loadLines
    (path : String)
    {known : List String}
    (hKnown : known.length ≤ SymbolTable.capacity)
    {attributes : List Attribute}
    (vs : List (List Element))
    (hKinds :
      ∀ es ∈ vs,
        List.Forall₂ (fun a e => e.kind = Line.kindOf a.type)
          attributes es)
    (hNoNaNs : ∀ es ∈ vs, ∀ e ∈ es, e.NotNaN)
    (hTexts :
      ∀ es ∈ vs, ∀ s, Element.text s ∈ es → s ∈ known)
    (number loaded : Nat)
    {r : Relation}
    {table : SymbolTable}
    (hAttributes : r.schema.attributes = attributes)
    (hReadable : r.Readable table)
    (hSymbols : table.symbols ⊆ known) :
    ∃ r' table',
      loadLines path default
          ((vs.map Line.text).map .ok) number loaded r table =
        (.ok (loaded + (vs.filter (!Line.vanishes ·)).length),
          r', table') ∧
      r'.Readable table' ∧
      ∀ es, es ∈ r'.values table' ↔
        es ∈ r.values table ∨
          es ∈ vs ∧ Line.vanishes es = false := by
  subst hAttributes
  have hCanonical : ∀ es ∈ vs, ∀ e ∈ es, e.Canonical :=
    fun es hes e he => (hNoNaNs es hes e he).canonical
  have hRoom :
      ∃ table',
        table.internEach?
            ((vs.filter (!Line.vanishes ·)).flatMap
              Element.texts) = some table' := by
    refine
      SymbolTable.exists_internEach?_of_subset hKnown hSymbols ?_
    intro s hs
    rcases List.mem_flatMap.mp hs with ⟨es, hes, hText⟩
    exact
      hTexts es (List.mem_of_mem_filter hes) s
        (Element.mem_texts_iff.mp hText)
  rcases hRoom with ⟨table', hTable⟩
  rcases
      loadLines_text path hReadable.memory hKinds hCanonical
        hTable number loaded with
    ⟨r', hLoad, hStores⟩
  have hAdds := hStores.adds hReadable
  refine ⟨r', table', hLoad, hAdds.readable, fun es => ?_⟩
  rw [hAdds.values, List.mem_filter, Bool.not_eq_true']

end FactFile

------------------------------------------------------------
-- Loading a File
------------------------------------------------------------

/- A load of a file of valid text reads the lines of the text. -/
theorem Action.run_load_of_text
    {s : Store}
    {id : RelationId}
    {path text : String}
    {content : ByteArray}
    (options : FactOptions)
    (hRead : s.files.read path = .ok content)
    (hText : String.fromUTF8? content = some text) :
    let r := s.relation id
    let result :=
      FactFile.loadLines path options
        ((FactFile.textLines text.toList).map .ok) 1 0 r
        (s.table r.table)
    run (load id path options) s =
      (result.1, s.setBoth id result.2.1 result.2.2) := by
  simp only [load, run_ofStep, hRead, FactFile.load,
    FactFile.lines, hText]

end FactStore
