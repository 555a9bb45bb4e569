import FactStore.Proofs.Facts.Line

/-
  This file proves that a tuple written as a line is read
  back from it.  The same relation gives back the cells, and
  its table learns nothing; any relation with columns of the
  same types gives back the values, whatever its table knew.

  Main statements include:
    * `Row.exists_decode_of_issued`
    * `Row.float_of_decode`
    * `Action.parse_format`
-/

namespace FactStore

------------------------------------------------------------
-- Rows of Issued Ids
------------------------------------------------------------

namespace Row

/- A row whose symbol cells are issued ids can be read. -/
theorem exists_decode_of_issued
    {table : SymbolTable} :
    ∀ {attributes : List Attribute} {row : Row},
      (∀ p ∈ attributes.zip row,
        p.1.type = .symbol → table.Issued p.2) →
        ∃ es, decode table attributes row = .ok es
| [], _, _ => ⟨[], rfl⟩
| _ :: _, [], _ => ⟨[], rfl⟩
| a :: rest, c :: cs, hIssued => by
    have hHead :
        ∃ e, Element.decode (Line.kindOf a.type) table c =
          .ok e := by
      cases hType : a.type with
      | symbol =>
          have hId : table.Issued c :=
            hIssued (a, c) List.mem_cons_self hType
          rcases SymbolTable.issued_iff_resolve?.mp hId with
            ⟨text, hResolve⟩
          refine ⟨.text text, ?_⟩
          simp only [Line.kindOf, Element.decode, hResolve]
      | _ => exact ⟨_, rfl⟩
    rcases hHead with ⟨e, hHead⟩
    rcases
        exists_decode_of_issued fun p hp =>
          hIssued p (List.mem_cons_of_mem _ hp) with
      ⟨es, hTail⟩
    exact
      ⟨e :: es,
        decode_cons_eq_ok_iff.mpr ⟨e, es, hHead, hTail, rfl⟩⟩

/- What is true of the float cells of a row is true of its floats. -/
theorem float_of_decode
    {P : Single → Prop}
    {table : SymbolTable} :
    ∀ {attributes : List Attribute} {row : Row}
      {es : List Element},
      (∀ p ∈ attributes.zip row,
        p.1.type = .float → P (Cell.toSingle p.2)) →
      decode table attributes row = .ok es →
        ∀ e ∈ es, ∀ x, e = .float x → P x
| [], _, _, _, hDecode => by
    cases hDecode
    simp
| _ :: _, [], _, _, hDecode => by
    cases hDecode
    simp
| a :: rest, c :: cs, es, hFloats, hDecode => by
    rcases decode_cons_eq_ok_iff.mp hDecode with
      ⟨e, es', hHead, hTail, rfl⟩
    have hFloat : ∀ x, e = .float x → P x := by
      rintro x rfl
      have hKind := Element.kind_of_decode hHead
      have hType : a.type = .float := by
        cases hColumn : a.type <;> rw [hColumn] at hKind <;>
          first | rfl | cases hKind
      rw [hType] at hHead
      cases hHead
      exact hFloats (a, c) List.mem_cons_self hType
    have hRest :=
      float_of_decode
        (fun p hp => hFloats p (List.mem_cons_of_mem _ hp)) hTail
    intro e' he'
    rcases List.mem_cons.mp he' with rfl | hMem
    · exact hFloat
    · exact hRest e' hMem

/- A row without NaNs in its float cells is read without them. -/
theorem notNaN_of_decode
    {table : SymbolTable}
    {attributes : List Attribute}
    {row : Row}
    {es : List Element}
    (hNoNaNs :
      ∀ p ∈ attributes.zip row,
        p.1.type = .float → (Cell.toSingle p.2).isNaN = false)
    (hDecode : decode table attributes row = .ok es) :
    ∀ e ∈ es, e.NotNaN :=
  float_of_decode hNoNaNs hDecode

end Row

namespace Line

/- Schemas whose columns have the same types are as wide. -/
theorem arity_eq_of_columnTypes
    {schema schema' : Schema}
    (h : columnTypes schema' = columnTypes schema) :
    schema'.arity = schema.arity := by
  have hLength := congrArg List.length h
  rwa [columnTypes, columnTypes, List.length_map,
    List.length_map] at hLength

/- What a line stands for depends on no more than the types. -/
theorem StandsFor.of_columnTypes
    {schema schema' : Schema}
    {delimiter : Char}
    {line : List Char}
    {es : List Element}
    (h : StandsFor schema delimiter line es)
    (hTypes : columnTypes schema' = columnTypes schema) :
    StandsFor schema' delimiter line es := by
  rw [StandsFor, arity_eq_of_columnTypes hTypes, hTypes]
  exact h

end Line

namespace Action

------------------------------------------------------------
-- Writing and Reading Back
------------------------------------------------------------

/- A tuple that can be read is written as the line of its values. -/
theorem run_format
    {s : Store}
    {r : Relation}
    {t : Tuple}
    {es : List Element}
    (delimiter : Char)
    (hBound : t.BoundTo r)
    (hDecode :
      Row.decode (s.table r.table) r.schema.attributes t.cells =
        .ok es) :
    run (format t delimiter) s =
      (.ok (Line.ofValues delimiter es), s) := by
  have hWidth : t.cells.length = t.schema.arity := by
    rw [hBound.width, hBound.schema]
    rfl
  rw [← hBound.schema, ← hBound.table] at hDecode
  simp only [format, run_bind, run_table, run_ofOutcome,
    Line.format_of_decode delimiter hWidth hDecode]
  rfl

/-
  A tuple of a relation is written as a line without line
  ends, wherever its cursor stands, if its symbol cells are
  issued ids, none of its floats is a NaN, and the delimiter
  can be told from what is written.  The relation reads the
  line as a tuple of the same cells, and nothing else changes.
  A relation whose columns have the same types, over whatever
  table, reads it as a tuple of the same values, unless a cell
  cannot number their texts with those that its table knows.
-/
theorem parse_format
    {s : Store}
    {a : RelationId}
    {t : Tuple}
    {delimiter : Char}
    (hBound : t.BoundTo (s.relation a))
    (hIssued :
      ∀ p ∈ (s.relation a).schema.attributes.zip t.cells,
        p.1.type = .symbol →
          (s.table (s.relation a).table).Issued p.2)
    (hNoNaNs :
      ∀ p ∈ (s.relation a).schema.attributes.zip t.cells,
        p.1.type = .float → (Cell.toSingle p.2).isNaN = false)
    (hDelimiter :
      Line.Separates (s.relation a).schema delimiter) :
    let r := s.relation a
    ∃ line es,
      run (format t delimiter) s = (.ok line, s) ∧
        '\n' ∉ line.toList ∧ '\r' ∉ line.toList ∧
        Row.decode (s.table r.table) r.schema.attributes
            t.cells = .ok es ∧
        (∃ t', run (parse a line delimiter) s =
            (.ok (.ok t'), s) ∧
          t'.BoundTo r ∧ t'.cells = t.cells ∧
          t'.position = r.arity) ∧
        ∀ b,
          let r' := s.relation b
          Line.columnTypes r'.schema =
              Line.columnTypes r.schema →
            r'.table.index < s.tables.length →
            let ran := run (parse b line delimiter) s
            let texts :=
              (s.table r'.table).symbols ++ Element.texts es
            let ids := texts.toFinset.card
            (SymbolTable.capacity < ids →
              ran.1 = .error (.violation .symbolsExhausted)) ∧
            (ids ≤ SymbolTable.capacity →
              ∃ t', ran.1 = .ok (.ok t') ∧
                t'.BoundTo r' ∧ t'.position = r.arity ∧
                Row.decode (ran.2.table r'.table)
                    r'.schema.attributes t'.cells = .ok es) := by
  intro r
  rcases Row.exists_decode_of_issued hIssued with ⟨es, hDecode⟩
  have hKinds := Row.kinds_of_decode hBound.width hDecode
  have hStands :=
    Line.standsFor_ofValues hDelimiter hKinds
      (Row.notNaN_of_decode hNoNaNs hDecode)
  refine
    ⟨Line.ofValues delimiter es, es,
      run_format delimiter hBound hDecode,
      Line.not_mem_ofValues (Or.inl rfl) hDelimiter.newline es,
      Line.not_mem_ofValues (Or.inr rfl)
        hDelimiter.carriageReturn es,
      hDecode, ?_, fun b => ?_⟩
  · -- The texts are known, so the same ids are found again.
    have hKnown : Element.texts es ⊆ (s.table r.table).symbols := by
      intro text hText
      exact
        Row.text_mem_of_decode hDecode
          (Element.mem_texts_iff.mp hText)
    have hParse := run_parse_of_standsFor rfl hStands
    rw [SymbolTable.internEach?_of_subset hKnown] at hParse
    rcases hParse with ⟨t', hRun, hBound', hPosition, hDecode'⟩
    refine ⟨t', ?_, hBound', ?_, hPosition⟩
    · rwa [Store.setTable_table] at hRun
    · exact
        Row.decode_inj hBound'.width hBound.width hDecode' hDecode
  · intro r' hTypes hUsed ran texts ids
    have hParse :=
      run_parse_of_standsFor (rfl : s.relation b = r')
        (hStands.of_columnTypes hTypes)
    have hIds :=
      (s.table r'.table).internEach?_spec (Element.texts es)
    cases hIntern :
        (s.table r'.table).internEach? (Element.texts es) with
    | none =>
        rw [hIntern] at hParse hIds
        exact
          ⟨fun _ => hParse,
            fun hFew => absurd hIds (Nat.not_lt.mpr hFew)⟩
    | some table' =>
        rw [hIntern] at hParse hIds
        rcases hParse with
          ⟨t', hRun, hBound', hPosition, hDecode'⟩
        have hArity : r'.arity = r.arity :=
          Line.arity_eq_of_columnTypes hTypes
        have hGrown :
            (s.setTable r'.table table').table r'.table =
              table' :=
          Store.table_setTable table' hUsed
        constructor
        · exact fun hMany =>
            absurd hIds.1 (Nat.not_le.mpr hMany)
        · intro _
          refine
            ⟨t', congrArg Prod.fst hRun, hBound',
              hPosition.trans hArity, ?_⟩
          simp only [ran, hRun]
          rw [hGrown]
          exact hDecode'

/-
  A text of a delimiter, a backslash and a newline, a negative
  number and an infinity are written with a semicolon between
  them.  They are read back by the same relation, and by one
  whose table knows another text.
-/
theorem parse_format_semicolon :
    let schema : Schema :=
      ⟨"m",
        [⟨"who", .symbol, none⟩, ⟨"n", .signed, none⟩,
          ⟨"x", .float, none⟩]⟩
    let a := Relation.memory schema ⟨0⟩
    let b := Relation.memory schema ⟨1⟩
    let s : Store :=
      ⟨[.holding [";\\\n"], .holding ["bob"]], [a, b], .empty⟩
    let t : Tuple :=
      ⟨schema, ⟨0⟩, [0, -7, Cell.ofSingle ⟨0x7f800000⟩], 1⟩
    ∃ line,
      run (format t ';') s = (.ok line, s) ∧
        '\n' ∉ line.toList ∧
        (∃ t', run (parse ⟨0⟩ line ';') s = (.ok (.ok t'), s) ∧
          t'.cells = t.cells) ∧
        let ran := run (parse ⟨1⟩ line ';') s
        ∃ t', ran.1 = .ok (.ok t') ∧
          Row.decode (ran.2.table ⟨1⟩) schema.attributes
              t'.cells =
            .ok
              [.text ";\\\n", .signed (-7),
                .float ⟨0x7f800000⟩] := by
  intro schema a b s t
  have hIssued :
      ∀ p ∈ schema.attributes.zip t.cells,
        p.1.type = .symbol → (s.table ⟨0⟩).Issued p.2 := by
    simp only [schema, t, List.zip_cons_cons, List.zip_nil_left,
      List.forall_mem_cons]
    refine ⟨fun _ => ⟨by decide, by decide⟩, ?_, ?_, by simp⟩
    · exact fun h => by cases h
    · exact fun h => by cases h
  have hNoNaNs :
      ∀ p ∈ schema.attributes.zip t.cells,
        p.1.type = .float → (Cell.toSingle p.2).isNaN = false := by
    simp only [schema, t, List.zip_cons_cons, List.zip_nil_left,
      List.forall_mem_cons]
    refine ⟨?_, ?_, fun _ => by decide, by simp⟩
    · exact fun h => by cases h
    · exact fun h => by cases h
  have hDelimiter : Line.Separates schema ';' := by
    refine ⟨⟨?_, ?_, ?_, ?_⟩, ?_, ?_, fun _ => ?_⟩ <;> decide
  have hValues :
      Row.decode (s.table ⟨0⟩) schema.attributes t.cells =
        .ok
          [.text ";\\\n", .signed (-7),
            .float ⟨0x7f800000⟩] := by
    rfl
  rcases
      @parse_format s ⟨0⟩ t ';' ⟨rfl, rfl, rfl⟩ hIssued hNoNaNs
        hDelimiter with
    ⟨line, es, hFormat, hLine, _, hDecode, ⟨t', hParse, _, hCells, _⟩,
      hOther⟩
  cases hValues.symm.trans hDecode
  refine ⟨line, hFormat, hLine, ⟨t', hParse, hCells⟩, ?_⟩
  rcases
      (hOther ⟨1⟩ rfl (by decide)).2
        ((List.toFinset_card_le _).trans (by decide)) with
    ⟨t'', hOk, _, _, hRead⟩
  exact ⟨t'', hOk, hRead⟩

end Action

end FactStore
