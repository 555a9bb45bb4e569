import FactStore.Proofs.Facts.Columns
import FactStore.Proofs.Facts.Field
import FactStore.Proofs.Number.BinaryFloat

/-
  This file proves that the line written for a row of values
  stands for those values, with any delimiter that can be
  told from what is written, and says for which values it is
  taken for a blank line instead.

  Key definitions include:
    * `Single.isNaN`
    * `Element.NotNaN`, `Element.Canonical`
    * `Line.text`, `Line.ofValues`
    * `Line.Separates`
    * `Line.vanishes`

  Main statements include:
    * `Line.format_of_decode`
    * `Line.standsFor_of_canonical`
    * `Line.not_mem_ofValues`
    * `Line.isBlank_text`
-/

namespace FactStore

/- Whether a float is none of the numbers. -/
def Single.isNaN (x : Single) : Bool :=
  BinaryFormat.single.infinity <
    x.bits.toNat % BinaryFormat.single.signBit

/- A value that is no NaN, as every text is. -/
def Element.NotNaN (e : Element) : Prop :=
  ∀ x, e = .float x → x.isNaN = false

/- A value that is no NaN but the one that is read. -/
def Element.Canonical (e : Element) : Prop :=
  ∀ x, e = .float x → x.isNaN = true → x.bits = 0x7fc00000

theorem Element.NotNaN.canonical
    {e : Element}
    (h : e.NotNaN) : e.Canonical := by
  intro x hFloat hNaN
  rw [h x hFloat] at hNaN
  cases hNaN

namespace Line

------------------------------------------------------------
-- The Line of a Row
------------------------------------------------------------

/- The line of values in columns, with the default delimiter. -/
def text (es : List Element) : List Char :=
  if es = [] then nullary.toList
  else Field.join '\t' (es.map (field '\t'))

/- The same with any delimiter. -/
def ofValues
    (delimiter : Char)
    (es : List Element) : String :=
  if es = [] then nullary
  else
    String.ofList
      (Field.join delimiter (es.map (field delimiter)))

theorem ofValues_tab (es : List Element) :
    ofValues '\t' es = String.ofList (text es) := by
  rw [ofValues, text]
  split
  · rfl
  · rfl

/- Reading columns and writing them gives the decoded fields. -/
theorem fields_of_decode
    (delimiter : Char)
    {table : SymbolTable} :
    ∀ {rest done : List Attribute} {t : Tuple}
      {es : List Element},
      t.At done rest →
      Row.decode table rest (t.cells.drop done.length) = .ok es →
        fields delimiter table t rest =
          .ok (es.map (field delimiter))
| [], done, t, es, _, hDecode => by
    cases hDecode
    rfl
| a :: rest, done, t, es, hAt, hDecode => by
    have hLt : done.length < t.cells.length := by
      rw [hAt.width, Schema.arity, hAt.attributes]
      simp
    rw [List.drop_eq_getElem_cons hLt] at hDecode
    rcases Row.decode_cons_eq_ok_iff.mp hDecode with
      ⟨e, es', hHead, hTail, rfl⟩
    have hFits : (kindOf a.type).fits a.type = true := by
      cases a.type <;> rfl
    have hExpect : t.expect (kindOf a.type) = .ok () :=
      hAt.expect_eq_ok_iff.mpr hFits
    have hCell :
        t.cells.getD t.position 0 = t.cells[done.length] := by
      simp [hAt.position, List.getD, hLt]
    have hRest :
        fields delimiter table t.advance rest =
          .ok (es'.map (field delimiter)) := by
      apply fields_of_decode delimiter hAt.advance
      simpa [Tuple.advance] using hTail
    simp only [fields, Tuple.read, hExpect, hCell, hHead, hRest]
    rfl

/-
  The line of a tuple is that of its values, wherever its
  cursor stands.
-/
theorem format_of_decode
    (delimiter : Char)
    {t : Tuple}
    {table : SymbolTable}
    {es : List Element}
    (hWidth : t.cells.length = t.schema.arity)
    (hDecode :
      Row.decode table t.schema.attributes t.cells = .ok es) :
    format t table delimiter = .ok (ofValues delimiter es) := by
  have hLength : es.length = t.schema.arity :=
    (Row.kinds_of_decode hWidth hDecode).length_eq.symm
  have hAt : t.rewind.At [] t.schema.attributes :=
    ⟨rfl, rfl, hWidth⟩
  have hFields :
      fields delimiter table t.rewind t.schema.attributes =
        .ok (es.map (field delimiter)) :=
    fields_of_decode delimiter hAt hDecode
  unfold format ofValues
  by_cases hNullary : t.schema.arity = 0
  · have hNil : es = [] :=
      List.length_eq_zero_iff.mp (hLength.trans hNullary)
    rw [if_pos hNullary, if_pos hNil]
  · have hNonempty : es ≠ [] := by
      rintro rfl
      exact hNullary hLength.symm
    rw [if_neg hNullary, if_neg hNonempty, hFields]
    rfl

/- The line of a stored row is that of its values. -/
theorem rowLine_of_decode
    (delimiter : Char)
    {r : Relation}
    {table : SymbolTable}
    {row : Row}
    {es : List Element}
    (hWidth : row.length = r.arity)
    (hDecode :
      Row.decode table r.schema.attributes row = .ok es) :
    FactFile.rowLine r table delimiter row =
      .ok (ofValues delimiter es) := by
  let t : Tuple := ⟨r.schema, r.table, row, 0⟩
  have hStored : Tuple.ofStored r.schema r.table row = .ok t :=
    if_pos hWidth
  simp only [FactFile.rowLine, hStored]
  exact @format_of_decode delimiter t table es hWidth hDecode

------------------------------------------------------------
-- Reading Fields
------------------------------------------------------------

/- The text between the delimiters that a field is read as. -/
def fieldValue : Element → List Char
| .text s => s.toList
| e => field '\t' e

/- A field written for a value is taken for that value. -/
theorem taken_fieldValue
    {type : AttrType}
    {e : Element}
    (hKind : e.kind = kindOf type)
    (hCanonical : e.Canonical) :
    taken type (fieldValue e) = .ok e := by
  cases e with
  | text s =>
      have hType : type = .symbol := by
        cases type <;> first | rfl | cases hKind
      rw [hType, taken, fieldValue, String.ofList_toList]
  | signed n =>
      have hType : type = .signed := by
        cases type <;> first | rfl | cases hKind
      have hRead :
          Integer.readSigned signedBound
            (Integer.digits n.toInt) = .ok n.toInt := by
        refine Integer.readSigned_digits ?_ ?_
        · exact n.le_toInt
        · exact Int.le_of_lt_add_one n.toInt_lt
      subst hType
      simp only [taken, fieldValue, field,
        Text.trim_of_isPlain (Integer.isPlain_digits _), hRead]
      exact congrArg (Except.ok ∘ Element.signed)
        (Int32.ofInt_toInt n)
  | unsigned n =>
      have hType : type = .unsigned := by
        cases type <;> first | rfl | cases hKind
      have hRead :
          Integer.readUnsigned unsignedBound
            (Integer.digits n.toNat) = .ok n.toNat :=
        Integer.readUnsigned_digits (Nat.le_of_lt_succ n.toNat_lt)
      subst hType
      simp only [taken, fieldValue, field,
        Text.trim_of_isPlain (Integer.isPlain_digits _), hRead]
      exact congrArg (Except.ok ∘ Element.unsigned)
        (UInt32.ofNat_toNat)
  | float x =>
      have hType : type = .float := by
        cases type <;> first | rfl | cases hKind
      have hRead :
          BinaryFormat.single.read
            (BinaryFormat.single.render x.bits.toNat) =
            .ok x.bits.toNat := by
        cases hNaN : x.isNaN with
        | true =>
            have hQuiet :
                x.bits.toNat = BinaryFormat.single.quietNaN := by
              rw [hCanonical x rfl hNaN]
              rfl
            rw [BinaryFormat.read_render_of_isNaN
              (of_decide_eq_true hNaN), hQuiet]
        | false =>
            apply BinaryFormat.read_render x.bits.toNat_lt
            exact Nat.le_of_not_lt (of_decide_eq_false hNaN)
      subst hType
      simp only [taken, fieldValue, field,
        Text.trim_of_isPlain (BinaryFormat.isPlain_render _ _),
        hRead]
      exact congrArg (fun n => Except.ok (Element.float ⟨n⟩))
        (UInt32.ofNat_toNat)

/- The field of a number is written as numbers are. -/
theorem isNumeral_fieldValue
    {e : Element}
    (hNumeric : ∀ s, e ≠ .text s) :
    Text.IsNumeral (fieldValue e) ∧ fieldValue e ≠ [] := by
  cases e with
  | text s => exact absurd rfl (hNumeric s)
  | signed n =>
      exact ⟨Integer.isNumeral_digits _, Integer.digits_ne_nil _⟩
  | unsigned n =>
      exact ⟨Integer.isNumeral_digits n.toNat,
        Integer.digits_ne_nil n.toNat⟩
  | float x =>
      exact ⟨BinaryFormat.isNumeral_render _ _,
        BinaryFormat.render_ne_nil _ _⟩

/- A number is written alike with every delimiter. -/
theorem field_of_number
    (delimiter : Char)
    {e : Element}
    (hNumeric : ∀ s, e ≠ .text s) :
    field delimiter e = fieldValue e := by
  cases e with
  | text s => exact absurd rfl (hNumeric s)
  | signed n => rfl
  | unsigned n => rfl
  | float x => rfl

/-
  A field is read as its value where no escape is written
  with the delimiter, and no number either.
-/
theorem readsAs_field
    {delimiter : Char}
    {e : Element}
    (hEscapes : Field.IsSeparator delimiter)
    (hNumbers :
      (∀ s, e ≠ .text s) → Text.isNumeral delimiter = false) :
    Field.ReadsAs delimiter (field delimiter e)
      (fieldValue e) := by
  by_cases hText : ∃ s, e = .text s
  · rcases hText with ⟨s, rfl⟩
    exact Field.readsAs_escape hEscapes s.toList
  · have hNumeric : ∀ s, e ≠ .text s :=
      fun s hs => hText ⟨s, hs⟩
    have hNumeral := (isNumeral_fieldValue hNumeric).1
    have hDelimiter : delimiter ∉ fieldValue e := by
      intro hMem
      have hOther := hNumbers hNumeric
      rw [hNumeral delimiter hMem] at hOther
      cases hOther
    have hBackslash : '\\' ∉ fieldValue e := fun hMem =>
      (Text.isPlain_of_isNumeral hNumeral _ hMem).2 rfl
    rw [field_of_number delimiter hNumeric]
    exact Field.readsAs_of_not_mem hDelimiter hBackslash

------------------------------------------------------------
-- Reading the Line
------------------------------------------------------------

/- Each field is taken for the value that it was written for. -/
theorem readings_fieldValues
    {attributes : List Attribute}
    {es : List Element}
    (hKinds :
      List.Forall₂ (fun a e => e.kind = kindOf a.type)
        attributes es)
    (hCanonical : ∀ e ∈ es, e.Canonical) :
    readings (attributes.map (·.type)) (es.map fieldValue) =
      es.map .ok := by
  unfold readings
  rw [List.zipWith_map]
  induction hKinds with
  | nil => rfl
  | cons hKind _ ih =>
      rw [List.zipWith_cons_cons, List.map_cons,
        taken_fieldValue hKind (hCanonical _ List.mem_cons_self),
        ih fun e he => hCanonical e (List.mem_cons_of_mem _ he)]

/-
  A delimiter that lines of a schema can be written with: it
  is in no escape, it ends no line, and where there are
  numbers, none is written with it.
-/
structure Separates
    (schema : Schema)
    (delimiter : Char) : Prop where
  escapes : Field.IsSeparator delimiter
  newline : delimiter ≠ '\n'
  carriageReturn : delimiter ≠ '\r'
  numbers :
    (∃ a ∈ schema.attributes, a.type ≠ .symbol) →
      Text.isNumeral delimiter = false

theorem separates_tab (schema : Schema) : Separates schema '\t' := by
  refine ⟨Field.isSeparator_tab, ?_, ?_, fun _ => ?_⟩ <;> decide

/- A row with a number has a column of numbers. -/
theorem Separates.isNumeral_eq_false
    {schema : Schema}
    {delimiter : Char}
    (h : Separates schema delimiter)
    {es : List Element}
    (hKinds :
      List.Forall₂ (fun a e => e.kind = kindOf a.type)
        schema.attributes es)
    {e : Element}
    (hMem : e ∈ es)
    (hNumeric : ∀ s, e ≠ .text s) :
    Text.isNumeral delimiter = false := by
  apply h.numbers
  rcases List.mem_iff_getElem.mp hMem with ⟨i, hLt, rfl⟩
  have hColumn : i < schema.attributes.length := by
    rwa [hKinds.length_eq]
  refine ⟨_, List.getElem_mem hColumn, fun hSymbol => ?_⟩
  have hKind := hKinds.get hColumn hLt
  simp only [List.get_eq_getElem, hSymbol] at hKind
  cases hValue : es[i] with
  | text s => exact hNumeric s hValue
  | _ =>
      rw [hValue] at hKind
      cases hKind

/- The line of a row stands for the values of the row. -/
theorem standsFor_of_canonical
    {schema : Schema}
    {delimiter : Char}
    (hDelimiter : Separates schema delimiter)
    {es : List Element}
    (hKinds :
      List.Forall₂ (fun a e => e.kind = kindOf a.type)
        schema.attributes es)
    (hCanonical : ∀ e ∈ es, e.Canonical) :
    StandsFor schema delimiter (ofValues delimiter es).toList
      es := by
  have hLength : es.length = schema.arity :=
    hKinds.length_eq.symm
  unfold StandsFor ofValues
  by_cases hNullary : schema.arity = 0
  · have hNil : es = [] :=
      List.length_eq_zero_iff.mp (hLength.trans hNullary)
    rw [if_pos hNullary, if_pos hNil]
    exact ⟨Text.trim_of_isPlain (by decide), hNil⟩
  · have hNonempty : es ≠ [] := by
      rintro rfl
      exact hNullary hLength.symm
    have hFields :
        List.Forall₂ (Field.ReadsAs delimiter)
          (es.map (field delimiter)) (es.map fieldValue) := by
      rw [List.forall₂_map_left_iff, List.forall₂_map_right_iff,
        List.forall₂_same]
      exact fun e hMem =>
        readsAs_field hDelimiter.escapes
          (hDelimiter.isNumeral_eq_false hKinds hMem)
    have hSplit :
        Field.split delimiter
            (Field.join delimiter (es.map (field delimiter))) =
          es.map fieldValue :=
      Field.split_join hFields (by simpa using hNonempty)
    rw [if_neg hNullary, if_neg hNonempty, String.toList_ofList,
      hSplit]
    exact
      ⟨(List.length_map _).trans hLength,
        readings_fieldValues hKinds hCanonical⟩

theorem standsFor_ofValues
    {schema : Schema}
    {delimiter : Char}
    (hDelimiter : Separates schema delimiter)
    {es : List Element}
    (hKinds :
      List.Forall₂ (fun a e => e.kind = kindOf a.type)
        schema.attributes es)
    (hNoNaNs : ∀ e ∈ es, e.NotNaN) :
    StandsFor schema delimiter (ofValues delimiter es).toList
      es :=
  standsFor_of_canonical hDelimiter hKinds fun e he =>
    (hNoNaNs e he).canonical

theorem standsFor_text
    {schema : Schema}
    {es : List Element}
    (hKinds :
      List.Forall₂ (fun a e => e.kind = kindOf a.type)
        schema.attributes es)
    (hCanonical : ∀ e ∈ es, e.Canonical) :
    StandsFor schema '\t' (text es) es := by
  have hStands :=
    standsFor_of_canonical (separates_tab schema) hKinds
      hCanonical
  rwa [ofValues_tab, String.toList_ofList] at hStands

------------------------------------------------------------
-- Blank Lines
------------------------------------------------------------

end Line

/- Whether a value leaves nothing in a line that can be seen. -/
def Element.vanishes : Element → Bool
| .text s =>
    s.toList.all fun c =>
      Text.isBlank c && c ≠ '\n' && c ≠ '\r' && c ≠ '\t'
| _ => false

namespace Line

/-
  Whether the line of a row is taken for a blank one: there
  are columns, and all of them are texts of blanks that need
  no escape, the empty text among them.
-/
def vanishes (es : List Element) : Bool :=
  !es.isEmpty && es.all Element.vanishes

/- Of the escaped characters none is a blank. -/
theorem all_isBlank_escapeChar (c : Char) :
    (Field.escapeChar '\t' c).all Text.isBlank =
      (Text.isBlank c && c ≠ '\n' && c ≠ '\r' && c ≠ '\t') := by
  by_cases h₁ : c = '\\'
  · subst h₁
    decide
  by_cases h₂ : c = '\n'
  · subst h₂
    decide
  by_cases h₃ : c = '\r'
  · subst h₃
    decide
  by_cases h₄ : c = '\t'
  · subst h₄
    decide
  simp [Field.escapeChar, h₁, h₂, h₃, h₄]

/- The field of a value is blank when the value vanishes. -/
theorem all_isBlank_field (e : Element) :
    (field '\t' e).all Text.isBlank = e.vanishes := by
  have hNumber :
      (∀ s, e ≠ .text s) →
        (fieldValue e).all Text.isBlank = false := by
    intro hNumeric
    rcases isNumeral_fieldValue hNumeric with
      ⟨hNumeral, hNonempty⟩
    rcases List.exists_cons_of_ne_nil hNonempty with ⟨c, cs, hcs⟩
    have hHead : c ∈ fieldValue e := by simp [hcs]
    have hPlain := Text.isPlain_of_isNumeral hNumeral c hHead
    simp [hcs, hPlain.1]
  cases e with
  | text s =>
      simp only [field, Field.escape, List.all_flatMap,
        all_isBlank_escapeChar, Element.vanishes]
  | signed n => exact hNumber (by simp)
  | unsigned n => exact hNumber (by simp)
  | float x => exact hNumber (by simp)

/- The line of a row is blank exactly when the row vanishes. -/
theorem isBlank_text (es : List Element) :
    FactFile.isBlank (text es) = vanishes es := by
  unfold FactFile.isBlank text vanishes
  split
  · rename_i hNil
    subst hNil
    decide
  · rename_i hNonempty
    have hFields :
        (·.all Text.isBlank) ∘ field '\t' = Element.vanishes :=
      funext all_isBlank_field
    rw [Field.all_join (by decide), List.all_map, hFields]
    simp [hNonempty]

/- No line end stands within the line of a row. -/
theorem not_mem_ofValues
    {c delimiter : Char}
    (hEnd : c = '\n' ∨ c = '\r')
    (hDelimiter : delimiter ≠ c)
    (es : List Element) : c ∉ (ofValues delimiter es).toList := by
  have hField : ∀ e, c ∉ field delimiter e := by
    intro e hc
    by_cases hText : ∃ s, e = .text s
    · rcases hText with ⟨s, rfl⟩
      refine Field.not_mem_escape ?_ delimiter s.toList hc
      rcases hEnd with rfl | rfl <;> simp
    · have hNumeric : ∀ s, e ≠ .text s :=
        fun s hs => hText ⟨s, hs⟩
      rw [field_of_number delimiter hNumeric] at hc
      have hNumeral := (isNumeral_fieldValue hNumeric).1 c hc
      rcases hEnd with rfl | rfl <;> revert hNumeral <;> decide
  unfold ofValues
  split
  · rcases hEnd with rfl | rfl <;> decide
  · have hAll :
        (Field.join delimiter (es.map (field delimiter))).all
          (· ≠ c) = true := by
      rw [Field.all_join (by simpa using hDelimiter)]
      simp only [List.all_eq_true, List.mem_map,
        decide_eq_true_eq]
      rintro _ ⟨e, _, rfl⟩ d hd rfl
      exact hField e hd
    intro hc
    rw [String.toList_ofList] at hc
    simpa using List.all_eq_true.mp hAll c hc

theorem not_mem_text
    {c : Char}
    (hEnd : c = '\n' ∨ c = '\r')
    (es : List Element) : c ∉ text es := by
  have hTab : '\t' ≠ c := by
    rcases hEnd with rfl | rfl <;> decide
  have hLine := not_mem_ofValues hEnd hTab es
  rwa [ofValues_tab, String.toList_ofList] at hLine

end Line

end FactStore
