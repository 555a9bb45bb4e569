import FactStore.Proofs.Schema.Declaration
import FactStore.Proofs.Store.Evolution

/-
  This file proves what the signature of a schema says about
  its columns.  The columns are listed between commas, and
  the name of a declared type may itself have commas, so two
  schemas of one signature may differ.  They agree as soon as
  their commas stand in the same columns.

  Key definitions include:
    * `Schema.columns`
    * `Schema.commas`

  Main statements include:
    * `Schema.columns_eq_of_signature_eq`
    * `Relation.columns_eq_iff_of_insert`
    * `Relation.insert_takes_other_columns`
-/

namespace FactStore

------------------------------------------------------------
-- Texts between Separators
------------------------------------------------------------

namespace Text

/-
  The text before a separator is known when it is known how
  many more of them stand in it.
-/
theorem eq_of_append_separator_eq
    {separator : Char}
    {rest rest' : List Char}
    (x : List Char) :
    ∀ {y : List Char},
      x.count separator = y.count separator →
        x ++ separator :: rest = y ++ separator :: rest' →
          x = y ∧ rest = rest' := by
  induction x with
  | nil =>
      intro y hCount hText
      cases y with
      | nil => exact ⟨rfl, (List.cons.inj hText).2⟩
      | cons d y =>
          have hHead : separator = d := (List.cons.inj hText).1
          simp [hHead] at hCount
  | cons c x ih =>
      intro y hCount hText
      cases y with
      | nil =>
          have hHead : c = separator := (List.cons.inj hText).1
          simp [hHead] at hCount
      | cons d y =>
          rcases List.cons.inj hText with ⟨hHead, hTail⟩
          subst hHead
          have hCount' : x.count separator = y.count separator := by
            simpa [List.count_cons] using hCount
          rcases ih hCount' hTail with ⟨hText', hRest⟩
          exact ⟨congrArg (c :: ·) hText', hRest⟩

/-
  Texts between separators are known when it is known how
  many more separators stand in each of them.
-/
theorem eq_of_intercalate_eq
    (separator : Char)
    (xs : List (List Char)) :
    ∀ {ys : List (List Char)},
      xs.map (·.count separator) = ys.map (·.count separator) →
        [separator].intercalate xs = [separator].intercalate ys →
          xs = ys := by
  induction xs with
  | nil =>
      intro ys hCounts _
      exact (List.map_eq_nil_iff.mp hCounts.symm).symm
  | cons x xs ih =>
      intro ys hCounts hText
      cases ys with
      | nil => cases hCounts
      | cons y ys =>
          rcases List.cons.inj hCounts with ⟨hCount, hCounts'⟩
          cases xs with
          | nil =>
              have hNil : ys = [] :=
                List.map_eq_nil_iff.mp hCounts'.symm
              subst hNil
              simpa using hText
          | cons x' xs =>
              cases ys with
              | nil => cases hCounts'
              | cons y' ys =>
                  simp only [List.intercalate_cons_cons,
                    List.append_assoc,
                    List.singleton_append] at hText
                  rcases eq_of_append_separator_eq x hCount hText with
                    ⟨hHead, hTail⟩
                  rw [hHead, ih hCounts' hTail]

end Text

------------------------------------------------------------
-- Columns
------------------------------------------------------------

/-
  What a relation demands of a column: its type and the name
  that the type was declared under.
-/
abbrev Column := AttrType × Option String

namespace Column

/- The text of a column between the commas of a signature. -/
def text : Column → List Char
| (type, some typeName) => type.tag :: ':' :: typeName.toList
| (type, none) => [type.tag]

/- The number of commas in the name of the type. -/
def commas (c : Column) : Nat :=
  (c.2.getD "").toList.count ','

/- Different columns have different texts. -/
theorem eq_of_text_eq :
    ∀ {c d : Column}, c.text = d.text → c = d
| (type, some name), (type', some name'), h => by
    rcases List.cons.inj h with ⟨hTag, hName⟩
    have hType := congrArg AttrType.ofTag? hTag
    simp only [AttrType.ofTag?_tag, Option.some.injEq] at hType
    rw [hType, String.toList_inj.mp (List.cons.inj hName).2]
| (type, none), (type', none), h => by
    have hType :=
      congrArg AttrType.ofTag? (List.cons.inj h).1
    simp only [AttrType.ofTag?_tag, Option.some.injEq] at hType
    rw [hType]
| (type, some name), (type', none), h => by
    cases (List.cons.inj h).2
| (type, none), (type', some name'), h => by
    cases (List.cons.inj h).2

/- The commas in the text are those in the name of the type. -/
theorem count_text (c : Column) :
    c.text.count ',' = c.commas := by
  rcases c with ⟨type, typeName⟩
  have hTag : type.tag ≠ ',' := by
    cases type <;> decide
  cases typeName with
  | none => simp [text, commas, List.count_cons_of_ne hTag]
  | some name => simp [text, commas, List.count_cons_of_ne hTag]

end Column

namespace Schema

/- The columns of a schema without their names. -/
def columns (s : Schema) : List Column :=
  s.attributes.map fun a => (a.type, a.typeName)

/- The number of commas in the type name of each column. -/
def commas (s : Schema) : List Nat :=
  s.columns.map Column.commas

/- The signature lists the texts of the columns. -/
theorem toList_signature (s : Schema) :
    s.signature.toList =
      '<' :: [','].intercalate (s.columns.map Column.text) ++
        ['>'] := by
  have hText :
      ∀ a : Attribute,
        a.declaredType.toList = Column.text (a.type, a.typeName) := by
    intro a
    rw [Attribute.toList_declaredType]
    cases a.typeName <;> rfl
  simp [signature, columns, Function.comp_def, hText]

/-
  Two schemas of one signature have the same columns if their
  type names have as many commas, column by column.
-/
theorem columns_eq_of_signature_eq
    {s s' : Schema}
    (hCommas : s.commas = s'.commas)
    (hSignature : s.signature = s'.signature) :
    s.columns = s'.columns := by
  have hText := congrArg String.toList hSignature
  simp only [toList_signature, List.cons_append,
    List.cons.injEq, true_and, List.append_cancel_right_eq]
    at hText
  have hCounts :
      (s.columns.map Column.text).map (·.count ',') =
        (s'.columns.map Column.text).map (·.count ',') := by
    simpa [Function.comp_def, Column.count_text, commas]
      using hCommas
  have hTexts := Text.eq_of_intercalate_eq ',' _ hCounts hText
  exact
    (List.map_inj_right fun _ _ => Column.eq_of_text_eq).mp hTexts

end Schema

------------------------------------------------------------
-- The Guard of Insertion
------------------------------------------------------------

namespace Relation

/-
  When a set of rows takes a tuple that is bound to another
  relation, both have as many columns.  The columns are the
  same exactly when their type names have as many commas,
  column by column.
-/
theorem columns_eq_iff_of_insert
    {a b b' : Relation}
    {t : Tuple}
    (hMemory : b.IsMemory)
    (hBound : t.BoundTo a)
    (hInsert : b.insert t = .ok b') :
    a.arity = b.arity ∧
      (a.schema.columns = b.schema.columns ↔
        a.schema.commas = b.schema.commas) := by
  rcases hMemory with ⟨rows, hStorage⟩
  rcases (insert_eq_ok_iff hStorage).mp hInsert with
    ⟨hSignature, hWidth, _⟩
  rw [hBound.schema] at hSignature
  refine ⟨hBound.width.symm.trans hWidth, ?_, ?_⟩
  · intro hColumns
    rw [Schema.commas, Schema.commas, hColumns]
  · intro hCommas
    exact Schema.columns_eq_of_signature_eq hCommas hSignature

/- Two columns, of which the first has a comma in its type. -/
def commaFirst (name : String) : Relation :=
  .memory
    ⟨name, [⟨"x", .symbol, some "x,i:y"⟩, ⟨"y", .symbol, some "z"⟩]⟩
    ⟨0⟩

/- Two columns, of which the second has a comma in its type. -/
def commaSecond (name : String) : Relation :=
  .memory
    ⟨name, [⟨"x", .symbol, some "x"⟩, ⟨"y", .signed, some "y,s:z"⟩]⟩
    ⟨0⟩

/-
  A tuple is taken from one to the other: both signatures read
  alike, and only the commas tell the columns apart.
-/
theorem columns_eq_iff_of_insert_commaFirst :
    let a := commaFirst "a"
    let b := commaSecond "b"
    ∃ b',
      b.insert a.blankTuple = .ok b' ∧
        b'.rows = [[0, 0]] ∧
        a.arity = b.arity ∧
        (a.schema.columns = b.schema.columns ↔
          a.schema.commas = b.schema.commas) ∧
        a.schema.commas = [1, 0] ∧
        b.schema.commas = [0, 1] := by
  intro a b
  have hInsert :
      b.insert a.blankTuple =
        .ok
          { b with
            storage := .memory (RowSet.empty.insert [0, 0]) } := by
    rfl
  have hColumns :=
    columns_eq_iff_of_insert ⟨_, rfl⟩ ⟨rfl, rfl, rfl⟩ hInsert
  exact
    ⟨_, hInsert, rfl, hColumns.1, hColumns.2, by decide,
      by decide⟩

/-
  A column of symbols takes the place of one of numbers when
  the comma stands in another column.
-/
theorem insert_takes_other_columns :
    Schema.ofDeclarations "a" [("x", "s:x,i:y"), ("y", "s:z")] =
        .ok (commaFirst "a").schema ∧
      Schema.ofDeclarations "b"
          [("x", "s:x"), ("y", "i:y,s:z")] =
        .ok (commaSecond "b").schema ∧
      (commaFirst "a").blankTuple.BoundTo (commaFirst "a") ∧
      (∃ b', (commaSecond "b").insert (commaFirst "a").blankTuple =
        .ok b') ∧
      (commaFirst "a").schema.columns.map (·.1) ≠
        (commaSecond "b").schema.columns.map (·.1) := by
  refine ⟨by rfl, by rfl, ?_, ⟨_, by rfl⟩, by decide⟩
  exact ⟨rfl, rfl, rfl⟩

end Relation

end FactStore
