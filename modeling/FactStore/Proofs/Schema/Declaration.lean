import FactStore.Proofs.Outcome
import FactStore.Relation

/-
  This file proves that declared types are canonical.  A
  schema is made of declarations exactly when each of them
  starts with a known tag, and it is made again of the types
  that its columns declare themselves.  What a relation says
  about its columns one by one adds up to a signature of
  these declared types.

  Key definitions include:
    * `AttrType.Tagged`
    * `Schema.declarations`

  Main statements include:
    * `Attribute.ofDeclaration_spec`
    * `Attribute.ofDeclaration_declaredType`
    * `Relation.signature_eq`
    * `Schema.ofDeclarations_canonical`
-/

namespace FactStore

------------------------------------------------------------
-- Tags
------------------------------------------------------------

namespace AttrType

/- A declaration that starts with a known tag. -/
def Tagged (declared : String) : Prop :=
  ∃ tag ∈ ['i', 'u', 'r', 'f', 's'],
    declared.toList.head? = some tag

/- The known tags are those that name a type. -/
theorem ofTag?_eq_none_iff (tag : Char) :
    ofTag? tag = none ↔ tag ∉ ['i', 'u', 'r', 'f', 's'] := by
  unfold ofTag?
  split <;> simp_all

/- No tag is the character that ends a tag. -/
theorem tag_ne_colon (type : AttrType) : type.tag ≠ ':' := by
  cases type <;> decide

/-
  A declaration names a type exactly when it starts with a
  known tag; any other is answered with its first character,
  or with a blank when it has none.
-/
theorem ofDeclared_spec (declared : String) :
    match ofDeclared declared.toList with
    | .error tag =>
        ¬ Tagged declared ∧ tag = declared.toList.headD ' '
    | .ok _ => Tagged declared := by
  unfold ofDeclared Tagged
  cases hText : declared.toList with
  | nil => simp [ofTag?]
  | cons c rest =>
      simp only [List.headD_cons, List.head?_cons,
        Option.some_inj, exists_eq_right']
      cases hTag : ofTag? c with
      | none => exact ⟨(ofTag?_eq_none_iff c).mp hTag, rfl⟩
      | some type =>
          by_contra hUnknown
          rw [(ofTag?_eq_none_iff c).mpr hUnknown] at hTag
          cases hTag

end AttrType

------------------------------------------------------------
-- One Column
------------------------------------------------------------

namespace Attribute

/- A declared type is written as its tag and its name. -/
theorem toList_declaredType (a : Attribute) :
    a.declaredType.toList =
      match a.typeName with
      | some typeName => a.type.tag :: ':' :: typeName.toList
      | none => [a.type.tag] := by
  rcases a with ⟨_, type, typeName⟩
  cases typeName <;> simp [declaredType]

/- The name of a declared type is never empty. -/
theorem typeNameOf?_ne_empty (declared : List Char) :
    typeNameOf? declared ≠ some "" := by
  unfold typeNameOf?
  rcases declared.dropWhile (· ≠ ':') with _ | ⟨_, _ | ⟨c, rest⟩⟩
  · simp
  · simp
  · intro hEmpty
    have hText := congrArg String.toList (Option.some_inj.mp hEmpty)
    rw [String.toList_ofList] at hText
    cases hText

/-
  A column is made of a declaration exactly when it starts
  with a known tag.  The column has the given name, and the
  name of its type is not empty.
-/
theorem ofDeclaration_spec (name declared : String) :
    match ofDeclaration name declared with
    | .error tag =>
        ¬ AttrType.Tagged declared ∧
          tag = declared.toList.headD ' '
    | .ok a =>
        AttrType.Tagged declared ∧ a.name = name ∧
          a.typeName ≠ some "" := by
  have hDeclared := AttrType.ofDeclared_spec declared
  unfold ofDeclaration
  cases hType : AttrType.ofDeclared declared.toList with
  | error tag =>
      rw [hType] at hDeclared
      exact hDeclared
  | ok type =>
      rw [hType] at hDeclared
      exact ⟨hDeclared, rfl, typeNameOf?_ne_empty _⟩

/- A column is made again of its own declared type. -/
theorem ofDeclaration_declaredType
    {a : Attribute}
    (hName : a.typeName ≠ some "") :
    ofDeclaration a.name a.declaredType = .ok a := by
  have hTag : a.type.tag ≠ ':' := a.type.tag_ne_colon
  have hType :
      ∀ rest,
        AttrType.ofDeclared (a.type.tag :: rest) = .ok a.type := by
    simp [AttrType.ofDeclared]
  have hTypeName :
      typeNameOf? a.declaredType.toList = a.typeName := by
    rw [toList_declaredType]
    cases hDeclared : a.typeName with
    | none => simp [typeNameOf?, hTag]
    | some typeName =>
        have hNonempty : typeName.toList ≠ [] := by
          rw [hDeclared] at hName
          exact fun hNil =>
            hName (congrArg some (String.toList_eq_nil_iff.mp hNil))
        have hDrop :
            (a.type.tag :: ':' :: typeName.toList).dropWhile
                (· ≠ ':') =
              ':' :: typeName.toList := by
          simp [hTag]
        rcases List.exists_cons_of_ne_nil hNonempty with
          ⟨c, rest, hText⟩
        rw [typeNameOf?, hDrop, hText]
        change some (String.ofList (c :: rest)) = some typeName
        rw [← hText, String.ofList_toList]
  have hDeclared :
      AttrType.ofDeclared a.declaredType.toList = .ok a.type := by
    rw [toList_declaredType]
    cases a.typeName <;> exact hType _
  rw [ofDeclaration, hDeclared, hTypeName]

end Attribute

------------------------------------------------------------
-- Signatures
------------------------------------------------------------

namespace Relation

/- What a set of rows says about a column is its declared type. -/
theorem columnText_eq
    {schema : Schema}
    {table : TableId}
    {rows : RowSet}
    {column : Nat}
    {a : Attribute}
    (h : schema.attributes[column]? = some a) :
    columnText ⟨schema, table, .memory rows⟩ column =
      .ok a.declaredType := by
  have hColumn :
      attributeAt ⟨schema, table, .memory rows⟩ column = .ok a := by
    simp only [attributeAt, h]
  simp only [columnText, typeName, hColumn]
  rcases a with ⟨_, type, typeName⟩
  cases typeName <;> rfl

/-
  Whatever rows it holds, a set of rows has the signature of
  its schema: no column is asked for that is not there.
-/
theorem signature_eq
    (schema : Schema)
    (table : TableId)
    (rows : RowSet) :
    signature ⟨schema, table, .memory rows⟩ =
      .ok schema.signature := by
  let r : Relation := ⟨schema, table, .memory rows⟩
  have hTexts :
      (List.range r.arity).mapM r.columnText =
        .ok (schema.attributes.map (·.declaredType)) := by
    rw [mapM_eq_ok_iff, List.forall₂_map_right_iff,
      List.forall₂_iff_get]
    refine ⟨List.length_range, fun column hLt hLt' => ?_⟩
    rw [List.get_eq_getElem, List.getElem_range]
    exact columnText_eq (List.getElem?_eq_getElem hLt')
  rw [signature, hTexts]
  rfl

end Relation

------------------------------------------------------------
-- Schemas
------------------------------------------------------------

namespace Schema

/- The columns of a schema as they declare themselves. -/
def declarations (s : Schema) : List (String × String) :=
  s.attributes.map fun a => (a.name, a.declaredType)

/- Columns that are made of declarations, one of each. -/
theorem columns_of_forall₂
    {columns : List (String × String)}
    {attributes : List Attribute}
    (h :
      List.Forall₂
        (fun c a => Attribute.ofDeclaration c.1 c.2 = .ok a)
        columns attributes) :
    (∀ c ∈ columns, AttrType.Tagged c.2) ∧
      attributes.map (·.name) = columns.map (·.1) ∧
      ∀ a ∈ attributes, a.typeName ≠ some "" := by
  induction h with
  | nil => simp
  | @cons c a columns attributes hColumn _ ih =>
      have hSpec := Attribute.ofDeclaration_spec c.1 c.2
      rw [hColumn] at hSpec
      rcases hSpec with ⟨hTagged, hName, hTypeName⟩
      rcases ih with ⟨hAllTagged, hNames, hTypeNames⟩
      refine
        ⟨List.forall_mem_cons.mpr ⟨hTagged, hAllTagged⟩, ?_,
          List.forall_mem_cons.mpr ⟨hTypeName, hTypeNames⟩⟩
      rw [List.map_cons, List.map_cons, hName, hNames]

/- Columns whose type names are not empty are made again. -/
theorem ofDeclarations_declarations
    {s : Schema}
    (hNames : ∀ a ∈ s.attributes, a.typeName ≠ some "") :
    ofDeclarations s.name s.declarations = .ok s := by
  have hColumns :
      s.declarations.mapM
          (fun c => Attribute.ofDeclaration c.1 c.2) =
        .ok s.attributes := by
    rw [mapM_eq_ok_iff, declarations, List.forall₂_map_left_iff,
      List.forall₂_same]
    exact fun a ha =>
      Attribute.ofDeclaration_declaredType (hNames a ha)
  rw [ofDeclarations, hColumns]

/-
  Columns with declared types make a schema exactly when each
  declaration starts with a known tag; otherwise the answer
  is the first character of the first other one, or a blank
  when that one is empty.  The schema is made again of the
  types that its columns declare themselves, and a set of
  rows of that schema has, whatever rows it holds, these
  types between commas as its signature.
-/
theorem ofDeclarations_canonical
    (name : String)
    (columns : List (String × String)) :
    match ofDeclarations name columns with
    | .error tag =>
        ∃ before column after,
          columns = before ++ column :: after ∧
            (∀ c ∈ before, AttrType.Tagged c.2) ∧
            ¬ AttrType.Tagged column.2 ∧
            tag = column.2.toList.headD ' '
    | .ok schema =>
        (∀ c ∈ columns, AttrType.Tagged c.2) ∧
          schema.name = name ∧
          schema.attributes.map (·.name) = columns.map (·.1) ∧
          ofDeclarations schema.name schema.declarations =
            .ok schema ∧
          ∀ (table : TableId) (rows : RowSet),
            Relation.signature ⟨schema, table, .memory rows⟩ =
              .ok
                ("<" ++
                  ",".intercalate
                    (schema.attributes.map (·.declaredType)) ++
                  ">") := by
  unfold ofDeclarations
  cases hColumns :
      columns.mapM fun c => Attribute.ofDeclaration c.1 c.2 with
  | error tag =>
      rcases mapM_eq_error_iff.mp hColumns with
        ⟨before, column, after, hSplit, hBefore, hFails⟩
      have hRefused :=
        Attribute.ofDeclaration_spec column.1 column.2
      rw [hFails] at hRefused
      refine ⟨before, column, after, hSplit, ?_, hRefused⟩
      intro c hc
      rcases hBefore c hc with ⟨a, ha⟩
      have hTaken := Attribute.ofDeclaration_spec c.1 c.2
      rw [ha] at hTaken
      exact hTaken.1
  | ok attributes =>
      rcases columns_of_forall₂ (mapM_eq_ok_iff.mp hColumns) with
        ⟨hTagged, hNames, hTypeNames⟩
      exact
        ⟨hTagged, rfl, hNames,
          ofDeclarations_declarations hTypeNames,
          Relation.signature_eq _⟩

end Schema

end FactStore
