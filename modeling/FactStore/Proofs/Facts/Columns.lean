import FactStore.Proofs.Store.Evolution
import FactStore.Proofs.SymbolTable.Lookups

/-
  This file proves what any line is taken for.  Each column
  takes its field or not, by its type.  A line whose fields
  are all taken is parsed as a tuple that holds what they
  stand for; any other line is rejected for the number of its
  fields or for the first that is not taken, and then nothing
  is interned.

  Key definitions include:
    * `Line.taken`
    * `Line.readings`, `Line.FirstUntaken`
    * `Line.StandsFor`
    * `Store.rejection?`

  Main statements include:
    * `Line.values_spec`
    * `Line.parse_spec`
    * `Store.rejection?_of_evolves`
    * `Action.parse_ok_iff_columns_take`
-/

namespace FactStore

namespace Line

------------------------------------------------------------
-- Fields
------------------------------------------------------------

/-
  What a field stands for in a column of a type.  A text is
  taken as it stands, a number without the blanks around it.
-/
def taken : AttrType → List Char → Except NumberFault Element
| .symbol, field => .ok (.text (String.ofList field))
| .signed, field =>
    (Integer.readSigned signedBound (Text.trim field)).map
      fun n => .signed (Int32.ofInt n)
| .unsigned, field =>
    (Integer.readUnsigned unsignedBound (Text.trim field)).map
      fun n => .unsigned (UInt32.ofNat n)
| .float, field =>
    (BinaryFormat.single.read (Text.trim field)).map
      fun n => .float ⟨UInt32.ofNat n⟩

/- A column takes its field for a value of its own kind. -/
theorem kind_of_taken
    {type : AttrType}
    {field : List Char}
    {e : Element}
    (h : taken type field = .ok e) : e.kind = kindOf type := by
  have hMap :
      ∀ {α : Type} {answer : Except NumberFault α}
        {value : α → Element} {kind : ElementKind},
        (∀ a, (value a).kind = kind) →
          answer.map value = .ok e → e.kind = kind := by
    intro α answer value kind hKind hOk
    cases answer with
    | error fault => cases hOk
    | ok a =>
        cases hOk
        exact hKind a
  cases type with
  | symbol =>
      cases h
      rfl
  | signed => exact hMap (fun _ => rfl) h
  | unsigned => exact hMap (fun _ => rfl) h
  | float => exact hMap (fun _ => rfl) h

/- The value that a line is first read as, in any column. -/
def raw : Element → Element
| .text s => .text s
| e => .signed e.bits

/- The texts among values stay when numbers become cells. -/
theorem texts_map_raw (es : List Element) :
    Element.texts (es.map raw) = Element.texts es := by
  unfold Element.texts
  rw [List.filterMap_map]
  apply List.filterMap_congr
  intro e _
  cases e <;> rfl

/- A column that takes its field leaves the rest to be checked. -/
theorem validate_cons
    (column : Nat)
    (type : AttrType)
    (types : List AttrType)
    (field : List Char)
    (fields : List (List Char)) :
    validate column (type :: types) (field :: fields) =
      match taken type field with
      | .ok e =>
          (validate (column + 1) types fields).map (raw e :: ·)
      | .error reason =>
          .error
            (.badNumber column (String.ofList field) reason) := by
  have hRest :
      ∀ v : Element,
        ((validate (column + 1) types fields).bind fun vs =>
            .ok (v :: vs)) =
          (validate (column + 1) types fields).map (v :: ·) := by
    intro v
    cases validate (column + 1) types fields <;> rfl
  cases type with
  | symbol => exact hRest _
  | signed =>
      simp only [validate, taken, readCell]
      cases Integer.readSigned signedBound (Text.trim field) with
      | ok n => exact hRest _
      | error reason => rfl
  | unsigned =>
      simp only [validate, taken, readCell]
      cases
        Integer.readUnsigned unsignedBound (Text.trim field) with
      | ok n => exact hRest _
      | error reason => rfl
  | float =>
      simp only [validate, taken, readCell]
      cases BinaryFormat.single.read (Text.trim field) with
      | ok n => exact hRest _
      | error reason => rfl

/- What the columns take the fields of a line for. -/
def readings
    (types : List AttrType)
    (fields : List (List Char)) :
    List (Except NumberFault Element) :=
  List.zipWith taken types fields

/-
  The first column that does not take its field, and why it
  does not.
-/
structure FirstUntaken
    (types : List AttrType)
    (fields : List (List Char))
    (column : Nat)
    (field : List Char)
    (reason : NumberFault) : Prop where
  field : fields[column]? = some field
  untaken : (readings types fields)[column]? = some (.error reason)
  first :
    ∀ before < column, ∃ e,
      (readings types fields)[before]? = some (.ok e)

/-
  The fields are checked up to the first that its column does
  not take.  If there is none, the line is read as what the
  columns take the fields for.
-/
theorem validate_spec
    (column : Nat)
    (types : List AttrType)
    (fields : List (List Char)) :
    match validate column types fields with
    | .ok vs =>
        ∃ es : List Element,
          readings types fields = es.map .ok ∧ vs = es.map raw
    | .error fault =>
        ∃ i field reason,
          FirstUntaken types fields i field reason ∧
            fault =
              .badNumber (column + i) (String.ofList field)
                reason := by
  -- The number of the first column changes from field to field.
  induction types generalizing column fields with
  | nil => exact ⟨[], rfl, rfl⟩
  | cons type types ih =>
      cases fields with
      | nil => exact ⟨[], rfl, rfl⟩
      | cons field fields =>
          have hRest := ih (column + 1) fields
          rw [validate_cons]
          cases hTaken : taken type field with
          | error reason =>
              refine ⟨0, field, reason, ⟨rfl, ?_, ?_⟩, rfl⟩
              · exact congrArg some hTaken
              · intro before hLt
                exact absurd hLt (Nat.not_lt_zero before)
          | ok e =>
              cases hValidate :
                  validate (column + 1) types fields with
              | ok vs =>
                  rw [hValidate] at hRest
                  rcases hRest with ⟨es, hReadings, rfl⟩
                  refine ⟨e :: es, ?_, rfl⟩
                  rw [readings, List.zipWith_cons_cons, hTaken,
                    List.map_cons, ← hReadings, readings]
              | error fault =>
                  rw [hValidate] at hRest
                  rcases hRest with
                    ⟨i, found, reason, hFirst, hFault⟩
                  refine
                    ⟨i + 1, found, reason,
                      ⟨hFirst.field, hFirst.untaken, ?_⟩, ?_⟩
                  · intro before hLt
                    cases before with
                    | zero => exact ⟨e, congrArg some hTaken⟩
                    | succ before =>
                        exact hFirst.first before
                          (Nat.lt_of_succ_lt_succ hLt)
                  · rw [hFault, Nat.add_right_comm, Nat.add_assoc]

------------------------------------------------------------
-- Lines
------------------------------------------------------------

/- The types of the columns of a schema. -/
def columnTypes (schema : Schema) : List AttrType :=
  schema.attributes.map (·.type)

/-
  A line stands for values in the columns of a schema: it has
  a field for each column, and the column takes the field for
  the value.  A schema without columns has a line of its own.
-/
def StandsFor
    (schema : Schema)
    (delimiter : Char)
    (line : List Char)
    (es : List Element) : Prop :=
  if schema.arity = 0 then
    Text.trim line = nullary.toList ∧ es = []
  else
    (Field.split delimiter line).length = schema.arity ∧
      readings (columnTypes schema) (Field.split delimiter line) =
        es.map .ok

/- A line stands for one list of values at most. -/
theorem StandsFor.unique
    {schema : Schema}
    {delimiter : Char}
    {line : List Char}
    {es es' : List Element}
    (h : StandsFor schema delimiter line es)
    (h' : StandsFor schema delimiter line es') : es = es' := by
  unfold StandsFor at h h'
  split at h
  · rename_i hNullary
    rw [if_pos hNullary] at h'
    rw [h.2, h'.2]
  · rename_i hColumns
    rw [if_neg hColumns] at h'
    have hSame : es.map Except.ok = es'.map Except.ok :=
      h.2.symm.trans h'.2
    exact List.map_injective_iff.mpr (fun _ _ => Except.ok.inj) hSame

/- A line stands for values of the kinds of the columns. -/
theorem StandsFor.kinds
    {schema : Schema}
    {delimiter : Char}
    {line : List Char}
    {es : List Element}
    (h : StandsFor schema delimiter line es) :
    List.Forall₂ (fun a e => e.kind = kindOf a.type)
      schema.attributes es := by
  have hKinds :
      ∀ {types : List AttrType} {fields : List (List Char)}
        {es : List Element},
        fields.length = types.length →
        readings types fields = es.map .ok →
          List.Forall₂ (fun type e => e.kind = kindOf type)
            types es := by
    intro types fields es hLength hReadings
    rw [List.forall₂_iff_get]
    have hCount := congrArg List.length hReadings
    simp only [readings, List.length_zipWith, List.length_map,
      hLength, Nat.min_self] at hCount
    refine ⟨hCount, fun i hType hValue => ?_⟩
    have hField : i < fields.length := by rwa [hLength]
    have hHere := congrArg (·[i]?) hReadings
    simp only [readings, List.getElem?_zipWith,
      List.getElem?_eq_getElem hType,
      List.getElem?_eq_getElem hField, List.getElem?_map,
      List.getElem?_eq_getElem hValue] at hHere
    exact kind_of_taken (Option.some.inj hHere)
  unfold StandsFor at h
  split at h
  · rename_i hNullary
    rw [List.length_eq_zero_iff.mp hNullary, h.2]
    exact .nil
  · rcases h with ⟨hLength, hReadings⟩
    have hTypes :
        (Field.split delimiter line).length =
          (columnTypes schema).length := by
      rw [hLength, columnTypes, List.length_map]
      rfl
    exact List.forall₂_map_left_iff.mp (hKinds hTypes hReadings)

/-
  A line is read as the values that it stands for, and it is
  rejected when it stands for none.
-/
theorem values_spec
    (schema : Schema)
    (line : List Char)
    (delimiter : Char) :
    match values schema line delimiter with
    | .ok vs =>
        ∃ es, StandsFor schema delimiter line es ∧ vs = es.map raw
    | .error fault =>
        (∀ es, ¬ StandsFor schema delimiter line es) ∧
          (schema.arity ≠ 0 →
            let fields := Field.split delimiter line
            fields.length ≠ schema.arity ∧
                fault = .fieldCount fields.length schema.arity ∨
              ∃ i field reason,
                fields.length = schema.arity ∧
                  FirstUntaken (columnTypes schema) fields i
                    field reason ∧
                  fault =
                    .badNumber i (String.ofList field) reason) := by
  unfold values StandsFor
  by_cases hNullary : schema.arity = 0
  · simp only [if_pos hNullary]
    by_cases hLine : Text.trim line = nullary.toList
    · rw [if_pos hLine]
      exact ⟨[], ⟨hLine, rfl⟩, rfl⟩
    · rw [if_neg hLine]
      exact
        ⟨fun es hes => hLine hes.1, fun h => absurd hNullary h⟩
  · simp only [if_neg hNullary]
    by_cases hLength :
        (Field.split delimiter line).length = schema.arity
    · have hValidate :=
        validate_spec 0 (columnTypes schema)
          (Field.split delimiter line)
      rw [if_pos hLength]
      change
        match
          validate 0 (columnTypes schema)
            (Field.split delimiter line) with
        | .ok vs => _
        | .error fault => _
      split <;> rename_i hOutcome <;> rw [hOutcome] at hValidate
      · rcases hValidate with ⟨es, hReadings, rfl⟩
        exact ⟨es, ⟨hLength, hReadings⟩, rfl⟩
      · rcases hValidate with ⟨i, field, reason, hFirst, hFault⟩
        rw [Nat.zero_add] at hFault
        constructor
        · rintro es ⟨_, hReadings⟩
          have hHere := hFirst.untaken
          rw [hReadings, List.getElem?_map,
            Option.map_eq_some_iff] at hHere
          rcases hHere with ⟨e, _, hOk⟩
          cases hOk
        · exact fun _ =>
            Or.inr ⟨i, field, reason, hLength, hFirst, hFault⟩
    · rw [if_neg hLength]
      exact
        ⟨fun es hes => hLength hes.1,
          fun _ => Or.inl ⟨hLength, rfl⟩⟩

/- A line that stands for values is read as them. -/
theorem values_of_standsFor
    {schema : Schema}
    {delimiter : Char}
    {line : List Char}
    {es : List Element}
    (h : StandsFor schema delimiter line es) :
    values schema line delimiter = .ok (es.map raw) := by
  have hValues := values_spec schema line delimiter
  cases hOutcome : values schema line delimiter with
  | error fault =>
      rw [hOutcome] at hValues
      exact absurd h (hValues.1 es)
  | ok vs =>
      rw [hOutcome] at hValues
      rcases hValues with ⟨es', hes', rfl⟩
      rw [h.unique hes']

------------------------------------------------------------
-- Tuples
------------------------------------------------------------

/- What is read from a line is what stood in the column. -/
theorem onColumn_raw
    {type : AttrType}
    {e : Element}
    (hKind : e.kind = kindOf type) :
    (raw e).kind.fits type = true ∧ (raw e).onColumn type = e := by
  cases e with
  | text s =>
      cases type <;> first | exact ⟨rfl, rfl⟩ | cases hKind
  | signed n =>
      cases type <;> first | exact ⟨rfl, rfl⟩ | cases hKind
  | unsigned n =>
      cases type <;> first | exact ⟨rfl, rfl⟩ | cases hKind
  | float x =>
      cases type <;> first | exact ⟨rfl, rfl⟩ | cases hKind

theorem zipWith_onColumn_raw
    {attributes : List Attribute}
    {es : List Element}
    (hKinds :
      List.Forall₂ (fun a e => e.kind = kindOf a.type)
        attributes es) :
    List.zipWith (fun a e => e.onColumn a.type) attributes
        (es.map raw) = es := by
  induction hKinds with
  | nil => rfl
  | cons hKind _ ih =>
      rw [List.map_cons, List.zipWith_cons_cons, ih,
        (onColumn_raw hKind).2]

/- What a line is read as stands for values in the columns. -/
theorem standsFor_of_values
    {schema : Schema}
    {delimiter : Char}
    {line : List Char}
    {vs : List Element}
    (h : values schema line delimiter = .ok vs) :
    StandsFor schema delimiter line
        (Relation.columnValues schema vs) ∧
      Element.texts (Relation.columnValues schema vs) =
        Element.texts vs := by
  have hValues := values_spec schema line delimiter
  rw [h] at hValues
  rcases hValues with ⟨es, hes, rfl⟩
  have hSame : Relation.columnValues schema (es.map raw) = es :=
    zipWith_onColumn_raw hes.kinds
  rw [hSame, texts_map_raw]
  exact ⟨hes, rfl⟩

/- Parsing a line, in terms of what it is read as. -/
theorem parse_eq
    (r : Relation)
    (table : SymbolTable)
    (line : List Char)
    (delimiter : Char) :
    parse r table line delimiter =
      match values r.schema line delimiter with
      | .error fault => (.error fault, table)
      | .ok vs =>
          (.ok (r.blankTuple.appendAll table vs).1,
            (r.blankTuple.appendAll table vs).2) := by
  unfold parse
  cases values r.schema line delimiter <;> rfl

/-
  A line that stands for values is parsed exactly when their
  texts find ids, as a tuple that holds those values.
-/
theorem parse_of_standsFor
    {r : Relation}
    {delimiter : Char}
    {line : List Char}
    {es : List Element}
    (h : StandsFor r.schema delimiter line es)
    (table : SymbolTable) :
    match table.internEach? (Element.texts es) with
    | some table' =>
        ∃ t,
          parse r table line delimiter = (.ok (.ok t), table') ∧
            t.BoundTo r ∧ t.position = r.arity ∧
            Row.decode table' r.schema.attributes t.cells =
              .ok es
    | none =>
        ∃ table',
          parse r table line delimiter =
            (.ok (.error .symbolsExhausted), table') := by
  have hFits :
      List.Forall₂ (fun a e => e.kind.fits a.type = true)
        r.schema.attributes (es.map raw) :=
    List.forall₂_map_right_iff.mpr
      (h.kinds.imp fun _ _ hKind => (onColumn_raw hKind).1)
  have hLength : (es.map raw).length = r.arity :=
    hFits.length_eq.symm
  have hParse := parse_eq r table line delimiter
  rw [values_of_standsFor h] at hParse
  have hAll :=
    @Tuple.appendAll_of_fits (es.map raw) r.blankTuple table [] _
      r.blankTuple_at hFits
  rw [texts_map_raw] at hAll
  rw [hParse]
  split <;> rename_i hTable <;> rw [hTable] at hAll
  · rcases hAll with ⟨t, hAll⟩
    rcases Relation.decode_of_appendAll hLength hAll with
      ⟨hBound, hDecode⟩
    rw [zipWith_onColumn_raw h.kinds] at hDecode
    have hPosition : t.position = 0 + (es.map raw).length :=
      Tuple.position_of_appendAll hAll
    rw [Nat.zero_add, hLength] at hPosition
    exact ⟨t, by simp only [hAll], hBound, hPosition, hDecode⟩
  · rcases hAll with ⟨table', hAll⟩
    exact ⟨table', by simp only [hAll]⟩

/-
  All that parsing a line can do: it rejects a line that
  stands for no values and leaves the table, finds no id for
  a text, or answers a tuple that holds the values.
-/
theorem parse_spec
    (r : Relation)
    (table : SymbolTable)
    (line : List Char)
    (delimiter : Char) :
    match parse r table line delimiter with
    | (.error fault, table') =>
        table' = table ∧
          (∀ es, ¬ StandsFor r.schema delimiter line es) ∧
          values r.schema line delimiter = .error fault
    | (.ok (.error v), _) =>
        v = .symbolsExhausted ∧
          ∃ es, StandsFor r.schema delimiter line es ∧
            table.internEach? (Element.texts es) = none
    | (.ok (.ok t), table') =>
        ∃ es, StandsFor r.schema delimiter line es ∧
          table.internEach? (Element.texts es) = some table' ∧
          t.BoundTo r ∧ t.position = r.arity ∧
          Row.decode table' r.schema.attributes t.cells =
            .ok es := by
  have hValues := values_spec r.schema line delimiter
  cases hOutcome : values r.schema line delimiter with
  | error fault =>
      rw [hOutcome] at hValues
      rw [parse_eq, hOutcome]
      exact ⟨rfl, hValues.1, rfl⟩
  | ok vs =>
      rw [hOutcome] at hValues
      rcases hValues with ⟨es, hes, _⟩
      have hLine := parse_of_standsFor hes table
      cases hTable : table.internEach? (Element.texts es) with
      | none =>
          rw [hTable] at hLine
          rcases hLine with ⟨table', hParse⟩
          rw [hParse]
          exact ⟨rfl, es, hes, hTable⟩
      | some table' =>
          rw [hTable] at hLine
          rcases hLine with ⟨t, hParse, hTuple⟩
          rw [hParse]
          exact ⟨es, hes, hTable, hTuple⟩

end Line

------------------------------------------------------------
-- Rejected Lines
------------------------------------------------------------

/- Parsing a line in a store, in terms of the line. -/
theorem Action.run_parse
    (id : RelationId)
    (line : String)
    (delimiter : Char)
    (s : Store) :
    let r := s.relation id
    run (parse id line delimiter) s =
      match
        Line.parse r (s.table r.table) line.toList delimiter with
      | (.error fault, _) => (.ok (.error fault), s)
      | (.ok (.error v), table') =>
          (.error (.violation v), s.setTable r.table table')
      | (.ok (.ok t), table') =>
          (.ok (.ok t), s.setTable r.table table') := by
  intro r
  have hParse :=
    Line.parse_spec r (s.table r.table) line.toList delimiter
  simp only [parse, run_ofStep]
  rcases hOutcome :
      Line.parse r (s.table r.table) line.toList delimiter with
    ⟨fault | v | t, table'⟩
  · rw [hOutcome] at hParse
    simp only [r, hParse.1, Store.setTable_table]
  · rfl
  · rfl

/-
  A line that stands for values is parsed in a store exactly
  when their texts find ids in the table of the relation.
-/
theorem Action.run_parse_of_standsFor
    {s : Store}
    {id : RelationId}
    {r : Relation}
    {delimiter : Char}
    {line : String}
    {es : List Element}
    (hRelation : s.relation id = r)
    (h : Line.StandsFor r.schema delimiter line.toList es) :
    match (s.table r.table).internEach? (Element.texts es) with
    | some table' =>
        ∃ t,
          run (parse id line delimiter) s =
              (.ok (.ok t), s.setTable r.table table') ∧
            t.BoundTo r ∧ t.position = r.arity ∧
            Row.decode table' r.schema.attributes t.cells =
              .ok es
    | none =>
        (run (parse id line delimiter) s).1 =
          .error (.violation .symbolsExhausted) := by
  have hParse := Line.parse_of_standsFor h (s.table r.table)
  split <;> rename_i hTable <;> rw [hTable] at hParse
  · rcases hParse with ⟨t, hParse, hTuple⟩
    refine ⟨t, ?_, hTuple⟩
    simp only [run_parse, hRelation, hParse]
  · rcases hParse with ⟨table', hParse⟩
    simp only [run_parse, hRelation, hParse]

/- Why a line is rejected for a relation, if it is. -/
def Store.rejection?
    (s : Store)
    (id : RelationId)
    (delimiter : Char)
    (line : List Char) : Option LineFault :=
  match
    (Action.run
      (Action.parse id (String.ofList line) delimiter) s).1 with
  | .ok (.error fault) => some fault
  | _ => none

/- A line is rejected when it is not read as values. -/
theorem Store.rejection?_eq
    (s : Store)
    (id : RelationId)
    (delimiter : Char)
    (line : List Char) :
    s.rejection? id delimiter line =
      match
        Line.values (s.relation id).schema line delimiter with
      | .error fault => some fault
      | .ok _ => none := by
  simp only [rejection?, Action.run_parse, String.toList_ofList,
    Line.parse_eq]
  cases Line.values (s.relation id).schema line delimiter with
  | error fault => rfl
  | ok vs =>
      simp only
      rcases
          (s.relation id).blankTuple.appendAll
            (s.table (s.relation id).table) vs with
        ⟨_ | _, _⟩ <;> rfl

/-
  Whether a line is rejected, and why, does not depend on
  what was loaded or looked up before.
-/
theorem Store.rejection?_of_evolves
    {s s' : Store}
    (h : s.Evolves s')
    (id : RelationId)
    (delimiter : Char)
    (line : List Char) :
    s'.rejection? id delimiter line =
      s.rejection? id delimiter line := by
  rw [rejection?_eq, rejection?_eq, (h.relation id).schema]

namespace Action

------------------------------------------------------------
-- Parsing in a Store
------------------------------------------------------------

/-
  A line is parsed as a tuple of a relation with columns when
  it has one field for each column, each column takes its
  field, and a cell can number their texts with those known
  before.  The cursor then stands behind the last column, the
  cells are read as what the columns take the fields for, and
  the table has learned the unknown texts in their order.
  A rejected line leaves the store as it is; its message
  names the number of fields or the first column that does
  not take its field.  Nothing else can happen but that the
  ids run out.
-/
theorem parse_ok_iff_columns_take
    {s : Store}
    {id : RelationId}
    (hColumns : 0 < (s.relation id).arity)
    (hTable : (s.relation id).table.index < s.tables.length)
    (line : String)
    (delimiter : Char) :
    let r := s.relation id
    let table := s.table r.table
    let types := Line.columnTypes r.schema
    let fields := Field.split delimiter line.toList
    let takes := fun es : List Element =>
      fields.length = r.arity ∧
        Line.readings types fields = es.map .ok
    let ids := fun es =>
      (table.symbols ++ Element.texts es).toFinset.card
    let ran := run (parse id line delimiter) s
    let table' := ran.2.table r.table
    ((∃ t, ran.1 = .ok (.ok t)) ↔
        ∃ es, takes es ∧ ids es ≤ SymbolTable.capacity) ∧
      (∀ t es, ran.1 = .ok (.ok t) → takes es →
        t.BoundTo r ∧ t.position = r.arity ∧
          Row.decode table' r.schema.attributes t.cells =
              .ok es ∧
          table'.symbols =
              table.symbols ++
                table.unknown (Element.texts es) ∧
          ran.2 = s.setTable r.table table') ∧
      (∀ fault, ran.1 = .ok (.error fault) →
        ran.2 = s ∧
          (fields.length ≠ r.arity ∧
              fault.message =
                s!"{fields.length} fields, expected {r.arity}" ∨
            ∃ (column : Nat) (text : String) (reason : NumberFault),
              fields.length = r.arity ∧
                Line.FirstUntaken types fields column
                  text.toList reason ∧
                fault.message =
                  s!"column {column}: cannot parse '{text}': " ++
                    reason.message)) ∧
      ∀ failure, ran.1 = .error failure →
        failure = .violation .symbolsExhausted ∧
          ∃ es, takes es ∧ SymbolTable.capacity < ids es := by
  intro r table types fields takes ids
  have hSome : r.schema.arity ≠ 0 := Nat.ne_of_gt hColumns
  have hTakes :
      ∀ es, Line.StandsFor r.schema delimiter line.toList es ↔
        takes es := by
    intro es
    rw [Line.StandsFor, if_neg hSome]
    rfl
  have hParse := Line.parse_spec r table line.toList delimiter
  rcases hOutcome :
      Line.parse (s.relation id)
        (s.table (s.relation id).table) line.toList delimiter with
    ⟨fault | v | t, table'⟩ <;> rw [hOutcome] at hParse
  · rcases hParse with ⟨_, hNone, hValues⟩
    have hFault :=
      Line.values_spec r.schema line.toList delimiter
    rw [hValues] at hFault
    have hRun :
        run (parse id line delimiter) s =
          (.ok (.error fault), s) := by
      simp only [run_parse, hOutcome]
    rw [hRun]
    refine ⟨?_, by simp, ?_, by simp⟩
    · constructor
      · rintro ⟨t, hOk⟩
        cases hOk
      · rintro ⟨es, hes, _⟩
        exact absurd ((hTakes es).mpr hes) (hNone es)
    · rintro _ ⟨⟩
      refine ⟨rfl, ?_⟩
      rcases hFault.2 hSome with
        ⟨hCount, rfl⟩ | ⟨i, field, reason, hCount, hFirst, rfl⟩
      · exact Or.inl ⟨hCount, rfl⟩
      · refine
          Or.inr ⟨i, String.ofList field, reason, hCount, ?_, rfl⟩
        rwa [String.toList_ofList]
  · rcases hParse with ⟨rfl, es, hes, hFull⟩
    have hMany := table.internEach?_spec (Element.texts es)
    rw [hFull] at hMany
    have hRun :
        run (parse id line delimiter) s =
          (.error (.violation .symbolsExhausted),
            s.setTable r.table table') := by
      simp only [run_parse, hOutcome]
      rfl
    rw [hRun]
    refine ⟨?_, by simp, by simp, ?_⟩
    · constructor
      · rintro ⟨t, hOk⟩
        cases hOk
      · rintro ⟨es', hes', hFew⟩
        rw [← hes.unique ((hTakes es').mpr hes')] at hFew
        exact absurd hFew (Nat.not_le.mpr hMany)
    · rintro _ ⟨⟩
      exact ⟨rfl, es, (hTakes es).mp hes, hMany⟩
  · rcases hParse with
      ⟨es, hes, hIntern, hBound, hPosition, hDecode⟩
    have hIds := table.internEach?_spec (Element.texts es)
    rw [hIntern] at hIds
    have hGrown :
        (s.setTable r.table table').table r.table = table' :=
      Store.table_setTable table' hTable
    have hRun :
        run (parse id line delimiter) s =
          (.ok (.ok t), s.setTable r.table table') := by
      simp only [run_parse, hOutcome]
      rfl
    rw [hRun]
    refine ⟨?_, ?_, by simp, by simp⟩
    · constructor
      · exact fun _ => ⟨es, (hTakes es).mp hes, hIds.1⟩
      · exact fun _ => ⟨t, rfl⟩
    · rintro _ es' ⟨⟩ hes'
      dsimp only
      rw [← hes.unique ((hTakes es').mpr hes'), hGrown]
      exact ⟨hBound, hPosition, hDecode, hIds.2, rfl⟩

/-
  A text with an escaped delimiter, a number between blanks
  and a known text: the tuple is read as the three of them,
  and the table has learned the first text only.
-/
theorem parse_ok_iff_columns_take_mixed :
    let schema : Schema :=
      ⟨"m",
        [⟨"who", .symbol, none⟩, ⟨"n", .signed, none⟩,
          ⟨"whom", .symbol, none⟩]⟩
    let r := Relation.memory schema ⟨0⟩
    let bob := SymbolTable.holding ["bob"]
    let s : Store := ⟨[bob], [r], .empty⟩
    let ran := run (parse ⟨0⟩ "al\\;ice; -7 ;bob" ';') s
    ∃ t, ran.1 = .ok (.ok t) ∧ t.position = 3 ∧
      Row.decode (ran.2.table ⟨0⟩) schema.attributes t.cells =
          .ok [.text "al;ice", .signed (-7), .text "bob"] ∧
      (ran.2.table ⟨0⟩).symbols = ["bob", "al;ice"] := by
  intro schema r bob s ran
  let es : List Element :=
    [.text "al;ice", .signed (-7), .text "bob"]
  have hFields :
      Field.split ';' "al\\;ice; -7 ;bob".toList =
        [['a', 'l', ';', 'i', 'c', 'e'], [' ', '-', '7', ' '],
          ['b', 'o', 'b']] := by
    cbv
  have hReadings :
      Line.readings (Line.columnTypes schema)
          [['a', 'l', ';', 'i', 'c', 'e'], [' ', '-', '7', ' '],
            ['b', 'o', 'b']] = es.map .ok := rfl
  have hFew :
      (bob.symbols ++ Element.texts es).toFinset.card ≤
        SymbolTable.capacity :=
    (List.toFinset_card_le _).trans (by decide)
  have hLearned :
      bob.symbols ++ bob.unknown (Element.texts es) =
        ["bob", "al;ice"] := rfl
  rcases
      @parse_ok_iff_columns_take s ⟨0⟩ (by decide) (by decide)
        "al\\;ice; -7 ;bob" ';' with
    ⟨hAccepts, hTuple, _⟩
  rw [hFields] at hAccepts hTuple
  rcases hAccepts.mpr ⟨es, ⟨rfl, hReadings⟩, hFew⟩ with ⟨t, hOk⟩
  rcases hTuple t es hOk ⟨rfl, hReadings⟩ with
    ⟨_, hPosition, hDecode, hSymbols, _⟩
  exact ⟨t, hOk, hPosition, hDecode, hSymbols.trans hLearned⟩

end Action

end FactStore
