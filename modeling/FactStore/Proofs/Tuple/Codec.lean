import FactStore.Facts.Line
import FactStore.Proofs.SymbolTable.Interning

/-
  This file proves that typed writes and typed reads are
  inverse.  A row is read as the values of its columns, and
  a tuple that is written from its first column to its last
  holds a row that is read as the values written to it.

  Key definitions include:
    * `Element.onColumn`
    * `Row.decode`, `Row.Holds`
    * `Tuple.BoundTo`
    * `Relation.columnValues`

  Main statements include:
    * `Element.decode_of_encode`
    * `Tuple.decode_of_appendAll`
    * `Tuple.appendAll_of_fits`
    * `Row.decode_inj`
    * `Relation.spec_of_encodeRow`
-/

namespace FactStore

------------------------------------------------------------
-- Values in Columns
------------------------------------------------------------

namespace Element

/- The bits of a number; a text has none. -/
def bits : Element → Cell
| text _ => 0
| signed n => n
| unsigned n => Cell.ofUnsigned n
| float x => Cell.ofSingle x

/-
  A value as it is read from a column that it was written to:
  a text is the same, a number is read by the column's type.
-/
def onColumn (type : AttrType) (e : Element) : Element :=
  match e, type with
  | text s, _ => .text s
  | e, .unsigned => .unsigned (Cell.toUnsigned e.bits)
  | e, .float => .float (Cell.toSingle e.bits)
  | e, _ => .signed e.bits

/- A text is encoded as its id, where it finds one. -/
theorem encode_text_eq_ok_iff
    {x : String}
    {table table' : SymbolTable}
    {c : Cell} :
    (text x).encode table = (.ok c, table') ↔
      table.intern? x = some (c, table') :=
  SymbolTable.intern?_eq_some_iff.symm

/- Encoding keeps what a table knows, whether or not it fails. -/
theorem prefix_of_encode
    (e : Element)
    (table : SymbolTable) :
    table.symbols <+: (e.encode table).2.symbols := by
  cases e with
  | text x => exact table.prefix_of_lookup x
  | signed n => exact List.prefix_refl _
  | unsigned n => exact List.prefix_refl _
  | float x => exact List.prefix_refl _

/- What encoding adds to a table is at most the encoded text. -/
theorem symbols_of_encode
    {e : Element}
    {table table' : SymbolTable}
    {c : Cell}
    (h : e.encode table = (.ok c, table')) :
    table.symbols <+: table'.symbols := by
  have hPrefix := e.prefix_of_encode table
  rw [h] at hPrefix
  exact hPrefix

/- A value that fits a column is read back from its cell. -/
theorem decode_of_encode
    {e : Element}
    {type : AttrType}
    {table table' : SymbolTable}
    {c : Cell}
    (hFits : e.kind.fits type = true)
    (h : e.encode table = (.ok c, table')) :
    decode (Line.kindOf type) table' c =
      .ok (e.onColumn type) := by
  cases e with
  | text s =>
      cases type <;> try cases hFits
      have hFound := encode_text_eq_ok_iff.mp h
      simp [Line.kindOf, decode, onColumn,
        SymbolTable.resolve?_of_intern? hFound]
  | signed n =>
      cases h
      cases type <;> first | rfl | cases hFits
  | unsigned n =>
      cases h
      cases type <;> first | rfl | cases hFits
  | float x =>
      cases h
      cases type <;> first | rfl | cases hFits

/- A written cell is read back as the same value. -/
theorem decode_kind_of_encode
    {e : Element}
    {table table' : SymbolTable}
    {c : Cell}
    (h : e.encode table = (.ok c, table')) :
    decode e.kind table' c = .ok e := by
  cases e with
  | text x =>
      have hFound := encode_text_eq_ok_iff.mp h
      simp [kind, decode, SymbolTable.resolve?_of_intern? hFound]
  | signed n =>
      cases h
      rfl
  | unsigned n =>
      cases h
      rfl
  | float x =>
      cases h
      rfl

/- A cell is read as a value of the kind that is asked for. -/
theorem kind_of_decode
    {kind : ElementKind}
    {table : SymbolTable}
    {c : Cell}
    {e : Element}
    (h : decode kind table c = .ok e) : e.kind = kind := by
  cases kind with
  | text =>
      simp only [decode] at h
      split at h
      · cases h
        rfl
      · cases h
  | signed =>
      cases h
      rfl
  | unsigned =>
      cases h
      rfl
  | float =>
      cases h
      rfl

/- A text that a cell stands for is known to the table. -/
theorem text_mem_of_decode
    {kind : ElementKind}
    {table : SymbolTable}
    {c : Cell}
    {s : String}
    (h : decode kind table c = .ok (text s)) :
    s ∈ table.symbols := by
  cases kind with
  | text =>
      simp only [decode] at h
      split at h
      · rename_i s' hResolve
        cases h
        exact SymbolTable.mem_of_resolve? hResolve
      · cases h
  | signed => cases h
  | unsigned => cases h
  | float => cases h

/- A cell keeps its value while its table grows. -/
theorem decode_of_prefix
    {kind : ElementKind}
    {table table' : SymbolTable}
    {c : Cell}
    {e : Element}
    (hPrefix : table.symbols <+: table'.symbols)
    (h : decode kind table c = .ok e) :
    decode kind table' c = .ok e := by
  cases kind with
  | text =>
      simp only [decode] at h ⊢
      split at h
      · rename_i s hResolve
        rw [SymbolTable.resolve?_of_prefix hPrefix hResolve]
        exact h
      · cases h
  | signed => exact h
  | unsigned => exact h
  | float => exact h

/- A value stands in one cell at most. -/
theorem decode_inj
    {kind : ElementKind}
    {table : SymbolTable}
    {c c' : Cell}
    {e : Element}
    (h : decode kind table c = .ok e)
    (h' : decode kind table c' = .ok e) : c = c' := by
  cases kind with
  | text =>
      simp only [decode] at h h'
      split at h
      · rename_i s hResolve
        cases h
        split at h'
        · rename_i s' hResolve'
          cases h'
          exact SymbolTable.resolve?_inj hResolve hResolve'
        · cases h'
      · cases h
  | signed =>
      cases h
      cases h'
      rfl
  | unsigned =>
      cases h
      rw [← Cell.ofUnsigned_toUnsigned c,
        ← Cell.ofUnsigned_toUnsigned c']
      exact congrArg Cell.ofUnsigned
        (Element.unsigned.inj (Except.ok.inj h')).symm
  | float =>
      cases h
      rw [← Cell.ofSingle_toSingle c, ← Cell.ofSingle_toSingle c']
      exact congrArg Cell.ofSingle
        (Element.float.inj (Except.ok.inj h')).symm

/- The texts among values. -/
def texts (es : List Element) : List String :=
  es.filterMap fun
    | text s => some s
    | _ => none

theorem mem_texts_iff
    {s : String}
    {es : List Element} : s ∈ texts es ↔ text s ∈ es := by
  rw [texts, List.mem_filterMap]
  constructor
  · rintro ⟨e, he, hText⟩
    cases e <;> cases hText
    exact he
  · exact fun hText => ⟨text s, hText, rfl⟩

theorem texts_cons
    (e : Element)
    (es : List Element) : texts (e :: es) = texts [e] ++ texts es :=
  List.filterMap_append (l := [e])

/- A value is encoded exactly when its text finds an id. -/
theorem encode_spec
    (e : Element)
    (table : SymbolTable) :
    match table.internEach? (texts [e]) with
    | some table' => ∃ c, e.encode table = (.ok c, table')
    | none => e.encode table = (.error .symbolsExhausted, table) := by
  cases e with
  | text s =>
      rw [show texts [text s] = [s] from rfl,
        SymbolTable.internEach?_cons, encode, table.lookup_eq s]
      cases table.intern? s with
      | none => rfl
      | some found => exact ⟨found.1, rfl⟩
  | signed n => exact ⟨_, rfl⟩
  | unsigned n => exact ⟨_, rfl⟩
  | float x => exact ⟨_, rfl⟩

end Element

------------------------------------------------------------
-- Rows of Values
------------------------------------------------------------

namespace Row

/- The values that a row holds for the columns of a relation. -/
def decode
    (table : SymbolTable) :
    List Attribute → Row → Except Violation (List Element)
| a :: rest, c :: cs =>
    match Element.decode (Line.kindOf a.type) table c with
    | .error v => .error v
    | .ok e => (decode table rest cs).map (e :: ·)
| _, _ => .ok []

/- A row is read column by column, from the left. -/
theorem decode_cons_eq_ok_iff
    {table : SymbolTable}
    {a : Attribute}
    {rest : List Attribute}
    {c : Cell}
    {cs : Row}
    {values : List Element} :
    decode table (a :: rest) (c :: cs) = .ok values ↔
      ∃ e es,
        Element.decode (Line.kindOf a.type) table c = .ok e ∧
        decode table rest cs = .ok es ∧ values = e :: es := by
  rw [decode]
  cases hHead : Element.decode (Line.kindOf a.type) table c with
  | error v => simp
  | ok e =>
      cases hTail : decode table rest cs with
      | error v => simp [Except.map]
      | ok es => simp [Except.map, eq_comm]

/- A row is read as values of the kinds of its columns. -/
theorem kinds_of_decode
    {table : SymbolTable} :
    ∀ {attributes : List Attribute}
      {row : Row} {values : List Element},
      row.length = attributes.length →
      decode table attributes row = .ok values →
        List.Forall₂
          (fun a e => e.kind = Line.kindOf a.type)
          attributes values
| [], _, _, _, h => by
    cases h
    exact .nil
| _ :: _, [], _, hLength, _ => by
    cases hLength
| a :: rest, c :: cs, values, hLength, h => by
    rcases decode_cons_eq_ok_iff.mp h with ⟨e, es, hHead, hTail, rfl⟩
    exact .cons (Element.kind_of_decode hHead)
      (kinds_of_decode (by simpa using hLength) hTail)

/- The texts of a row are known to its table. -/
theorem text_mem_of_decode
    {table : SymbolTable}
    {s : String} :
    ∀ {attributes : List Attribute}
      {row : Row} {values : List Element},
      decode table attributes row = .ok values →
        Element.text s ∈ values → s ∈ table.symbols
| [], _, _, h, hMem => by
    cases h
    cases hMem
| _ :: _, [], _, h, hMem => by
    cases h
    cases hMem
| a :: rest, c :: cs, values, h, hMem => by
    rcases decode_cons_eq_ok_iff.mp h with ⟨e, es, hHead, hTail, rfl⟩
    rcases List.mem_cons.mp hMem with rfl | hRest
    · exact Element.text_mem_of_decode hHead
    · exact text_mem_of_decode hTail hRest

/- A row keeps its values while its table grows. -/
theorem decode_of_prefix
    {table table' : SymbolTable}
    (hPrefix : table.symbols <+: table'.symbols) :
    ∀ {attributes : List Attribute}
      {row : Row} {values : List Element},
      decode table attributes row = .ok values →
        decode table' attributes row = .ok values
| [], _, _, h => by
    simpa [decode] using h
| _ :: _, [], _, h => by
    simpa [decode] using h
| a :: rest, c :: cs, values, h => by
    rcases decode_cons_eq_ok_iff.mp h with ⟨e, es, hHead, hTail, rfl⟩
    exact decode_cons_eq_ok_iff.mpr
      ⟨e, es, Element.decode_of_prefix hPrefix hHead,
        decode_of_prefix hPrefix hTail, rfl⟩

/- Values are those of one row as wide as the columns at most. -/
theorem decode_inj
    {table : SymbolTable} :
    ∀ {attributes : List Attribute}
      {row row' : Row} {values : List Element},
      row.length = attributes.length →
      row'.length = attributes.length →
      decode table attributes row = .ok values →
      decode table attributes row' = .ok values → row = row'
| [], [], [], _, _, _, _, _ => rfl
| a :: rest, c :: cs, c' :: cs', values, hLength, hLength',
    h, h' => by
    rcases decode_cons_eq_ok_iff.mp h with ⟨e, es, hHead, hTail, rfl⟩
    rcases decode_cons_eq_ok_iff.mp h' with
      ⟨_, _, hHead', hTail', hSame⟩
    cases hSame
    rw [Element.decode_inj hHead hHead',
      decode_inj (by simpa using hLength) (by simpa using hLength')
        hTail hTail']

/- A row as wide as the columns that is read as values. -/
def Holds
    (table : SymbolTable)
    (attributes : List Attribute)
    (values : List Element)
    (row : Row) : Prop :=
  row.length = attributes.length ∧
    decode table attributes row = .ok values

theorem Holds.grow
    {table table' : SymbolTable}
    {attributes : List Attribute}
    {values : List Element}
    {row : Row}
    (h : Holds table attributes values row)
    (hPrefix : table.symbols <+: table'.symbols) :
    Holds table' attributes values row :=
  ⟨h.1, decode_of_prefix hPrefix h.2⟩

/- Values are held by one row at most. -/
theorem Holds.unique
    {table : SymbolTable}
    {attributes : List Attribute}
    {values : List Element}
    {row row' : Row}
    (h : Holds table attributes values row)
    (h' : Holds table attributes values row') : row = row' :=
  decode_inj h.1 h'.1 h.2 h'.2

/- A column of a row holds a value of the column's kind. -/
def ReadsAt
    (table : SymbolTable)
    (attributes : List Attribute)
    (row : Row)
    (i : Nat) : Prop :=
  ∃ a c e,
    attributes[i]? = some a ∧ row[i]? = some c ∧
      Element.decode (Line.kindOf a.type) table c = .ok e

theorem ReadsAt.grow
    {table table' : SymbolTable}
    {attributes : List Attribute}
    {row : Row}
    {i : Nat}
    (h : ReadsAt table attributes row i)
    (hPrefix : table.symbols <+: table'.symbols) :
    ReadsAt table' attributes row i := by
  rcases h with ⟨a, c, e, hColumn, hCell, hDecode⟩
  exact
    ⟨a, c, e, hColumn, hCell,
      Element.decode_of_prefix hPrefix hDecode⟩

/- A row can be read when each of its columns can. -/
theorem exists_decode
    {table : SymbolTable} :
    ∀ {attributes : List Attribute} {row : Row},
      row.length = attributes.length →
      (∀ i < attributes.length, ReadsAt table attributes row i) →
        ∃ es, decode table attributes row = .ok es
| [], _, _, _ => ⟨[], rfl⟩
| _ :: _, [], hLength, _ => by
    cases hLength
| a :: rest, c :: cs, hLength, hReads => by
    have hRest :
        ∀ i < rest.length, ReadsAt table rest cs i := by
      intro i hLt
      exact hReads (i + 1) (Nat.succ_lt_succ hLt)
    rcases exists_decode (by simpa using hLength) hRest with
      ⟨es, hTail⟩
    rcases hReads 0 (Nat.zero_lt_succ _) with
      ⟨a', c', e, hColumn, hCell, hHead⟩
    cases hColumn
    cases hCell
    exact
      ⟨e :: es,
        decode_cons_eq_ok_iff.mpr ⟨e, es, hHead, hTail, rfl⟩⟩

end Row

------------------------------------------------------------
-- Single Writes
------------------------------------------------------------

namespace Tuple

/- A tuple of a relation is as wide as the relation. -/
structure BoundTo (t : Tuple) (r : Relation) : Prop where
  schema : t.schema = r.schema
  table : t.table = r.table
  width : t.cells.length = r.arity

/- A typed access needs a column of a type that fits. -/
theorem expect_eq_ok_iff
    {t : Tuple}
    {kind : ElementKind} :
    t.expect kind = .ok () ↔
      t.position < t.cells.length ∧
        ∃ a, t.schema.attributes[t.position]? = some a ∧
          kind.fits a.type = true := by
  unfold expect
  split
  · rename_i hLt
    cases hColumn : t.schema.attributes[t.position]? with
    | none => simp
    | some a => by_cases hFits : kind.fits a.type <;> simp [hLt, hFits]
  · rename_i hLt
    simp [hLt]

/- A write keeps what its table knows, whether or not it fails. -/
theorem prefix_of_append
    (t : Tuple)
    (table : SymbolTable)
    (e : Element) :
    table.symbols <+: (t.append table e).2.2.symbols := by
  have hEncode := e.prefix_of_encode table
  unfold append
  split
  · exact List.prefix_refl _
  · split <;> rename_i hFound <;> rw [hFound] at hEncode <;>
      exact hEncode

/- Where a tuple stands after some of its columns. -/
structure At
    (t : Tuple)
    (done rest : List Attribute) : Prop where
  attributes : t.schema.attributes = done ++ rest
  position : t.position = done.length
  width : t.cells.length = t.schema.arity

theorem At.put
    {t : Tuple}
    {done rest : List Attribute}
    {a : Attribute}
    (h : t.At done (a :: rest))
    (c : Cell) : (t.put c).At (done ++ [a]) rest where
  attributes := by simp [Tuple.put, h.attributes]
  position := by simp [Tuple.put, h.position]
  width := by simp [Tuple.put, h.width]

theorem At.advance
    {t : Tuple}
    {done rest : List Attribute}
    {a : Attribute}
    (h : t.At done (a :: rest)) :
    t.advance.At (done ++ [a]) rest where
  attributes := by simp [Tuple.advance, h.attributes]
  position := by simp [Tuple.advance, h.position]
  width := by simp [Tuple.advance, h.width]

/- The column under the cursor is the first of the rest. -/
theorem At.expect_eq_ok_iff
    {t : Tuple}
    {done rest : List Attribute}
    {a : Attribute}
    {kind : ElementKind}
    (h : t.At done (a :: rest)) :
    t.expect kind = .ok () ↔ kind.fits a.type = true := by
  have hLt : t.position < t.cells.length := by
    rw [h.width, h.position, Schema.arity, h.attributes]
    simp
  have hColumn : t.schema.attributes[t.position]? = some a := by
    rw [h.position, h.attributes]
    simp
  simp [Tuple.expect_eq_ok_iff, hLt, hColumn]

/- The cell under the cursor and those behind it. -/
theorem At.drop_put
    {t : Tuple}
    {done rest : List Attribute}
    {a : Attribute}
    (h : t.At done (a :: rest))
    (c : Cell) :
    (t.put c).cells.drop done.length =
      c :: t.cells.drop (done.length + 1) := by
  have hLt : done.length < t.cells.length := by
    rw [h.width, Schema.arity, h.attributes]
    simp
  simp only [Tuple.put, h.position]
  rw [List.drop_eq_getElem_cons (by simpa using hLt)]
  simp [List.drop_set_of_lt]

------------------------------------------------------------
-- Writing a Row
------------------------------------------------------------

/- What typed writes add to a table stands behind the rest. -/
theorem prefix_of_appendAll :
    ∀ (es : List Element) (t : Tuple) (table : SymbolTable),
      table.symbols <+: (t.appendAll table es).2.symbols
| [], _, _ => List.prefix_refl _
| e :: es, t, table => by
    have hAppend := t.prefix_of_append table e
    unfold appendAll
    split <;> rename_i t' table' hOutcome <;>
      rw [hOutcome] at hAppend
    · exact hAppend
    · exact hAppend.trans (prefix_of_appendAll es t' table')

/- Each typed write moves the cursor by one column. -/
theorem position_of_appendAll :
    ∀ {es : List Element} {t t' : Tuple}
      {table table' : SymbolTable},
      t.appendAll table es = (.ok t', table') →
        t'.position = t.position + es.length
| [], _, _, _, _, h => by
    cases h
    rfl
| e :: es, t, t', table, table', h => by
    unfold appendAll at h
    split at h
    · cases h
    · rename_i t₁ table₁ hAppend
      have hPosition : t₁.position = t.position + 1 :=
        (frame_of_append hAppend).2.2.2
      rw [position_of_appendAll h, hPosition, List.length_cons,
        Nat.add_right_comm, Nat.add_assoc]

/-
  Writing the rest of a tuple leaves the cells before it, and
  the cells behind it are read as the values written.
-/
theorem appendAll_spec :
    ∀ {es : List Element} {t t' : Tuple}
      {table table' : SymbolTable}
      {done rest : List Attribute},
      t.At done rest → es.length = rest.length →
      t.appendAll table es = (.ok t', table') →
        t'.schema = t.schema ∧ t'.table = t.table ∧
        t'.cells.length = t.cells.length ∧
        t'.cells.take done.length = t.cells.take done.length ∧
        Row.decode table' rest (t'.cells.drop done.length) =
          .ok (List.zipWith (fun a e => e.onColumn a.type) rest es)
| [], t, t', table, table', done, rest, _, hLength, h => by
    have hRest : rest = [] :=
      List.length_eq_zero_iff.mp hLength.symm
    cases h
    simp [hRest, Row.decode]
| e :: es, t, t', table, table', done, [], _, hLength, _ => by
    cases hLength
| e :: es, t, t', table, table', done, a :: rest,
    hAt, hLength, h => by
    unfold appendAll at h
    split at h
    · cases h
    · rename_i t₁ table₁ hAppend
      rcases append_eq_ok_iff.mp hAppend with
        ⟨hExpect, c, hEncode, rfl⟩
      have hFits : e.kind.fits a.type = true :=
        hAt.expect_eq_ok_iff.mp hExpect
      rcases
          appendAll_spec (hAt.put c) (by simpa using hLength) h with
        ⟨hSchema, hTable, hWidth, hTake, hDecode⟩
      simp only [List.length_append, List.length_singleton]
        at hTake hDecode
      -- The cell just written is the one before the rest.
      have hDrop :
          t'.cells.drop done.length =
            c :: t'.cells.drop (done.length + 1) := by
        have hLt : done.length < t'.cells.length := by
          rw [hWidth, (hAt.put c).width, Schema.arity,
            (hAt.put c).attributes]
          simp
        have hCons := List.drop_eq_getElem_cons hLt
        have hPut := congrArg (List.drop done.length) hTake
        rw [List.drop_take, List.drop_take, hAt.drop_put c,
          hCons, Nat.add_sub_cancel_left] at hPut
        simp only [List.take_succ_cons, List.cons.injEq] at hPut
        rw [hCons, hPut.1]
      have hPrefix : table₁.symbols <+: table'.symbols := by
        have := prefix_of_appendAll es (t.put c) table₁
        rwa [h] at this
      refine ⟨hSchema, hTable, ?_, ?_, ?_⟩
      · simpa [Tuple.put] using hWidth
      · have hBefore := congrArg (List.take done.length) hTake
        simpa [List.take_take, Tuple.put, hAt.position,
          List.take_set_of_le] using hBefore
      · rw [hDrop]
        exact Row.decode_cons_eq_ok_iff.mpr
          ⟨_, _, Element.decode_of_prefix hPrefix
            (Element.decode_of_encode hFits hEncode),
            hDecode, rfl⟩

/-
  A row of values that fit their columns is written exactly
  when each of its texts finds an id.
-/
theorem appendAll_of_fits :
    ∀ {es : List Element} {t : Tuple}
      {table : SymbolTable} {done rest : List Attribute},
      t.At done rest →
      List.Forall₂
        (fun a e => e.kind.fits a.type = true) rest es →
        match table.internEach? (Element.texts es) with
        | some table' =>
            ∃ t', t.appendAll table es = (.ok t', table')
        | none =>
            ∃ table',
              t.appendAll table es =
                (.error .symbolsExhausted, table')
| [], t, _, _, _, _, _ => ⟨t, rfl⟩
| e :: es, t, table, done, a :: rest, hAt,
    .cons hFits hRest => by
    have hExpect : t.expect e.kind = .ok () :=
      hAt.expect_eq_ok_iff.mpr hFits
    have hEncode := e.encode_spec table
    rw [Element.texts_cons, SymbolTable.internEach?_append]
    cases hTable : table.internEach? (Element.texts [e]) with
    | none =>
        rw [hTable] at hEncode
        refine ⟨table, ?_⟩
        rw [appendAll, append_of_expect hExpect, hEncode]
    | some table₁ =>
        rw [hTable] at hEncode
        rcases hEncode with ⟨c, hEncode⟩
        have hAppend : t.append table e = (.ok (), t.put c, table₁) :=
          append_eq_ok_iff.mpr ⟨hExpect, c, hEncode, rfl⟩
        rw [appendAll, hAppend]
        exact appendAll_of_fits (hAt.put c) hRest

end Tuple

------------------------------------------------------------
-- Rows of a Relation
------------------------------------------------------------

namespace Relation

/- A blank tuple of a relation stands at its first column. -/
theorem blankTuple_at
    (r : Relation) :
    r.blankTuple.At [] r.schema.attributes where
  attributes := rfl
  position := rfl
  width := by simp [blankTuple, Tuple.blank]

/-
  A tuple that is written in all columns is bound to its
  relation and holds the values written.
-/
theorem decode_of_appendAll
    {r : Relation}
    {es : List Element}
    {t : Tuple}
    {table table' : SymbolTable}
    (hLength : es.length = r.arity)
    (h : r.blankTuple.appendAll table es = (.ok t, table')) :
    t.BoundTo r ∧
      Row.decode table' r.schema.attributes t.cells =
        .ok (List.zipWith (fun a e => e.onColumn a.type)
          r.schema.attributes es) := by
  rcases Tuple.appendAll_spec r.blankTuple_at hLength h with
    ⟨hSchema, hTable, hWidth, _, hDecode⟩
  refine ⟨⟨hSchema, hTable, ?_⟩, hDecode⟩
  exact hWidth.trans r.blankTuple_at.width

/- The values that the columns of a relation make of a row. -/
def columnValues
    (schema : Schema)
    (row : List Element) : List Element :=
  List.zipWith (fun a e => e.onColumn a.type)
    schema.attributes row

/- An encoded row is a tuple of the relation with its values. -/
theorem spec_of_encodeRow
    {r : Relation}
    {table table' : SymbolTable}
    {row : List Element}
    {t : Tuple}
    (h : r.encodeRow table row = (.ok t, table')) :
    row.length = r.arity ∧ t.BoundTo r ∧
      Row.decode table' r.schema.attributes t.cells =
        .ok (columnValues r.schema row) := by
  unfold encodeRow at h
  split at h
  · rename_i hLength
    split at h
    · rename_i hAll
      cases h
      exact ⟨hLength, decode_of_appendAll hLength hAll⟩
    · cases h
  · cases h

end Relation

end FactStore
