import FactStore.Proofs.Store.Growth
import FactStore.Proofs.SymbolTable.Lookups

/-
  This file proves what typed writes and typed reads do to a
  tuple whose cursor is at a column or right behind the last
  one.  An access is refused exactly when there is no column
  under the cursor or the column takes no values of the kind;
  a refused access leaves everything as it is, and any other
  one moves to the next column.

  Key definitions include:
    * `ElementKind.columns`
    * `Tuple.Accepts`, `Tuple.Refuses`
    * `Tuple.InBounds`
    * `Tuple.Writes`, `Tuple.Reads`

  Main statements include:
    * `Tuple.InBounds.writes`
    * `Tuple.InBounds.reads`
    * `Tuple.InBounds.access`
-/

namespace FactStore

------------------------------------------------------------
-- Columns of a Kind
------------------------------------------------------------

/- The types of the columns that take values of a kind. -/
def ElementKind.columns : ElementKind → List AttrType
| text => [.symbol]
| signed => [.signed, .unsigned, .float]
| unsigned => [.unsigned]
| float => [.float]

theorem ElementKind.fits_iff_mem_columns
    {kind : ElementKind}
    {type : AttrType} :
    kind.fits type = true ↔ type ∈ kind.columns := by
  cases kind <;> cases type <;> decide

------------------------------------------------------------
-- Values and Cells
------------------------------------------------------------

namespace Element

/- A text that finds no id: it is new, and none is left. -/
def LacksRoom (e : Element) (table : SymbolTable) : Prop :=
  ∃ x, e = .text x ∧ x ∉ table.symbols ∧
    table.size = SymbolTable.capacity

/- A value has a cell, or it is a text without id. -/
theorem encode_cases
    (e : Element)
    (table : SymbolTable) :
    (e.LacksRoom table ∧
        e.encode table = (.error .symbolsExhausted, table)) ∨
      (¬ e.LacksRoom table ∧
        ∃ c table', e.encode table = (.ok c, table')) := by
  cases e with
  | text x =>
      have hNone := @SymbolTable.intern?_eq_none_iff table x
      simp only [encode, table.lookup_eq x]
      cases hIntern : table.intern? x with
      | none =>
          exact Or.inl ⟨⟨x, rfl, hNone.mp hIntern⟩, rfl⟩
      | some found =>
          rw [hIntern] at hNone
          refine Or.inr ⟨?_, found.1, found.2, rfl⟩
          rintro ⟨x', hSame, hNew, hFull⟩
          cases hSame
          cases hNone.mpr ⟨hNew, hFull⟩
  | signed n => exact Or.inr ⟨by simp [LacksRoom], _, _, rfl⟩
  | unsigned n => exact Or.inr ⟨by simp [LacksRoom], _, _, rfl⟩
  | float x => exact Or.inr ⟨by simp [LacksRoom], _, _, rfl⟩

/- A cell has no value only as an id that was never given. -/
theorem decode_eq_error_iff
    {kind : ElementKind}
    {table : SymbolTable}
    {c : Cell}
    {v : Violation} :
    decode kind table c = .error v ↔
      v = .unknownSymbol c ∧ kind = .text ∧ ¬ table.Issued c := by
  cases kind with
  | text =>
      rw [SymbolTable.issued_iff_resolve?]
      simp only [decode]
      cases hResolve : table.resolve? c <;> simp [eq_comm]
  | signed => simp [decode]
  | unsigned => simp [decode]
  | float => simp [decode]

end Element

------------------------------------------------------------
-- Accepted and Refused Accesses
------------------------------------------------------------

namespace Tuple

/- The column under the cursor takes values of a kind. -/
def Accepts (t : Tuple) (kind : ElementKind) : Prop :=
  ∃ a, t.schema.attributes[t.position]? = some a ∧
    a.type ∈ kind.columns

/-
  The column under the cursor takes no values of a kind: it
  is of another type, or the cursor is behind the last one.
-/
inductive Refuses (t : Tuple) (kind : ElementKind) :
    Violation → Prop where
| overrun :
    t.position = t.schema.arity →
      Refuses t kind
        (.cursorOverrun t.schema.name t.schema.arity)
| wrongType {a : Attribute} :
    t.schema.attributes[t.position]? = some a →
      a.type ∉ kind.columns →
      Refuses t kind
        (.wrongElement t.schema.name t.position a.type)

/-
  A tuple of a relation, as wide as the relation, with its
  cursor at a column or right behind the last one.
-/
structure InBounds (t : Tuple) (r : Relation) : Prop where
  bound : t.BoundTo r
  position : t.position ≤ r.arity

variable {t t' : Tuple}
variable {r r' : Relation}
variable {table table' : SymbolTable}
variable {kind : ElementKind}

theorem InBounds.length_eq_arity (h : t.InBounds r) :
    t.cells.length = t.schema.arity := by
  rw [h.bound.width, h.bound.schema]
  rfl

theorem InBounds.position_le_arity (h : t.InBounds r) :
    t.position ≤ t.schema.arity := by
  rw [h.bound.schema]
  exact h.position

/- An accepted access passes the check. -/
theorem InBounds.expect_of_accepts
    (h : t.InBounds r)
    (hAccepts : t.Accepts kind) : t.expect kind = .ok () := by
  rcases hAccepts with ⟨a, hColumn, hType⟩
  have hLt : t.position < t.cells.length := by
    rw [h.length_eq_arity]
    exact (List.getElem?_eq_some_iff.mp hColumn).1
  exact expect_eq_ok_iff.mpr
    ⟨hLt, a, hColumn, ElementKind.fits_iff_mem_columns.mpr hType⟩

/- A refused access is stopped by the check. -/
theorem InBounds.expect_of_refuses
    (h : t.InBounds r)
    {v : Violation}
    (hRefuses : t.Refuses kind v) : t.expect kind = .error v := by
  unfold expect
  cases hRefuses with
  | overrun hBehind =>
      rw [h.length_eq_arity, if_neg (Nat.not_lt.mpr hBehind.ge)]
  | @wrongType a hColumn hType =>
      have hLt : t.position < t.cells.length := by
        rw [h.length_eq_arity]
        exact (List.getElem?_eq_some_iff.mp hColumn).1
      have hFits : ¬ kind.fits a.type = true :=
        mt ElementKind.fits_iff_mem_columns.mp hType
      simp only [if_pos hLt, hColumn, if_neg hFits]

/- An access is accepted, or something refuses it. -/
theorem InBounds.accepts_or_refuses
    (h : t.InBounds r)
    (kind : ElementKind) :
    t.Accepts kind ∨ ∃ v, t.Refuses kind v := by
  cases hColumn : t.schema.attributes[t.position]? with
  | none =>
      have hBehind : t.schema.arity ≤ t.position :=
        List.getElem?_eq_none_iff.mp hColumn
      have hLast := Nat.le_antisymm h.position_le_arity hBehind
      exact Or.inr ⟨_, .overrun hLast⟩
  | some a =>
      by_cases hType : a.type ∈ kind.columns
      · exact Or.inl ⟨a, hColumn, hType⟩
      · exact Or.inr ⟨_, .wrongType hColumn hType⟩

theorem not_refuses_of_accepts
    (hAccepts : t.Accepts kind) :
    ¬ ∃ v, t.Refuses kind v := by
  rcases hAccepts with ⟨a, hColumn, hType⟩
  rintro ⟨v, hBehind | ⟨hColumn', hOther⟩⟩
  · have hLt := (List.getElem?_eq_some_iff.mp hColumn).1
    exact absurd hBehind (Nat.ne_of_lt hLt)
  · rw [hColumn] at hColumn'
    cases hColumn'
    exact hOther hType

------------------------------------------------------------
-- Accesses in Bounds
------------------------------------------------------------

/- A tuple that an access has passed is still in bounds. -/
theorem InBounds.step
    (h : t.InBounds r)
    (hAccepts : t.Accepts kind)
    {cells : Row}
    (hWidth : cells.length = t.cells.length) :
    InBounds
      { t with cells := cells, position := t.position + 1 } r where
  bound :=
    ⟨h.bound.schema, h.bound.table, hWidth.trans h.bound.width⟩
  position := by
    rcases hAccepts with ⟨a, hColumn, _⟩
    have hLt : t.position < t.schema.arity :=
      (List.getElem?_eq_some_iff.mp hColumn).1
    rw [h.bound.schema] at hLt
    exact hLt

theorem InBounds.rewind (h : t.InBounds r) :
    t.rewind.InBounds r :=
  ⟨⟨h.bound.schema, h.bound.table, h.bound.width⟩,
    Nat.zero_le _⟩

theorem InBounds.set
    (h : t.InBounds r)
    {column : Nat}
    {c : Cell}
    (hSet : t.set column c = .ok t') : t'.InBounds r := by
  unfold Tuple.set at hSet
  split at hSet
  · cases hSet
    exact
      ⟨⟨h.bound.schema, h.bound.table,
          List.length_set.trans h.bound.width⟩, h.position⟩
  · cases hSet

/- A refused write is stopped before the table is asked. -/
theorem InBounds.append_of_refuses
    (h : t.InBounds r)
    {e : Element}
    {v : Violation}
    (hRefuses : t.Refuses e.kind v)
    (table : SymbolTable) :
    t.append table e = (.error v, t, table) :=
  append_of_expect_error (h.expect_of_refuses hRefuses) table

/- An accepted write of a text without id touches nothing. -/
theorem InBounds.append_of_lacksRoom
    (h : t.InBounds r)
    {e : Element}
    (hAccepts : t.Accepts e.kind)
    (hFull : e.LacksRoom table) :
    t.append table e = (.error .symbolsExhausted, t, table) := by
  rcases e.encode_cases table with ⟨_, hEncode⟩ | ⟨hRoom, _⟩
  · rw [append_of_expect (h.expect_of_accepts hAccepts), hEncode]
  · exact absurd hFull hRoom

/- Any other accepted write puts the cell of the value. -/
theorem InBounds.append_of_room
    (h : t.InBounds r)
    {e : Element}
    (hAccepts : t.Accepts e.kind)
    (hRoom : ¬ e.LacksRoom table) :
    ∃ c table', e.encode table = (.ok c, table') ∧
      t.append table e = (.ok (), t.put c, table') := by
  rcases e.encode_cases table with
    ⟨hFull, _⟩ | ⟨_, c, table', hEncode⟩
  · exact absurd hFull hRoom
  · refine ⟨c, table', hEncode, ?_⟩
    rw [append_of_expect (h.expect_of_accepts hAccepts), hEncode]

/- A write keeps a tuple in bounds, whether or not it is refused. -/
theorem InBounds.append
    (h : t.InBounds r)
    (table : SymbolTable)
    (e : Element) : (t.append table e).2.1.InBounds r := by
  rcases h.accepts_or_refuses e.kind with hAccepts | ⟨v, hRefuses⟩
  · by_cases hFull : e.LacksRoom table
    · rw [h.append_of_lacksRoom hAccepts hFull]
      exact h
    · rcases h.append_of_room hAccepts hFull with
        ⟨c, table', _, hAppend⟩
      rw [hAppend]
      exact h.step hAccepts List.length_set
  · rw [h.append_of_refuses hRefuses]
    exact h

/- A typed read, by whether it is accepted. -/
theorem InBounds.read_of_accepts
    (h : t.InBounds r)
    (hAccepts : t.Accepts kind)
    (table : SymbolTable) :
    ∃ c, t.cells[t.position]? = some c ∧
      t.read table kind =
        (Element.decode kind table c, t.advance) := by
  have hLt : t.position < t.cells.length :=
    (expect_eq_ok_iff.mp (h.expect_of_accepts hAccepts)).1
  have hCell := List.getElem?_eq_getElem hLt
  refine ⟨_, hCell, ?_⟩
  rw [Tuple.read, h.expect_of_accepts hAccepts, List.getD, hCell]
  rfl

theorem InBounds.read_of_refuses
    (h : t.InBounds r)
    {v : Violation}
    (hRefuses : t.Refuses kind v)
    (table : SymbolTable) :
    t.read table kind = (.error v, t) := by
  rw [Tuple.read, h.expect_of_refuses hRefuses]

theorem InBounds.read
    (h : t.InBounds r)
    (table : SymbolTable)
    (kind : ElementKind) : (t.read table kind).2.InBounds r := by
  rcases h.accepts_or_refuses kind with hAccepts | ⟨v, hRefuses⟩
  · rcases h.read_of_accepts hAccepts table with ⟨c, _, hRead⟩
    rw [hRead]
    exact h.step hAccepts rfl
  · rw [h.read_of_refuses hRefuses]
    exact h

end Tuple

------------------------------------------------------------
-- Accesses in a Store
------------------------------------------------------------

namespace Tuple

/- What a typed write does to a tuple and a store. -/
structure Writes
    (t : Tuple)
    (s : Store)
    (e : Element) : Prop where
  fails_iff :
    (∃ v, (t.access s (.write e)).1 = .error v) ↔
      (∃ v, t.Refuses e.kind v) ∨ e.LacksRoom (s.table t.table)
  refused :
    ∀ v, t.Refuses e.kind v →
      t.access s (.write e) = (.error v, t, s)
  exhausted :
    t.Accepts e.kind → e.LacksRoom (s.table t.table) →
      t.access s (.write e) = (.error .symbolsExhausted, t, s)
  written :
    t.Accepts e.kind → ¬ e.LacksRoom (s.table t.table) →
      ∃ c table',
        e.encode (s.table t.table) = (.ok c, table') ∧
        t.access s (.write e) =
          (.ok none,
            { t with
              cells := t.cells.set t.position c
              position := t.position + 1 },
            s.setTable t.table table')

/-
  What a typed read does to a tuple and a store.  A cell that
  is no id of a text is passed over before the read fails.
-/
structure Reads
    (t : Tuple)
    (s : Store)
    (kind : ElementKind) : Prop where
  fails_iff :
    (∃ v, (t.access s (.read kind)).1 = .error v) ↔
      (∃ v, t.Refuses kind v) ∨
        (kind = .text ∧
          ∃ c, t.cells[t.position]? = some c ∧
            ¬ (s.table t.table).Issued c)
  refused :
    ∀ v, t.Refuses kind v →
      t.access s (.read kind) = (.error v, t, s)
  passed :
    t.Accepts kind →
      ∃ c, t.cells[t.position]? = some c ∧
        t.access s (.read kind) =
          ((Element.decode kind (s.table t.table) c).map some,
            { t with position := t.position + 1 }, s)

variable {t : Tuple}
variable {r : Relation}
variable {kind : ElementKind}

theorem InBounds.access_write_of_refuses
    (h : t.InBounds r)
    {e : Element}
    {v : Violation}
    (hRefuses : t.Refuses e.kind v)
    (s : Store) :
    t.access s (.write e) = (.error v, t, s) := by
  simp only [access, Store.write, h.append_of_refuses hRefuses,
    Store.setTable_table]
  rfl

theorem InBounds.access_write_of_lacksRoom
    (h : t.InBounds r)
    {s : Store}
    {e : Element}
    (hAccepts : t.Accepts e.kind)
    (hFull : e.LacksRoom (s.table t.table)) :
    t.access s (.write e) = (.error .symbolsExhausted, t, s) := by
  simp only [access, Store.write,
    h.append_of_lacksRoom hAccepts hFull, Store.setTable_table]
  rfl

theorem InBounds.access_write_of_room
    (h : t.InBounds r)
    {s : Store}
    {e : Element}
    (hAccepts : t.Accepts e.kind)
    (hRoom : ¬ e.LacksRoom (s.table t.table)) :
    ∃ c table',
      e.encode (s.table t.table) = (.ok c, table') ∧
        t.access s (.write e) =
          (.ok none, t.put c, s.setTable t.table table') := by
  rcases h.append_of_room hAccepts hRoom with
    ⟨c, table', hEncode, hAppend⟩
  refine ⟨c, table', hEncode, ?_⟩
  simp only [access, Store.write, hAppend]
  rfl

theorem InBounds.writes
    (h : t.InBounds r)
    (s : Store)
    (e : Element) : t.Writes s e where
  fails_iff := by
    rcases h.accepts_or_refuses e.kind with
      hAccepts | ⟨v, hRefuses⟩
    · rw [or_iff_right (not_refuses_of_accepts hAccepts)]
      -- Behind the check only a text without id is in the way.
      by_cases hFull : e.LacksRoom (s.table t.table)
      · rw [h.access_write_of_lacksRoom hAccepts hFull]
        exact ⟨fun _ => hFull, fun _ => ⟨_, rfl⟩⟩
      · rcases h.access_write_of_room hAccepts hFull with
          ⟨c, table', _, hAccess⟩
        rw [hAccess]
        constructor
        · rintro ⟨v, hFails⟩
          cases hFails
        · exact fun hLacks => absurd hLacks hFull
    · rw [h.access_write_of_refuses hRefuses]
      exact ⟨fun _ => Or.inl ⟨v, hRefuses⟩, fun _ => ⟨_, rfl⟩⟩
  refused := fun _ hRefuses => h.access_write_of_refuses hRefuses s
  exhausted := h.access_write_of_lacksRoom
  written := h.access_write_of_room

theorem InBounds.access_read_of_refuses
    (h : t.InBounds r)
    {v : Violation}
    (hRefuses : t.Refuses kind v)
    (s : Store) :
    t.access s (.read kind) = (.error v, t, s) := by
  rw [access, h.read_of_refuses hRefuses]
  rfl

theorem InBounds.access_read_of_accepts
    (h : t.InBounds r)
    (hAccepts : t.Accepts kind)
    (s : Store) :
    ∃ c, t.cells[t.position]? = some c ∧
      t.access s (.read kind) =
        ((Element.decode kind (s.table t.table) c).map some,
          t.advance, s) := by
  rcases h.read_of_accepts hAccepts (s.table t.table) with
    ⟨c, hCell, hRead⟩
  refine ⟨c, hCell, ?_⟩
  rw [access, hRead]

theorem InBounds.reads
    (h : t.InBounds r)
    (s : Store)
    (kind : ElementKind) : t.Reads s kind where
  fails_iff := by
    rcases h.accepts_or_refuses kind with
      hAccepts | ⟨v, hRefuses⟩
    · rcases h.access_read_of_accepts hAccepts s with
        ⟨c, hCell, hAccess⟩
      rw [hAccess, or_iff_right (not_refuses_of_accepts hAccepts),
        hCell]
      -- The cursor has moved on before the cell is resolved.
      constructor
      · rintro ⟨v, hFails⟩
        cases hDecode :
            Element.decode kind (s.table t.table) c with
        | error v =>
            have hUnknown :=
              (Element.decode_eq_error_iff.mp hDecode).2
            exact ⟨hUnknown.1, c, rfl, hUnknown.2⟩
        | ok e =>
            rw [hDecode] at hFails
            cases hFails
      · rintro ⟨rfl, c', hSame, hUnknown⟩
        cases hSame
        rw [Element.decode_eq_error_iff.mpr ⟨rfl, rfl, hUnknown⟩]
        exact ⟨_, rfl⟩
    · rw [h.access_read_of_refuses hRefuses]
      exact ⟨fun _ => Or.inl ⟨v, hRefuses⟩, fun _ => ⟨_, rfl⟩⟩
  refused := fun _ hRefuses => h.access_read_of_refuses hRefuses s
  passed := fun hAccepts => h.access_read_of_accepts hAccepts s

/- Every access leaves a tuple in bounds. -/
theorem InBounds.access
    (h : t.InBounds r)
    (s : Store)
    (a : Access) : (t.access s a).2.1.InBounds r := by
  cases a with
  | write e => exact h.append _ e
  | read kind => exact h.read _ kind
  | rewind => exact h.rewind
  | set column c =>
      simp only [Tuple.access]
      split
      · rename_i hSet
        exact h.set hSet
      · exact h

/- No access touches a relation. -/
theorem relation_access
    (t : Tuple)
    (s : Store)
    (a : Access) :
    (t.access s a).2.2.relation = s.relation := by
  cases a with
  | write e => rfl
  | read kind => rfl
  | rewind => rfl
  | set column c =>
      simp only [access]
      split <;> rfl

end Tuple

end FactStore
