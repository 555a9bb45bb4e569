import FactStore.Cell
import FactStore.NameMap
import FactStore.Violation

/-
  This file defines symbol tables: texts numbered from zero
  in the order in which they were first seen.  A symbol
  column stores the number of its text.  A table keeps the id
  of each text and the text of each id in containers of their
  own, and every lookup keeps them in step.

  Key definitions include:
    * `Symbols`
    * `Symbols.lookup`
    * `Symbols.resolve?`
    * `Symbols.Consistent`
    * `SymbolTable`
    * `SymbolTable.lookup`
    * `SymbolTable.ofSymbols`

  Main statements include:
    * `Symbols.Consistent.lookup`
    * `Symbols.Consistent.lookupAll`
    * `Symbols.Consistent.get?_eq_some_iff`
    * `SymbolTable.resolve?_ofNat`
-/

namespace FactStore

------------------------------------------------------------
-- Two Containers
------------------------------------------------------------

/- The ids by their texts, and the texts in the order of ids. -/
structure Symbols where
  byName : NameMap Cell
  byId : List String
deriving DecidableEq, Repr

namespace Symbols

/- The number of ids that a cell can hold. -/
def capacity : Nat := 1 <<< 31

/- The containers before any text is seen. -/
def empty : Symbols :=
  ⟨.empty, []⟩

/- A place as an id, if a cell can hold it. -/
def idOf? (place : Nat) : Option Cell :=
  if place < capacity then some (Int32.ofNat place) else none

/-
  Look up a text: the answer is its id, which is issued when
  the text is new.  There is no id when those that fit into a
  cell are used up, which is found out before either
  container changes.
-/
def lookup
    (s : Symbols)
    (symbol : String) : Except Violation Cell × Symbols :=
  match s.byName.get? symbol with
  | some id => (.ok id, s)
  | none =>
      match idOf? s.byId.length with
      | none => (.error .symbolsExhausted, s)
      | some id =>
          let s := { s with byName := s.byName.insert symbol id }
          let s := { s with byId := s.byId ++ [symbol] }
          (.ok id, s)

/- Look up texts from left to right, until one finds no id. -/
def lookupAll
    (s : Symbols) :
    List String → Except Violation Unit × Symbols
| [] => (.ok (), s)
| symbol :: symbols =>
    match s.lookup symbol with
    | (.error v, s') => (.error v, s')
    | (.ok _, s') => lookupAll s' symbols

/- The text with an id.  Negative and unissued ids have none. -/
def resolve?
    (s : Symbols)
    (id : Cell) : Option String :=
  if 0 ≤ id then s.byId[id.toNatClampNeg]? else none

/- Whether a text has an id. -/
def contains
    (s : Symbols)
    (symbol : String) : Bool :=
  s.byName.contains symbol

/- The number of issued ids. -/
def size (s : Symbols) : Nat :=
  s.byId.length

/- Whether no id is issued. -/
def isEmpty (s : Symbols) : Bool :=
  s.byId.isEmpty

------------------------------------------------------------
-- Consistency
------------------------------------------------------------

/-
  The containers are in step: the id of a text is the place
  of the text, and a cell can hold every place.
-/
structure Consistent (s : Symbols) : Prop where
  entries :
    s.byName.entries =
      s.byId.mapIdx fun place x => (x, Int32.ofNat place)
  bounded : s.byId.length ≤ capacity

theorem Consistent.empty : Symbols.empty.Consistent where
  entries := rfl
  bounded := Nat.zero_le _

variable {s : Symbols}

/- The known names are the texts that have a place. -/
theorem Consistent.names
    (h : s.Consistent) : s.byName.names = s.byId := by
  rw [NameMap.names, h.entries]
  exact List.ext_getElem (by simp) (by simp)

/- No text has two places. -/
theorem Consistent.nodup
    (h : s.Consistent) : s.byId.Nodup := by
  rw [← h.names]
  exact s.byName.distinct

/- The id of a text is the place of the text. -/
theorem Consistent.get?_eq_some_iff
    (h : s.Consistent)
    {symbol : String}
    {id : Cell} :
    s.byName.get? symbol = some id ↔
      ∃ place : Nat,
        s.byId[place]? = some symbol ∧ id = Int32.ofNat place := by
  rw [NameMap.get?_eq_some_iff, h.entries, List.mem_mapIdx]
  constructor
  · rintro ⟨place, hLt, hEq⟩
    cases hEq
    exact ⟨place, List.getElem?_eq_getElem hLt, rfl⟩
  · rintro ⟨place, hAt, rfl⟩
    rcases List.getElem?_eq_some_iff.mp hAt with ⟨hLt, rfl⟩
    exact ⟨place, hLt, rfl⟩

/- A text without id has no place. -/
theorem Consistent.get?_eq_none_iff
    (h : s.Consistent)
    {symbol : String} :
    s.byName.get? symbol = none ↔ symbol ∉ s.byId := by
  rw [NameMap.get?_eq_none_iff, h.names]

/- What a lookup does to a new text that finds an id. -/
theorem lookup_of_idOf?
    {symbol : String}
    {id : Cell}
    (hNew : s.byName.get? symbol = none)
    (hId : idOf? s.byId.length = some id) :
    s.lookup symbol =
      (.ok id,
        ⟨s.byName.insert symbol id, s.byId ++ [symbol]⟩) := by
  simp only [lookup, hNew, hId]

/- A lookup keeps the containers in step. -/
theorem Consistent.lookup
    (h : s.Consistent)
    (symbol : String) : (s.lookup symbol).2.Consistent := by
  -- Only a new text that finds an id changes anything.
  cases hFound : s.byName.get? symbol with
  | some id =>
      simp only [Symbols.lookup, hFound]
      exact h
  | none =>
      cases hId : idOf? s.byId.length with
      | none =>
          simp only [Symbols.lookup, hFound, hId]
          exact h
      | some id =>
          rw [lookup_of_idOf? hFound hId]
          rw [idOf?, Option.ite_none_right_eq_some] at hId
          rcases hId with ⟨hRoom, hId⟩
          refine ⟨?_, ?_⟩
          · rw [NameMap.entries_insert_of_new _ hFound, h.entries,
              List.mapIdx_concat, ← Option.some.inj hId]
          · rw [List.length_append, List.length_singleton]
            exact hRoom

theorem Consistent.lookupAll
    (h : s.Consistent)
    (symbols : List String) :
    (s.lookupAll symbols).2.Consistent := by
  induction symbols generalizing s with
  | nil => exact h
  | cons symbol symbols ih =>
      rw [Symbols.lookupAll]
      have hNext := h.lookup symbol
      split <;> rename_i hLookup <;> rw [hLookup] at hNext
      · exact hNext
      · exact ih hNext

end Symbols

------------------------------------------------------------
-- Symbol Tables
------------------------------------------------------------

/- Two containers that are in step. -/
structure SymbolTable extends Symbols where
  consistent : toSymbols.Consistent
deriving DecidableEq, Repr

namespace SymbolTable

/- The number of ids that a cell can hold. -/
abbrev capacity : Nat := Symbols.capacity

/- The table that knows no text. -/
def empty : SymbolTable :=
  ⟨.empty, .empty⟩

instance : Inhabited SymbolTable := ⟨empty⟩

/- All known texts, in the order of their ids. -/
def symbols (t : SymbolTable) : List String :=
  t.byId

/- Look up a text, which the table knows from then on. -/
def lookup
    (t : SymbolTable)
    (symbol : String) : Except Violation Cell × SymbolTable :=
  let found := t.toSymbols.lookup symbol
  (found.1, ⟨found.2, t.consistent.lookup symbol⟩)

/- Look up texts from left to right, until one finds no id. -/
def lookupAll
    (t : SymbolTable)
    (symbols : List String) : Except Violation Unit × SymbolTable :=
  let found := t.toSymbols.lookupAll symbols
  (found.1, ⟨found.2, t.consistent.lookupAll symbols⟩)

/- A new table of texts, up to the first that finds no id. -/
def holding (symbols : List String) : SymbolTable :=
  (empty.lookupAll symbols).2

/- A new table of a list of texts, which must all find ids. -/
def ofSymbols
    (symbols : List String) : Except Violation SymbolTable :=
  (empty.lookupAll symbols).1.map fun _ => holding symbols

------------------------------------------------------------
-- Places
------------------------------------------------------------

theorem nodup (t : SymbolTable) : t.symbols.Nodup :=
  t.consistent.nodup

theorem bounded (t : SymbolTable) : t.symbols.length ≤ capacity :=
  t.consistent.bounded

/- Tables of the same texts are the same. -/
theorem eq_of_symbols_eq
    {t t' : SymbolTable}
    (h : t.symbols = t'.symbols) : t = t' := by
  have hNames : t.byName = t'.byName := by
    apply NameMap.eq_of_entries_eq
    rw [t.consistent.entries, t'.consistent.entries]
    exact congrArg (List.mapIdx _) h
  rcases t with ⟨⟨byName, byId⟩, _⟩
  rcases t' with ⟨⟨byName', byId'⟩, _⟩
  cases hNames
  cases h
  rfl

/- A place that a cell can hold is read back from the cell. -/
theorem toNatClampNeg_ofNat
    {place : Nat}
    (h : place < capacity) :
    (Int32.ofNat place).toNatClampNeg = place := by
  have hLt : place < 2147483648 := h
  have hInt : (Int32.ofNat place).toInt = place :=
    Int32.toInt_ofNat_of_lt hLt
  simp [Int32.toNatClampNeg, hInt]

/- A place that a cell can hold makes a cell that is not negative. -/
theorem zero_le_ofNat
    {place : Nat}
    (h : place < capacity) :
    (0 : Cell) ≤ Int32.ofNat place := by
  have hLt : place < 2147483648 := h
  have hInt : (Int32.ofNat place).toInt = place :=
    Int32.toInt_ofNat_of_lt hLt
  rw [Int32.le_iff_toInt_le, hInt]
  exact Int.natCast_nonneg place

/- The id of a place names the text at that place. -/
theorem resolve?_ofNat
    {t : SymbolTable}
    {place : Nat}
    (h : place < t.size) :
    t.resolve? (Int32.ofNat place) = t.symbols[place]? := by
  have hRoom : place < capacity := Nat.lt_of_lt_of_le h t.bounded
  rw [Symbols.resolve?, if_pos (zero_le_ofNat hRoom),
    toNatClampNeg_ofNat hRoom]
  rfl

/- An id keeps its text in every table that begins alike. -/
theorem resolve?_of_prefix
    {t t' : SymbolTable}
    {symbol : String}
    {id : Cell}
    (hPrefix : t.symbols <+: t'.symbols)
    (h : t.resolve? id = some symbol) :
    t'.resolve? id = some symbol := by
  unfold Symbols.resolve? at h ⊢
  split at h
  · rename_i hNonneg
    rw [if_pos hNonneg]
    obtain ⟨rest, hRest⟩ := hPrefix
    change t.symbols[id.toNatClampNeg]? = some symbol at h
    have hLt := (List.getElem?_eq_some_iff.mp h).1
    change t'.symbols[id.toNatClampNeg]? = some symbol
    rw [← hRest, List.getElem?_append_left hLt]
    exact h
  · cases h

end SymbolTable

end FactStore
