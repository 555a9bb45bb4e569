import FactStore.SymbolTable
import Mathlib.Data.Finset.Card
import Mathlib.Data.List.Nodup

/-
  This file proves what a lookup finds and leaves: a known
  text is answered with its place, a new one comes behind the
  others, and one that finds no id changes nothing.  A list of
  texts finds ids exactly when a cell can number them together
  with the texts known before.

  Key definitions include:
    * `SymbolTable.intern?`
    * `SymbolTable.internEach?`

  Main statements include:
    * `Symbols.Consistent.lookup_of_mem`
    * `Symbols.Consistent.lookup_of_new`
    * `Symbols.Consistent.lookup_of_full`
    * `SymbolTable.intern?_eq_none_iff`
    * `SymbolTable.resolve?_inj`
    * `SymbolTable.internEach?_isSome_iff`
-/

namespace FactStore

------------------------------------------------------------
-- Lookups
------------------------------------------------------------

namespace Symbols

variable {s : Symbols}
variable {symbol : String}

/- A known text is answered with its place. -/
theorem Consistent.lookup_of_mem
    (h : s.Consistent)
    (hKnown : symbol ∈ s.byId) :
    s.lookup symbol =
      (.ok (Int32.ofNat (s.byId.idxOf symbol)), s) := by
  have hFound :
      s.byName.get? symbol =
        some (Int32.ofNat (s.byId.idxOf symbol)) :=
    h.get?_eq_some_iff.mpr ⟨_, List.getElem?_idxOf hKnown, rfl⟩
  simp only [Symbols.lookup, hFound]

/- A new text comes behind the others, if there is room. -/
theorem Consistent.lookup_of_new
    (h : s.Consistent)
    (hNew : symbol ∉ s.byId)
    (hRoom : s.size < capacity) :
    ∃ s', s.lookup symbol = (.ok (Int32.ofNat s.size), s') ∧
      s'.byId = s.byId ++ [symbol] :=
  ⟨_, lookup_of_idOf? (h.get?_eq_none_iff.mpr hNew) (if_pos hRoom),
    rfl⟩

/- A new text that finds no room changes nothing. -/
theorem Consistent.lookup_of_full
    (h : s.Consistent)
    (hNew : symbol ∉ s.byId)
    (hFull : s.size = capacity) :
    s.lookup symbol = (.error .symbolsExhausted, s) := by
  have hUnknown : s.byName.get? symbol = none :=
    h.get?_eq_none_iff.mpr hNew
  have hNone : idOf? s.byId.length = none :=
    if_neg (Nat.not_lt.mpr (Nat.le_of_eq hFull.symm))
  simp only [Symbols.lookup, hUnknown, hNone]

end Symbols

namespace SymbolTable

/- A known text is answered with its place. -/
theorem lookup_of_mem
    {t : SymbolTable}
    {symbol : String}
    (h : symbol ∈ t.symbols) :
    t.lookup symbol =
      (.ok (Int32.ofNat (t.symbols.idxOf symbol)), t) := by
  simp only [lookup, t.consistent.lookup_of_mem h, symbols]

/- A new text comes behind the others, if there is room. -/
theorem lookup_of_new
    {t : SymbolTable}
    {symbol : String}
    (hNew : symbol ∉ t.symbols)
    (hRoom : t.size < capacity) :
    ∃ t', t.lookup symbol = (.ok (Int32.ofNat t.size), t') ∧
      t'.symbols = t.symbols ++ [symbol] := by
  rcases t.consistent.lookup_of_new hNew hRoom with
    ⟨s', hLookup, hGrown⟩
  refine ⟨(t.lookup symbol).2, ?_, ?_⟩
  · exact Prod.ext (congrArg (·.1) hLookup) rfl
  · exact (congrArg (·.2.byId) hLookup).trans hGrown

/- A new text that finds no room changes nothing. -/
theorem lookup_of_full
    {t : SymbolTable}
    {symbol : String}
    (hNew : symbol ∉ t.symbols)
    (hFull : t.size = capacity) :
    t.lookup symbol = (.error .symbolsExhausted, t) := by
  simp only [lookup, t.consistent.lookup_of_full hNew hFull]

------------------------------------------------------------
-- Interning
------------------------------------------------------------

/- The id of a text and the table that knows it, if it finds one. -/
def intern?
    (t : SymbolTable)
    (symbol : String) : Option (Cell × SymbolTable) :=
  match t.lookup symbol with
  | (.ok id, t') => some (id, t')
  | (.error _, _) => none

theorem intern?_eq_some_iff
    {t t' : SymbolTable}
    {symbol : String}
    {id : Cell} :
    t.intern? symbol = some (id, t') ↔
      t.lookup symbol = (.ok id, t') := by
  rw [intern?]
  rcases t.lookup symbol with ⟨_ | id', t''⟩ <;> simp

/- A text finds no id only when it is new and there is none left. -/
theorem intern?_eq_none_iff
    {t : SymbolTable}
    {symbol : String} :
    t.intern? symbol = none ↔
      symbol ∉ t.symbols ∧ t.size = capacity := by
  rw [intern?]
  by_cases hKnown : symbol ∈ t.symbols
  · simp [lookup_of_mem hKnown, hKnown]
  · by_cases hRoom : t.size < capacity
    · rcases lookup_of_new hKnown hRoom with ⟨t', hLookup, _⟩
      simp [hLookup, Nat.ne_of_lt hRoom]
    · have hFull : t.size = capacity :=
        Nat.le_antisymm t.bounded (Nat.le_of_not_lt hRoom)
      simp [lookup_of_full hKnown hFull, hKnown, hFull]

/- A lookup, in terms of what it finds. -/
theorem lookup_eq
    (t : SymbolTable)
    (symbol : String) :
    t.lookup symbol =
      match t.intern? symbol with
      | some (id, t') => (.ok id, t')
      | none => (.error .symbolsExhausted, t) := by
  cases hIntern : t.intern? symbol with
  | some found => exact intern?_eq_some_iff.mp hIntern
  | none =>
      rcases intern?_eq_none_iff.mp hIntern with ⟨hNew, hFull⟩
      exact lookup_of_full hNew hFull

/- A known text is interned at its place, and nothing changes. -/
theorem intern?_of_mem
    {t : SymbolTable}
    {symbol : String}
    (h : symbol ∈ t.symbols) :
    t.intern? symbol =
      some (Int32.ofNat (t.symbols.idxOf symbol), t) :=
  intern?_eq_some_iff.mpr (lookup_of_mem h)

/- A new text is interned behind the others, if there is room. -/
theorem intern?_of_new
    {t : SymbolTable}
    {symbol : String}
    (hNew : symbol ∉ t.symbols)
    (hRoom : t.size < capacity) :
    ∃ t', t.intern? symbol = some (Int32.ofNat t.size, t') ∧
      t'.symbols = t.symbols ++ [symbol] := by
  rcases lookup_of_new hNew hRoom with ⟨t', hLookup, hGrown⟩
  exact ⟨t', intern?_eq_some_iff.mpr hLookup, hGrown⟩

------------------------------------------------------------
-- Growth
------------------------------------------------------------

/- A text that finds an id is known, or it is learned. -/
theorem intern?_cases
    {t t' : SymbolTable}
    {symbol : String}
    {id : Cell}
    (h : t.intern? symbol = some (id, t')) :
    (symbol ∈ t.symbols ∧
        id = Int32.ofNat (t.symbols.idxOf symbol) ∧ t' = t) ∨
      (symbol ∉ t.symbols ∧ id = Int32.ofNat t.size ∧
        t'.symbols = t.symbols ++ [symbol]) := by
  by_cases hKnown : symbol ∈ t.symbols
  · rw [intern?_of_mem hKnown] at h
    cases h
    exact Or.inl ⟨hKnown, rfl, rfl⟩
  · have hRoom : t.size < capacity := by
      apply Nat.lt_of_le_of_ne t.bounded
      intro hFull
      rw [intern?_eq_none_iff.mpr ⟨hKnown, hFull⟩] at h
      cases h
    rcases intern?_of_new hKnown hRoom with ⟨t₁, hIntern, hGrown⟩
    rw [hIntern] at h
    cases h
    exact Or.inr ⟨hKnown, rfl, hGrown⟩

/- Interning adds nothing but the text that is interned. -/
theorem symbols_of_intern?
    {t t' : SymbolTable}
    {symbol : String}
    {id : Cell}
    (h : t.intern? symbol = some (id, t')) :
    t'.symbols = t.symbols ∨
      t'.symbols = t.symbols ++ [symbol] := by
  rcases intern?_cases h with ⟨_, _, rfl⟩ | ⟨_, _, hGrown⟩
  · exact Or.inl rfl
  · exact Or.inr hGrown

/- What a table knows before interning, it knows at the same place after. -/
theorem prefix_of_intern?
    {t t' : SymbolTable}
    {symbol : String}
    {id : Cell}
    (h : t.intern? symbol = some (id, t')) :
    t.symbols <+: t'.symbols := by
  rcases symbols_of_intern? h with hSame | hGrown
  · rw [hSame]
  · rw [hGrown]
    exact List.prefix_append _ _

/- What a table knows before a lookup, it knows at the same place after. -/
theorem prefix_of_lookup
    (t : SymbolTable)
    (symbol : String) :
    t.symbols <+: (t.lookup symbol).2.symbols := by
  rw [lookup_eq]
  split
  · rename_i hIntern
    exact prefix_of_intern? hIntern
  · exact List.prefix_refl _

/- The id that interning answers names the text. -/
theorem resolve?_of_intern?
    {t t' : SymbolTable}
    {symbol : String}
    {id : Cell}
    (h : t.intern? symbol = some (id, t')) :
    t'.resolve? id = some symbol := by
  rcases intern?_cases h with
    ⟨hKnown, rfl, rfl⟩ | ⟨_, rfl, hGrown⟩
  · have hPlace := List.idxOf_lt_length_iff.mpr hKnown
    rw [resolve?_ofNat hPlace, List.getElem?_idxOf hKnown]
  · have hSize : t'.size = t.size + 1 := by
      rw [Symbols.size, ← symbols, hGrown, List.length_append]
      rfl
    rw [resolve?_ofNat (by omega), hGrown]
    exact List.getElem?_concat_length

/- A text that an id names is known. -/
theorem mem_of_resolve?
    {t : SymbolTable}
    {symbol : String}
    {id : Cell}
    (h : t.resolve? id = some symbol) :
    symbol ∈ t.symbols := by
  unfold Symbols.resolve? at h
  split at h
  · exact List.mem_of_getElem? h
  · cases h

/- A text has one id at most. -/
theorem resolve?_inj
    {t : SymbolTable}
    {symbol : String}
    {id id' : Cell}
    (h : t.resolve? id = some symbol)
    (h' : t.resolve? id' = some symbol) : id = id' := by
  unfold Symbols.resolve? at h h'
  split at h
  · rename_i hNonneg
    split at h'
    · rename_i hNonneg'
      rcases List.getElem?_eq_some_iff.mp h with ⟨hLt, hAt⟩
      rcases List.getElem?_eq_some_iff.mp h' with ⟨hLt', hAt'⟩
      have hPlace :
          id.toNatClampNeg = id'.toNatClampNeg :=
        (List.Nodup.getElem_inj_iff t.nodup).mp
          (hAt.trans hAt'.symm)
      have hInt : id.toInt = id'.toInt := by
        have hZero : 0 ≤ id.toInt := Int32.le_iff_toInt_le.mp hNonneg
        have hZero' : 0 ≤ id'.toInt :=
          Int32.le_iff_toInt_le.mp hNonneg'
        simp only [Int32.toNatClampNeg] at hPlace
        omega
      exact Int32.toInt_inj.mp hInt
    · cases h'
  · cases h

/- The text that is interned is the only one that is learned. -/
theorem mem_symbols_of_intern?
    {t t' : SymbolTable}
    {symbol : String}
    {id : Cell}
    (h : t.intern? symbol = some (id, t'))
    (s : String) :
    s ∈ t'.symbols ↔ s ∈ t.symbols ∨ s = symbol := by
  have hKnown : symbol ∈ t'.symbols :=
    mem_of_resolve? (resolve?_of_intern? h)
  rcases symbols_of_intern? h with hSame | hGrown
  · rw [hSame] at hKnown ⊢
    constructor
    · exact Or.inl
    · rintro (hs | rfl)
      · exact hs
      · exact hKnown
  · rw [hGrown, List.mem_append, List.mem_singleton]

------------------------------------------------------------
-- Many Texts
------------------------------------------------------------

/-
  The table after texts are interned from left to right, if
  all of them find an id.
-/
def internEach?
    (t : SymbolTable)
    (texts : List String) : Option SymbolTable :=
  texts.foldlM (fun table s => (table.intern? s).map (·.2)) t

theorem internEach?_append
    (t : SymbolTable)
    (before after : List String) :
    t.internEach? (before ++ after) =
      (t.internEach? before).bind (·.internEach? after) := by
  rw [internEach?, List.foldlM_append]
  rfl

theorem internEach?_cons
    (t : SymbolTable)
    (s : String)
    (texts : List String) :
    t.internEach? (s :: texts) =
      ((t.intern? s).map (·.2)).bind (·.internEach? texts) := by
  rw [internEach?, List.foldlM_cons]
  rfl

/- Interning texts moves no text that is known before. -/
theorem prefix_of_internEach?
    {t t' : SymbolTable}
    {texts : List String}
    (h : t.internEach? texts = some t') :
    t.symbols <+: t'.symbols := by
  induction texts generalizing t with
  | nil =>
      cases h
      exact List.prefix_refl _
  | cons s texts ih =>
      rw [internEach?_cons] at h
      cases hIntern : t.intern? s with
      | none =>
          rw [hIntern] at h
          cases h
      | some found =>
          rw [hIntern] at h
          exact (prefix_of_intern? hIntern).trans (ih h)

/-
  All texts find an id exactly when a cell can number them
  together with those that are known before.
-/
theorem internEach?_isSome_iff
    (t : SymbolTable)
    (texts : List String) :
    (t.internEach? texts).isSome ↔
      (t.symbols ++ texts).toFinset.card ≤ capacity := by
  induction texts generalizing t with
  | nil =>
      rw [List.append_nil, List.toFinset_card_of_nodup t.nodup]
      exact iff_of_true rfl t.bounded
  | cons s texts ih =>
      rw [internEach?_cons]
      cases hIntern : t.intern? s with
      | none =>
          rcases intern?_eq_none_iff.mp hIntern with ⟨hNew, hFull⟩
          have hMore :
              t.symbols.toFinset ⊂
                (t.symbols ++ s :: texts).toFinset := by
            rw [Finset.ssubset_iff_of_subset]
            · exact ⟨s, by simp, by simpa using hNew⟩
            · intro x hx
              simp [List.mem_toFinset.mp hx]
          have hCard := Finset.card_lt_card hMore
          rw [List.toFinset_card_of_nodup t.nodup] at hCard
          refine iff_of_false (by simp) (Nat.not_le_of_lt ?_)
          exact hFull ▸ hCard
      | some found =>
          have hSame :
              (t.symbols ++ s :: texts).toFinset =
                (found.2.symbols ++ texts).toFinset := by
            ext x
            simp only [List.mem_toFinset, List.mem_append,
              List.mem_cons, mem_symbols_of_intern? hIntern,
              or_assoc]
          rw [hSame]
          exact ih found.2

/-
  Texts find ids in a table that knows no text from outside
  of a list, if they come from the list and a cell can number
  the list.
-/
theorem exists_internEach?_of_subset
    {t : SymbolTable}
    {known texts : List String}
    (hKnown : known.length ≤ capacity)
    (hSymbols : t.symbols ⊆ known)
    (hTexts : texts ⊆ known) :
    ∃ t', t.internEach? texts = some t' := by
  rw [← Option.isSome_iff_exists, internEach?_isSome_iff]
  have hSubset :
      (t.symbols ++ texts).toFinset ⊆ known.toFinset := by
    intro s hs
    rw [List.mem_toFinset] at hs ⊢
    rcases List.mem_append.mp hs with hOld | hNew
    · exact hSymbols hOld
    · exact hTexts hNew
  exact (Finset.card_le_card hSubset).trans
    ((List.toFinset_card_le known).trans hKnown)

end SymbolTable

end FactStore
