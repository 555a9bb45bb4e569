import FactStore.Proofs.SymbolTable.Interning

/-
  This file proves what a symbol table holds after any texts
  were looked up in it, one after the other: each of them
  once, in the order of first sight, as long as a cell can
  number them.  Its two containers are in step all the while,
  so texts and ids name each other, and no id ever names
  another text.

  Key definitions include:
    * `Symbols.lookUpEach`
    * `SymbolTable.Issued`
    * `SymbolTable.unknown`

  Main statements include:
    * `Symbols.Consistent.lookUpEach`
    * `Symbols.byId_lookUpEach`
    * `SymbolTable.internEach?_spec`
    * `SymbolTable.resolve?_eq_some_iff`
    * `SymbolTable.get?_eq_some_iff_resolve?`
    * `SymbolTable.issued_iff_resolve?`
    * `SymbolTable.ofSymbols_spec`
    * `SymbolTable.lookups_number_texts`
-/

namespace FactStore

namespace SymbolTable

/- The id of a place, as a number, is that place. -/
theorem toInt_ofNat
    {place : Nat}
    (h : place < capacity) :
    (Int32.ofNat place).toInt = place := by
  have hLt : place < 2147483648 := h
  exact Int32.toInt_ofNat_of_lt hLt

------------------------------------------------------------
-- Ids
------------------------------------------------------------

/- An id that the table gave to a text. -/
def Issued (t : SymbolTable) (c : Cell) : Prop :=
  0 ≤ c.toInt ∧ c.toInt < t.size

instance (t : SymbolTable) (c : Cell) : Decidable (t.Issued c) := by
  unfold Issued
  infer_instance

/- An id names the text whose place it is. -/
theorem resolve?_eq_some_iff
    {t : SymbolTable}
    {c : Cell}
    {symbol : String} :
    t.resolve? c = some symbol ↔
      symbol ∈ t.symbols ∧
        c.toInt = t.symbols.idxOf symbol := by
  constructor
  · intro h
    have hKnown := mem_of_resolve? h
    have hPlace := List.idxOf_lt_length_iff.mpr hKnown
    have hSame :
        t.resolve? (Int32.ofNat (t.symbols.idxOf symbol)) =
          some symbol :=
      resolve?_of_intern? (intern?_of_mem hKnown)
    refine ⟨hKnown, ?_⟩
    rw [resolve?_inj h hSame]
    exact toInt_ofNat (Nat.lt_of_lt_of_le hPlace t.bounded)
  · rintro ⟨hKnown, hPlace⟩
    have hLt := List.idxOf_lt_length_iff.mpr hKnown
    have hCell : c = Int32.ofNat (t.symbols.idxOf symbol) := by
      apply Int32.toInt_inj.mp
      rw [hPlace, toInt_ofNat (Nat.lt_of_lt_of_le hLt t.bounded)]
    rw [hCell]
    exact resolve?_of_intern? (intern?_of_mem hKnown)

/- The map of names is the inverse of the list of texts. -/
theorem get?_eq_some_iff_resolve?
    {t : SymbolTable}
    {c : Cell}
    {symbol : String} :
    t.byName.get? symbol = some c ↔ t.resolve? c = some symbol := by
  rw [t.consistent.get?_eq_some_iff]
  constructor
  · rintro ⟨place, hAt, rfl⟩
    have hLt : place < t.size := (List.getElem?_eq_some_iff.mp hAt).1
    rw [resolve?_ofNat hLt]
    exact hAt
  · intro h
    rcases resolve?_eq_some_iff.mp h with ⟨hKnown, hPlace⟩
    have hLt := List.idxOf_lt_length_iff.mpr hKnown
    refine ⟨_, List.getElem?_idxOf hKnown, ?_⟩
    apply Int32.toInt_inj.mp
    rw [hPlace]
    exact (toInt_ofNat (Nat.lt_of_lt_of_le hLt t.bounded)).symm

/- The issued ids are those that name a text. -/
theorem issued_iff_resolve?
    {t : SymbolTable}
    {c : Cell} :
    t.Issued c ↔ ∃ symbol, t.resolve? c = some symbol := by
  constructor
  · rintro ⟨hNonneg, hLt⟩
    have hPlace : c.toInt.toNat < t.symbols.length := by
      have hSize : c.toInt < t.symbols.length := hLt
      omega
    refine
      ⟨t.symbols[c.toInt.toNat],
        resolve?_eq_some_iff.mpr ⟨List.getElem_mem hPlace, ?_⟩⟩
    rw [t.nodup.idxOf_getElem _ hPlace]
    exact (Int.toNat_of_nonneg hNonneg).symm
  · rintro ⟨symbol, h⟩
    rcases resolve?_eq_some_iff.mp h with ⟨hKnown, hPlace⟩
    have hLt := List.idxOf_lt_length_iff.mpr hKnown
    rw [Issued, hPlace]
    exact ⟨Int.natCast_nonneg _, Int.ofNat_lt.mpr hLt⟩

/- Negative ids and those not yet given out name no text. -/
theorem resolve?_eq_none_iff
    {t : SymbolTable}
    {c : Cell} :
    t.resolve? c = none ↔
      c.toInt < 0 ∨ (t.size : Int) ≤ c.toInt := by
  have hIssued := @issued_iff_resolve? t c
  rw [← Option.isSome_iff_exists] at hIssued
  rw [← Option.not_isSome_iff_eq_none, ← hIssued, Issued]
  omega

/- There is room when a cell holds the number of known texts. -/
theorem size_lt_capacity_iff
    {s : Symbols} :
    s.size < capacity ↔ (s.size : Int) ≤ Int32.maxValue.toInt := by
  have hLimit : Int32.maxValue.toInt + 1 = capacity := by
    decide
  omega

------------------------------------------------------------
-- Many Texts
------------------------------------------------------------

/- One text more is distinct from the others, or it is not. -/
theorem eraseDups_concat
    (texts : List String)
    (x : String) :
    (texts ++ [x]).eraseDups =
      if x ∈ texts then texts.eraseDups
      else texts.eraseDups ++ [x] := by
  rw [List.eraseDups_append]
  by_cases hKnown : x ∈ texts
  · simp [List.removeAll, hKnown]
  · simp [List.removeAll, hKnown, List.eraseDups_cons]

theorem nodup_eraseDups (texts : List String) :
    texts.eraseDups.Nodup := by
  induction texts using List.reverseRecOn with
  | nil => exact List.nodup_nil
  | append_singleton texts x ih =>
      rw [eraseDups_concat]
      split
      · exact ih
      · rename_i hNew
        rw [← List.concat_eq_append]
        exact ih.concat (mt List.mem_eraseDups.mp hNew)

/- The texts that a table does not know, each of them once. -/
def unknown
    (t : SymbolTable)
    (texts : List String) : List String :=
  (texts.filter (· ∉ t.symbols)).eraseDups

/- A known text is none of the unknown ones. -/
theorem unknown_cons_of_mem
    {t : SymbolTable}
    {x : String}
    (hKnown : x ∈ t.symbols)
    (texts : List String) :
    t.unknown (x :: texts) = t.unknown texts := by
  rw [unknown, List.filter_cons_of_neg (by simpa using hKnown)]
  rfl

/- A text that is learned leads those that are still unknown. -/
theorem unknown_cons_of_new
    {t t' : SymbolTable}
    {x : String}
    (hNew : x ∉ t.symbols)
    (hGrown : t'.symbols = t.symbols ++ [x])
    (texts : List String) :
    t.unknown (x :: texts) = x :: t'.unknown texts := by
  rw [unknown, List.filter_cons_of_pos (by simpa using hNew),
    List.eraseDups_cons, List.filter_filter, unknown]
  refine congrArg (fun ys => x :: List.eraseDups ys) ?_
  apply List.filter_congr
  intro y _
  by_cases hSame : y = x
  · simp [hSame, hGrown]
  · simp [hSame, hGrown]

/- The unknown texts are learned in the order of first sight. -/
theorem symbols_of_internEach?
    {t t' : SymbolTable}
    {texts : List String}
    (h : t.internEach? texts = some t') :
    t'.symbols = t.symbols ++ t.unknown texts := by
  induction texts generalizing t with
  | nil =>
      cases h
      exact (List.append_nil _).symm
  | cons x texts ih =>
      rw [internEach?_cons] at h
      by_cases hKnown : x ∈ t.symbols
      · rw [intern?_of_mem hKnown] at h
        rw [unknown_cons_of_mem hKnown]
        exact ih h
      · cases hIntern : t.intern? x with
        | none =>
            rw [hIntern] at h
            cases h
        | some found =>
            rw [hIntern] at h
            have hGrown : found.2.symbols = t.symbols ++ [x] := by
              rcases symbols_of_intern? hIntern with hSame | hGrown
              · have hFound :=
                  (mem_symbols_of_intern? hIntern x).mpr (Or.inr rfl)
                rw [hSame] at hFound
                exact absurd hFound hKnown
              · exact hGrown
            rw [unknown_cons_of_new hKnown hGrown, ih h, hGrown,
              List.append_assoc, List.singleton_append]

/-
  Texts find ids exactly when a cell can number them with the
  known ones, and the unknown ones are learned then.
-/
theorem internEach?_spec
    (t : SymbolTable)
    (texts : List String) :
    match t.internEach? texts with
    | none => capacity < (t.symbols ++ texts).toFinset.card
    | some t' =>
        (t.symbols ++ texts).toFinset.card ≤ capacity ∧
          t'.symbols = t.symbols ++ t.unknown texts := by
  have hRoom := t.internEach?_isSome_iff texts
  split <;> rename_i hIntern <;> rw [hIntern] at hRoom
  · apply Nat.lt_of_not_le
    intro hFew
    cases hRoom.mpr hFew
  · exact ⟨hRoom.mp rfl, symbols_of_internEach? hIntern⟩

/- Known texts teach a table nothing. -/
theorem internEach?_of_subset
    {t : SymbolTable}
    {texts : List String}
    (h : texts ⊆ t.symbols) :
    t.internEach? texts = some t := by
  induction texts with
  | nil => rfl
  | cons x texts ih =>
      rw [internEach?_cons,
        intern?_of_mem (h List.mem_cons_self)]
      exact ih fun y hy => h (List.mem_cons_of_mem _ hy)

end SymbolTable

------------------------------------------------------------
-- Runs of Lookups
------------------------------------------------------------

namespace Symbols

/-
  The containers after texts are looked up, one after the
  other.  One that finds no id is given up, and the next one
  is looked up.
-/
def lookUpEach
    (s : Symbols)
    (texts : List String) : Symbols :=
  texts.foldl (fun s x => (s.lookup x).2) s

theorem lookUpEach_append
    (s : Symbols)
    (before after : List String) :
    s.lookUpEach (before ++ after) =
      (s.lookUpEach before).lookUpEach after :=
  List.foldl_append

/- Any lookups keep the containers in step. -/
theorem Consistent.lookUpEach
    {s : Symbols}
    (h : s.Consistent)
    (texts : List String) : (s.lookUpEach texts).Consistent := by
  induction texts generalizing s with
  | nil => exact h
  | cons x texts ih => exact ih (h.lookup x)

/- What is known stays at its place, whatever is looked up. -/
theorem Consistent.prefix_of_lookUpEach
    {s : Symbols}
    (h : s.Consistent)
    (texts : List String) :
    s.byId <+: (s.lookUpEach texts).byId := by
  induction texts generalizing s with
  | nil => exact List.prefix_refl _
  | cons x texts ih =>
      have hStep := SymbolTable.prefix_of_lookup ⟨s, h⟩ x
      exact List.IsPrefix.trans hStep (ih (h.lookup x))

/-
  Empty containers learn the distinct texts in the order of
  first sight, as many of them as a cell can number.
-/
theorem byId_lookUpEach (texts : List String) :
    (empty.lookUpEach texts).byId =
      texts.eraseDups.take capacity := by
  -- The last text is known, or finds room, or is refused.
  induction texts using List.reverseRecOn with
  | nil => rfl
  | append_singleton texts x ih =>
      have hStep := Consistent.empty.lookUpEach texts
      rw [lookUpEach_append, SymbolTable.eraseDups_concat]
      generalize empty.lookUpEach texts = s at ih hStep ⊢
      have hSize : s.size = min capacity texts.eraseDups.length := by
        rw [size, ih, List.length_take]
      change (s.lookup x).2.byId = _
      by_cases hKnown : x ∈ s.byId
      · have hSeen : x ∈ texts := by
          rw [ih] at hKnown
          exact List.mem_eraseDups.mp (List.mem_of_mem_take hKnown)
        rw [hStep.lookup_of_mem hKnown, if_pos hSeen]
        exact ih
      · by_cases hRoom : s.size < capacity
        · have hFew : texts.eraseDups.length ≤ capacity := by
            omega
          rw [List.take_of_length_le hFew] at ih
          have hUnseen : x ∉ texts := by
            rwa [ih, List.mem_eraseDups] at hKnown
          have hNext := (hStep.lookup x).bounded
          rcases hStep.lookup_of_new hKnown hRoom with
            ⟨s', hLookup, hGrown⟩
          rw [hLookup] at hNext ⊢
          rw [if_neg hUnseen, ← ih, ← hGrown,
            List.take_of_length_le hNext]
        · have hFull : s.size = capacity :=
            Nat.le_antisymm hStep.bounded (Nat.le_of_not_lt hRoom)
          have hMany : capacity ≤ texts.eraseDups.length := by
            omega
          rw [hStep.lookup_of_full hKnown hFull]
          by_cases hSeen : x ∈ texts
          · rw [if_pos hSeen]
            exact ih
          · rw [if_neg hSeen, List.take_append_of_le_length hMany]
            exact ih

/- Texts that all find ids are looked up to the last. -/
theorem lookupAll_of_ok
    {s : Symbols}
    {texts : List String}
    (h : (s.lookupAll texts).1 = .ok ()) :
    (s.lookupAll texts).2 = s.lookUpEach texts := by
  induction texts generalizing s with
  | nil => rfl
  | cons x texts ih =>
      rw [lookupAll] at h ⊢
      rw [lookUpEach, List.foldl_cons]
      split at h
      · cases h
      · rename_i hLookup
        rw [hLookup]
        exact ih h

end Symbols

namespace SymbolTable

/- A list of texts is looked up to its end, or until none is left. -/
theorem lookupAll_spec
    (t : SymbolTable)
    (texts : List String) :
    (t.lookupAll texts).1 =
      match t.internEach? texts with
      | some _ => .ok ()
      | none => .error .symbolsExhausted := by
  induction texts generalizing t with
  | nil => rfl
  | cons x texts ih =>
      have hLookup := t.lookup_eq x
      rw [internEach?_cons]
      cases hIntern : t.intern? x with
      | none =>
          rw [hIntern] at hLookup
          have hRaw : t.toSymbols.lookup x =
              (.error .symbolsExhausted, t.toSymbols) :=
            Prod.ext (congrArg (·.1) hLookup)
              (congrArg (·.2.toSymbols) hLookup)
          simp only [lookupAll, Symbols.lookupAll, hRaw]
          rfl
      | some found =>
          rw [hIntern] at hLookup
          have hRaw : t.toSymbols.lookup x =
              (.ok found.1, found.2.toSymbols) :=
            Prod.ext (congrArg (·.1) hLookup)
              (congrArg (·.2.toSymbols) hLookup)
          simp only [lookupAll, Symbols.lookupAll, hRaw]
          exact ih found.2

/-
  A table is made of a list of texts exactly when a cell can
  number the distinct ones, which it knows in the order of
  first sight.
-/
theorem ofSymbols_spec (texts : List String) :
    match ofSymbols texts with
    | .error v =>
        v = .symbolsExhausted ∧ capacity < texts.eraseDups.length
    | .ok t =>
        texts.eraseDups.length ≤ capacity ∧
          t.toSymbols = Symbols.empty.lookUpEach texts := by
  have hSpec := empty.internEach?_spec texts
  have hOutcome := empty.lookupAll_spec texts
  have hCard : texts.toFinset.card = texts.eraseDups.length := by
    rw [← List.toFinset_card_of_nodup (nodup_eraseDups texts)]
    congr 1
    ext x
    simp
  rw [ofSymbols]
  cases hEach : empty.internEach? texts with
  | none =>
      rw [hEach] at hSpec hOutcome
      simp only [hOutcome, Except.map]
      exact ⟨trivial, hCard ▸ hSpec⟩
  | some t =>
      rw [hEach] at hSpec hOutcome
      simp only [hOutcome, Except.map]
      exact ⟨hCard ▸ hSpec.1, Symbols.lookupAll_of_ok hOutcome⟩

/-
  A table is made of some texts, none for a new one, if a
  cell can number them, and is then asked for further texts
  any number of times.  Its list of texts holds the distinct
  ones of all, in the order of first sight and as many as a
  cell can number, and its map of names is the inverse of the
  list.  A known text is answered with its place, and nothing
  changes.  A new text gets the next place or, where a cell
  cannot hold that, is refused, and nothing changes either.
  What is known stays.
-/
theorem lookups_number_texts (given texts : List String) :
    match ofSymbols given with
    | .error v =>
        v = .symbolsExhausted ∧
          SymbolTable.capacity < given.eraseDups.length
    | .ok made =>
        let s := made.toSymbols.lookUpEach texts
        let next : Int := s.size
        given.eraseDups.length ≤ SymbolTable.capacity ∧
          s.byId =
            (given ++ texts).eraseDups.take SymbolTable.capacity ∧
          (∀ x, s.contains x = true ↔ x ∈ s.byId) ∧
          (∀ x c,
            s.byName.get? x = some c ↔ s.resolve? c = some x) ∧
          (∀ x ∈ s.byId, ∃ c : Cell,
            c.toInt = s.byId.idxOf x ∧ s.lookup x = (.ok c, s)) ∧
          (∀ x ∉ s.byId,
            (next ≤ Int32.maxValue.toInt →
              ∃ (c : Cell) (s' : Symbols),
                c.toInt = next ∧ s.lookup x = (.ok c, s') ∧
                  s'.byId = s.byId ++ [x]) ∧
            (Int32.maxValue.toInt < next →
              s.lookup x = (.error .symbolsExhausted, s))) ∧
          (∀ c x,
            s.resolve? c = some x ↔
              x ∈ s.byId ∧ c.toInt = s.byId.idxOf x) ∧
          (∀ c,
            s.resolve? c = none ↔ c.toInt < 0 ∨ next ≤ c.toInt) ∧
          ∀ more, s.byId <+: (s.lookUpEach more).byId := by
  have hMade := ofSymbols_spec given
  split <;> rename_i hGiven <;> rw [hGiven] at hMade
  · exact hMade
  · rename_i made
    intro s next
    have h : s.Consistent := made.consistent.lookUpEach texts
    have hAll : s = Symbols.empty.lookUpEach (given ++ texts) := by
      rw [Symbols.lookUpEach_append, ← hMade.2]
    refine
      ⟨hMade.1, ?_, fun x => ?_,
        fun x c => @get?_eq_some_iff_resolve? ⟨s, h⟩ c x,
        fun x hKnown => ?_,
        fun x hNew => ⟨fun hFits => ?_, fun hMany => ?_⟩,
        fun c x => @resolve?_eq_some_iff ⟨s, h⟩ c x,
        fun c => @resolve?_eq_none_iff ⟨s, h⟩ c,
        h.prefix_of_lookUpEach⟩
    · rw [hAll, Symbols.byId_lookUpEach]
    · rw [Symbols.contains, NameMap.contains_iff_mem_names, h.names]
    · have hPlace := List.idxOf_lt_length_iff.mpr hKnown
      exact
        ⟨_, toInt_ofNat (Nat.lt_of_lt_of_le hPlace h.bounded),
          h.lookup_of_mem hKnown⟩
    · have hRoom : s.size < capacity :=
        size_lt_capacity_iff.mpr hFits
      rcases h.lookup_of_new hNew hRoom with ⟨s', hLookup, hGrown⟩
      exact ⟨_, s', toInt_ofNat hRoom, hLookup, hGrown⟩
    · have hNoRoom : ¬ s.size < capacity := by
        rw [size_lt_capacity_iff]
        exact Int.not_le.mpr hMany
      have hFull : s.size = capacity :=
        Nat.le_antisymm h.bounded (Nat.le_of_not_lt hNoRoom)
      exact h.lookup_of_full hNew hFull

end SymbolTable

end FactStore
