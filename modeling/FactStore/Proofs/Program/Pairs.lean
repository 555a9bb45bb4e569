import FactStore.Program
import FactStore.Proofs.Closure.Walk
import FactStore.Proofs.Facts.Load

/-
  This file proves what the relations of a transitive closure
  mean as pairs of texts.  A line is a pair when it has two
  fields, ids join two texts exactly when the edges between
  texts do, and the line of a pair has the texts as fields.

  Key definitions include:
    * `Field.texts`
    * `Program.isPair`
    * `Program.pairsOf`

  Main statements include:
    * `Program.loadLines_symbolPair`
    * `Program.mem_values_pair_iff`
    * `Program.readable_of_joined`
    * `Program.texts_text`
-/

namespace FactStore

/- The unescaped fields of a line. -/
def Field.texts (line : List Char) : List String :=
  (split '\t' line).map String.ofList

namespace Program

------------------------------------------------------------
-- Lines of Pairs
------------------------------------------------------------

/- Whether a numbered line has two fields. -/
def isPair (entry : List Char × Nat) : Bool :=
  (Field.texts entry.1).length = 2

/- The fields of the lines before the first that is no pair. -/
def pairsOf (entries : List (List Char × Nat)) : List (List String) :=
  (entries.takeWhile isPair).map fun entry =>
    Field.texts entry.1

/- The first line that is no pair, and its number. -/
def firstOther
    (entries : List (List Char × Nat)) :
    Option (List Char × Nat) :=
  entries.find? fun entry => !isPair entry

/- Two fields are a row of pairs; any other number is a fault. -/
theorem values_symbolPair
    (name : String)
    (line : List Char) :
    Line.values (symbolPair name) line '\t' =
      if (Field.texts line).length = 2 then
        .ok ((Field.texts line).map .text)
      else
        .error (.fieldCount (Field.texts line).length 2) := by
  have hArity : (symbolPair name).arity = 2 := rfl
  rw [Line.values, if_neg (by rw [hArity]; decide)]
  simp only [hArity, Field.texts, List.length_map]
  split
  · rename_i hLength
    rcases List.length_eq_two.mp hLength with ⟨x, y, hSplit⟩
    rw [hSplit]
    rfl
  · rfl

/- Texts are read from symbol columns as they stand. -/
theorem columnValues_symbolPair
    (name : String)
    {pair : List String}
    (hLength : pair.length = 2) :
    Relation.columnValues (symbolPair name)
        (pair.map Element.text) =
      pair.map Element.text := by
  rcases List.length_eq_two.mp hLength with ⟨x, z, rfl⟩
  rfl

/- Lines are read up to the first that is no pair. -/
theorem readThrough_symbolPair
    (name : String)
    (entries : List (List Char × Nat)) :
    FactFile.readThrough (symbolPair name) '\t' entries =
      ((pairsOf entries).map (List.map .text),
        (firstOther entries).map fun entry =>
          (entry.2,
            .fieldCount (Field.texts entry.1).length 2)) := by
  induction entries with
  | nil => rfl
  | cons entry entries ih =>
      rcases entry with ⟨line, number⟩
      rw [FactFile.readThrough, values_symbolPair, pairsOf,
        firstOther, List.takeWhile_cons, List.find?_cons]
      by_cases hPair : (Field.texts line).length = 2
      · have hTrue : isPair (line, number) = true :=
          decide_eq_true hPair
        rw [if_pos hPair, ih, hTrue]
        simp only [columnValues_symbolPair name hPair]
        rfl
      · have hFalse : isPair (line, number) = false :=
          decide_eq_false hPair
        rw [if_neg hPair, hFalse]
        rfl

theorem texts_map_text (pair : List String) :
    Element.texts (pair.map Element.text) = pair := by
  rw [Element.texts, List.filterMap_map]
  exact List.filterMap_some

theorem flatMap_texts (pairs : List (List String)) :
    (pairs.map (List.map Element.text)).flatMap Element.texts =
      pairs.flatten := by
  simp only [List.flatMap_map, texts_map_text, List.flatMap_id']

/-
  A strict load into a relation of pairs adds the pairs up to
  the first line that is no pair, if all of their texts find
  ids, and answers that line or the number of pairs.
-/
theorem loadLines_symbolPair
    {name : String}
    {r : Relation}
    {table : SymbolTable}
    (file : String)
    (hSchema : r.schema = symbolPair name)
    (hReadable : r.Readable table)
    (ls : List (List Char)) :
    let entries := FactFile.entries 1 ls
    let known? := table.internEach? (pairsOf entries).flatten
    let result :=
      FactFile.loadLines file default (ls.map .ok) 1 0 r table
    (known? = none →
      result.1 = .error (.violation .symbolsExhausted)) ∧
    ∀ table', known? = some table' →
      result.1 =
          FactFile.answer file (pairsOf entries).length
            ((firstOther entries).map fun entry =>
              (entry.2,
                .fieldCount (Field.texts entry.1).length 2)) ∧
        result.2.2 = table' ∧
        r.Adds table ((pairsOf entries).map (List.map .text))
          result.2.1 table' := by
  have hStrict :=
    @FactFile.loadLines_of_strict file default rfl ls 1 0 r
      table hReadable.memory
  have hDelimiter : (default : FactOptions).delimiter = '\t' := rfl
  simp only [hSchema, hDelimiter, readThrough_symbolPair,
    flatMap_texts, List.length_map, Nat.zero_add] at hStrict
  intro entries known? result
  constructor
  · intro hNone
    simp only [known?, entries] at hNone
    rw [hNone] at hStrict
    exact hStrict
  · intro table' hKnown
    simp only [known?, entries] at hKnown
    rw [hKnown] at hStrict
    rcases hStrict with ⟨hAnswer, hSymbols, hStores⟩
    exact ⟨hAnswer, hSymbols, hStores.adds hReadable⟩

------------------------------------------------------------
-- Rows of Pairs
------------------------------------------------------------

variable {name : String}
variable {r r' : Relation}
variable {table : SymbolTable}

/- A pair of cells is read as the texts of both. -/
theorem decode_symbolPair_iff
    {x z : Cell}
    {es : List Element} :
    Row.decode table (symbolPair name).attributes [x, z] =
        .ok es ↔
      ∃ a b, table.resolve? x = some a ∧
        table.resolve? z = some b ∧ es = [.text a, .text b] := by
  have hText :
      ∀ {c : Cell} {e : Element},
        Element.decode .text table c = .ok e ↔
          ∃ a, table.resolve? c = some a ∧ e = .text a := by
    intro c e
    rw [Element.decode]
    cases table.resolve? c <;> simp [eq_comm]
  have hNone :
      ∀ {es : List Element},
        Row.decode table [] [] = .ok es ↔ es = [] := by
    intro es
    exact ⟨fun h => (Except.ok.inj h).symm, fun h => h ▸ rfl⟩
  simp only [symbolPair, Row.decode_cons_eq_ok_iff, Line.kindOf,
    hText, hNone]
  constructor
  · rintro ⟨_, _, ⟨a, hx, rfl⟩, ⟨_, _, ⟨b, hz, rfl⟩, rfl, rfl⟩, rfl⟩
    exact ⟨a, b, hx, hz, rfl⟩
  · rintro ⟨a, b, hx, hz, rfl⟩
    exact
      ⟨_, _, ⟨a, hx, rfl⟩, ⟨_, _, ⟨b, hz, rfl⟩, rfl, rfl⟩, rfl⟩

/- The values of a set of pairs are the texts of its rows. -/
theorem mem_values_pair_iff
    (hSchema : r.schema = symbolPair name)
    (hUniform : r.Uniform)
    {es : List Element} :
    es ∈ r.values table ↔
      ∃ x z a b, [x, z] ∈ r.rows ∧
        table.resolve? x = some a ∧ table.resolve? z = some b ∧
        es = [.text a, .text b] := by
  rw [Relation.mem_values_iff, hSchema]
  constructor
  · rintro ⟨row, hRow, hDecode⟩
    have hWidth : row.length = 2 := by
      rw [hUniform row hRow, Relation.arity, hSchema]
      rfl
    rcases List.length_eq_two.mp hWidth with ⟨x, z, rfl⟩
    rcases decode_symbolPair_iff.mp hDecode with ⟨a, b, hTexts⟩
    exact ⟨x, z, a, b, hRow, hTexts⟩
  · rintro ⟨x, z, a, b, hRow, hTexts⟩
    exact ⟨[x, z], hRow, decode_symbolPair_iff.mpr ⟨a, b, hTexts⟩⟩

/- Each row of a readable set of pairs is read as two texts. -/
theorem exists_texts_of_mem
    (hSchema : r.schema = symbolPair name)
    (hReadable : r.Readable table)
    {x z : Cell}
    (hRow : [x, z] ∈ r.rows) :
    ∃ a b, table.resolve? x = some a ∧
      table.resolve? z = some b ∧
      [.text a, .text b] ∈ r.values table := by
  rcases hReadable.decodes _ hRow with ⟨es, hDecode⟩
  have hTexts := hDecode
  rw [hSchema] at hTexts
  rcases decode_symbolPair_iff.mp hTexts with
    ⟨a, b, hx, hz, rfl⟩
  exact ⟨a, b, hx, hz, Relation.mem_values_iff.mpr ⟨_, hRow, hDecode⟩⟩

------------------------------------------------------------
-- Walks of Texts
------------------------------------------------------------

/- A walk of one or more pairs joins two texts. -/
def TextsJoined
    (vs : List (List Element)) : String → String → Prop :=
  Relation.TransGen fun a b => [.text a, .text b] ∈ vs

/- Joined cells stand for joined texts. -/
theorem exists_textsJoined_of_joined
    (hSchema : r.schema = symbolPair name)
    (hReadable : r.Readable table)
    {x z : Cell}
    (h : Closure.Joined r.rows x z) :
    ∃ a b, table.resolve? x = some a ∧
      table.resolve? z = some b ∧
      TextsJoined (r.values table) a b := by
  have hTexts :
      ∀ {y z : Cell}, [y, z] ∈ r.rows →
        ∃ a b, table.resolve? y = some a ∧
          table.resolve? z = some b ∧
          [.text a, .text b] ∈ r.values table :=
    exists_texts_of_mem hSchema hReadable
  induction h with
  | single hEdge =>
      rcases hTexts hEdge with ⟨a, b, hx, hz, hPair⟩
      exact ⟨a, b, hx, hz, .single hPair⟩
  | tail _ hEdge ih =>
      rcases ih with ⟨a, b, hx, hy, hJoined⟩
      rcases hTexts hEdge with ⟨b', c, hy', hz, hPair⟩
      cases hy.symm.trans hy'
      exact ⟨a, c, hx, hz, hJoined.tail hPair⟩

/- Joined texts are those of joined cells. -/
theorem exists_joined_of_textsJoined
    (hSchema : r.schema = symbolPair name)
    (hReadable : r.Readable table)
    {a b : String}
    (h : TextsJoined (r.values table) a b) :
    ∃ x z, table.resolve? x = some a ∧
      table.resolve? z = some b ∧
      Closure.Joined r.rows x z := by
  have hCells :
      ∀ {a b : String}, [.text a, .text b] ∈ r.values table →
        ∃ x z, table.resolve? x = some a ∧
          table.resolve? z = some b ∧ [x, z] ∈ r.rows := by
    intro a b hPair
    rcases
        (mem_values_pair_iff hSchema hReadable.uniform).mp hPair with
      ⟨x, z, _, _, hRow, hx, hz, hSame⟩
    cases hSame
    exact ⟨x, z, hx, hz, hRow⟩
  induction h with
  | single hPair =>
      rcases hCells hPair with ⟨x, z, hx, hz, hEdge⟩
      exact ⟨x, z, hx, hz, .single hEdge⟩
  | tail _ hPair ih =>
      rcases ih with ⟨x, y, hx, hy, hJoined⟩
      rcases hCells hPair with ⟨y', z, hy', hz, hEdge⟩
      -- A text has one id, so the walk goes on where it was.
      cases SymbolTable.resolve?_inj hy hy'
      exact ⟨x, z, hx, hz, hJoined.tail hEdge⟩

/-
  A set of pairs that holds the joined cells of another one
  is read as the joined texts of that one.
-/
theorem readable_of_joined
    {name' : String}
    (hSchema : r.schema = symbolPair name)
    (hReadable : r.Readable table)
    (hSchema' : r'.schema = symbolPair name')
    (hMemory : r'.IsMemory)
    (hRows :
      ∀ row, row ∈ r'.rows ↔
        ∃ x z, row = [x, z] ∧ Closure.Joined r.rows x z) :
    r'.Readable table ∧
      ∀ es, es ∈ r'.values table ↔
        ∃ a b, es = [.text a, .text b] ∧
          TextsJoined (r.values table) a b := by
  have hUniform : r'.Uniform := by
    intro row hRow
    rcases (hRows row).mp hRow with ⟨x, z, rfl, _⟩
    rw [Relation.arity, hSchema']
    rfl
  refine ⟨⟨hMemory, hUniform, ?_⟩, fun es => ?_⟩
  · intro row hRow
    rcases (hRows row).mp hRow with ⟨x, z, rfl, hJoined⟩
    rcases
        exists_textsJoined_of_joined hSchema hReadable hJoined with
      ⟨a, b, hx, hz, _⟩
    rw [hSchema']
    exact ⟨_, decode_symbolPair_iff.mpr ⟨a, b, hx, hz, rfl⟩⟩
  · rw [mem_values_pair_iff hSchema' hUniform]
    constructor
    · rintro ⟨x, z, a, b, hRow, hx, hz, rfl⟩
      rcases (hRows _).mp hRow with ⟨_, _, hSame, hJoined⟩
      cases hSame
      rcases
          exists_textsJoined_of_joined hSchema hReadable hJoined with
        ⟨a', b', hx', hz', hTexts⟩
      cases hx.symm.trans hx'
      cases hz.symm.trans hz'
      exact ⟨a, b, rfl, hTexts⟩
    · rintro ⟨a, b, rfl, hTexts⟩
      rcases
          exists_joined_of_textsJoined hSchema hReadable hTexts with
        ⟨x, z, hx, hz, hJoined⟩
      exact
        ⟨x, z, a, b, (hRows _).mpr ⟨x, z, rfl, hJoined⟩,
          hx, hz, rfl⟩

------------------------------------------------------------
-- Written Pairs
------------------------------------------------------------

/- The fields of the line of a row of texts are those texts. -/
theorem texts_text
    {pair : List String}
    (hNonempty : pair ≠ []) :
    Field.texts (Line.text (pair.map .text)) = pair := by
  have hFields :
      List.Forall₂ (Field.ReadsAs '\t')
        ((pair.map Element.text).map (Line.field '\t'))
        ((pair.map Element.text).map Line.fieldValue) := by
    rw [List.forall₂_map_left_iff, List.forall₂_map_right_iff,
      List.forall₂_same]
    exact fun e _ =>
      Line.readsAs_field Field.isSeparator_tab fun _ => by decide
  have hSome : pair.map Element.text ≠ [] := by
    simpa using hNonempty
  rw [Line.text, if_neg hSome, Field.texts,
    Field.split_join hFields (by simpa using hSome),
    List.map_map, List.map_map]
  simp [Function.comp_def, Line.fieldValue]

/-
  The lines of a set of pairs are distinct, none holds a
  newline, each has the texts of a pair as its fields, and
  every pair has a line.
-/
theorem lines_of_pairs
    {vs : List (List Element)}
    (hNodup : vs.Nodup)
    (hPairs : ∀ es ∈ vs, ∃ a b, es = [.text a, .text b]) :
    let ls := (vs.map Line.text).map String.ofList
    ls.Nodup ∧
      (∀ line ∈ ls, '\n' ∉ line.toList ∧
        (Field.texts line.toList).length = 2) ∧
      ∀ a b, [a, b] ∈ ls.map (Field.texts ·.toList) ↔
        [.text a, .text b] ∈ vs := by
  intro ls
  have hFields :
      ∀ a b, Field.texts (Line.text [.text a, .text b]) = [a, b] :=
    fun a b => @texts_text [a, b] (by simp)
  have hLines :
      ∀ line, line ∈ ls ↔
        ∃ es ∈ vs, String.ofList (Line.text es) = line := by
    intro line
    simp only [ls, List.map_map, List.mem_map, Function.comp_apply]
  refine ⟨?_, ?_, fun a b => ?_⟩
  · simp only [ls, List.map_map]
    refine hNodup.map_on fun es hes es' hes' hSame => ?_
    rcases hPairs es hes with ⟨a, b, rfl⟩
    rcases hPairs es' hes' with ⟨a', b', rfl⟩
    have hTexts :=
      congrArg Field.texts (String.ofList_injective hSame)
    rw [hFields, hFields] at hTexts
    cases hTexts
    rfl
  · intro line hLine
    rcases (hLines line).mp hLine with ⟨es, hes, rfl⟩
    rcases hPairs es hes with ⟨a, b, rfl⟩
    rw [String.toList_ofList]
    refine ⟨Line.not_mem_text (Or.inl rfl) _, ?_⟩
    rw [hFields]
    rfl
  · rw [List.mem_map]
    constructor
    · rintro ⟨line, hLine, hTexts⟩
      rcases (hLines line).mp hLine with ⟨es, hes, rfl⟩
      rcases hPairs es hes with ⟨a', b', rfl⟩
      rw [String.toList_ofList, hFields] at hTexts
      cases hTexts
      exact hes
    · intro hes
      refine ⟨_, (hLines _).mpr ⟨_, hes, rfl⟩, ?_⟩
      rw [String.toList_ofList, hFields]

end Program

end FactStore
