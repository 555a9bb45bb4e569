import Mathlib
import FactStore.Proofs.Facts.RoundTrip
import FactStore.Proofs.Program.Pairs
import FactStore.Proofs.Program.Session

/-
  This file proves what a new program for the transitive
  closure makes of a file of edges: it loads the pairs of the
  lines, closes them, and stores the pairs that their walks
  join.  A line that is no pair ends it before anything is
  closed or stored.

  Key definitions include:
    * `Program.Untouched`

  Main statements include:
    * `Program.untouched_closure`
    * `Program.Untouched.loadAll_spec`
    * `Program.Closes.printAll_spec`
    * `Program.runAll_closes_file`
-/

namespace FactStore

namespace Program

variable {p : Program}
variable {edge path delta : RelationId}
variable {s s' : Store}

------------------------------------------------------------
-- New Programs
------------------------------------------------------------

/-
  A program for the transitive closure with the options that
  are the default, which nothing was done to yet.
-/
structure Untouched
    (p : Program)
    (edge path delta : RelationId)
    (s : Store) : Prop where
  closes : Closes p edge path delta s
  engine : p.engine = .closure edge path delta default
  used : p.table.index < s.tables.length
  symbols : s.table p.table = .empty
  noEdges : (s.relation edge).rows = []
  noPaths : (s.relation path).rows = []

theorem untouched_closure
    (hNew : Action.run (closure default) s = (.ok p, s')) :
    Untouched p ⟨s.relations.length⟩ ⟨s.relations.length + 1⟩
      ⟨s.relations.length + 2⟩ s' := by
  have hCloses := closes_closure hNew
  rcases eq_of_run_closure hNew with ⟨_, hTable, hEngine, rfl⟩
  refine ⟨hCloses, hEngine, ?_, ?_, ?_, ?_⟩
  · simp [hTable]
  · simp [hTable, Store.table]
  · simp [Store.relation, Relation.rows, Relation.memory,
      Storage.rows, RowSet.empty]
  · simp [Store.relation, Relation.rows, Relation.memory,
      Storage.rows, RowSet.empty]

------------------------------------------------------------
-- Loading
------------------------------------------------------------

/- The only file that is loaded is that of the edges. -/
theorem Untouched.run_loadAll
    (h : Untouched p edge path delta s)
    (input : String) :
    Action.run (p.loadAll input) s =
      match
        Action.run
          (Action.load edge (FilePath.join input "edge.facts")
            default) s with
      | (.ok _, s') => (.ok (), s')
      | (.error f, s') => (.error f, s') := by
  have hName : (s.relation edge).name ++ ".facts" = "edge.facts" := by
    rw [Relation.name, h.closes.keepsEdge.schema]
    rfl
  rw [loadAll, h.engine, h.closes.view_input]
  simp only [loadFrom, Action.run_bind, Action.run_relation, hName]
  cases Action.run
      (Action.load edge (FilePath.join input "edge.facts") default)
      s with
  | mk outcome s' => cases outcome <;> rfl

/- The error that names a line of a file that is no pair. -/
def notPair
    (file : String)
    (entry : List Char × Nat) : AccessError :=
  .parse file entry.2
    (LineFault.fieldCount (Field.texts entry.1).length 2).message

/- A store after pairs were loaded as the edges of a program. -/
structure LoadedPairs
    (p : Program)
    (edge path : RelationId)
    (pairs : List (List String))
    (s s' : Store) : Prop where
  evolves : s.Evolves s'
  files : s'.files = s.files
  noPaths : (s'.relation path).rows = []
  readable : (s'.relation edge).Readable (s'.table p.table)
  values :
    ∀ es, es ∈ s'.values edge ↔
      es ∈ pairs.map (List.map Element.text)

/- Rows of pairs that an empty `edge` takes are loaded. -/
theorem Untouched.loadedPairs_setBoth
    (h : Untouched p edge path delta s)
    {pairs : List (List String)}
    {r' : Relation}
    {table' : SymbolTable}
    (hAdds :
      (s.relation edge).Adds (s.table (s.relation edge).table)
        (pairs.map (List.map .text)) r' table')
    (hTable : r'.table = p.table)
    (hEvolves : s.Evolves (s.setBoth edge r' table')) :
    LoadedPairs p edge path pairs s (s.setBoth edge r' table') := by
  have hUsed := h.closes.keepsEdge.used
  have hUsedTable : r'.table.index < s.tables.length :=
    hTable ▸ h.used
  have hEdge : (s.setBoth edge r' table').relation edge = r' :=
    Store.relation_setRelation r' hUsed
  have hSymbols : (s.setBoth edge r' table').table p.table = table' := by
    rw [← hTable]
    exact Store.table_setTable table' hUsedTable
  have hOther : path ≠ edge := h.closes.ne.1.symm
  have hPath :
      (s.setBoth edge r' table').relation path = s.relation path :=
    Store.relation_setRelation_of_ne r' hOther
  have hNone :
      (s.relation edge).values
        (s.table (s.relation edge).table) = [] := by
    rw [Relation.values, h.noEdges]
    rfl
  refine ⟨hEvolves, rfl, ?_, ?_, fun es => ?_⟩
  · rw [hPath]
    exact h.noPaths
  · rw [hEdge, hSymbols]
    exact hAdds.readable
  · rw [Store.values_setBoth hUsed hUsedTable, hAdds.values,
      hNone]
    simp

/-
  A load adds the pairs of the lines up to the first that is
  no pair, and answers that one.  It fails for another reason
  exactly when a cell cannot number the texts of the pairs.
-/
theorem Untouched.loadAll_spec
    (h : Untouched p edge path delta s)
    {input text : String}
    {content : ByteArray}
    (hRead :
      s.files.read (FilePath.join input "edge.facts") =
        .ok content)
    (hText : String.fromUTF8? content = some text) :
    let file := FilePath.join input "edge.facts"
    let entries :=
      FactFile.entries 1 (FactFile.textLines text.toList)
    let loaded := Action.run (p.loadAll input) s
    let ids := (pairsOf entries).flatten.toFinset.card
    (SymbolTable.capacity < ids →
      loaded.1 = .error (.violation .symbolsExhausted)) ∧
    (ids ≤ SymbolTable.capacity →
      (firstOther entries = none → loaded.1 = .ok ()) ∧
      (∀ entry, firstOther entries = some entry →
        loaded.1 = .error (.error (notPair file entry))) ∧
      LoadedPairs p edge path (pairsOf entries) s loaded.2) := by
  intro file entries loaded ids
  let r := s.relation edge
  let table := s.table r.table
  let result :=
    FactFile.loadLines file default
      ((FactFile.textLines text.toList).map .ok) 1 0 r table
  have hSchema : r.schema = symbolPair "edge" :=
    h.closes.keepsEdge.schema
  have hTable : r.table = p.table := h.closes.keepsEdge.table
  have hSymbols : table = .empty := by
    simp only [table, hTable, h.symbols]
  have hEmpty : r.Readable table :=
    Relation.readable_of_rows_eq_nil _ h.closes.keepsEdge.memory
      h.noEdges
  have hLoaded :
      loaded =
        (result.1.map fun _ => (),
          s.setBoth edge result.2.1 result.2.2) := by
    have hLoad :
        Action.run (Action.load edge file default) s =
          (result.1, s.setBoth edge result.2.1 result.2.2) :=
      Action.run_load_of_text default hRead hText
    simp only [loaded]
    rw [h.run_loadAll, hLoad]
    cases result.1 <;> rfl
  have hEvolves := evolves_loadAll p input s
  have hLines :=
    loadLines_symbolPair file hSchema hEmpty
      (FactFile.textLines text.toList)
  -- The table is empty, so only the texts of the pairs count.
  have hRoom :
      (table.internEach? (pairsOf entries).flatten).isSome ↔
        (pairsOf entries).flatten.toFinset.card ≤
          SymbolTable.capacity := by
    rw [SymbolTable.internEach?_isSome_iff, hSymbols]
    rfl
  constructor
  · intro hFull
    have hNone :
        table.internEach? (pairsOf entries).flatten = none := by
      rw [← Option.not_isSome_iff_eq_none, hRoom]
      exact Nat.not_le_of_lt hFull
    have hFails := hLines.1 hNone
    rw [hLoaded]
    exact congrArg (Except.map fun _ => ()) hFails
  · intro hFits
    rcases Option.isSome_iff_exists.mp (hRoom.mpr hFits) with
      ⟨table', hKnown⟩
    rcases hLines.2 table' hKnown with
      ⟨hAnswer, hTable', hAdds⟩
    have hKept : result.2.1.table = p.table :=
      (FactFile.evolves_loadLines file default _ 1 0 r
        table).1.table.trans hTable
    rw [← hTable'] at hAdds
    change s.Evolves loaded.2 at hEvolves
    rw [hLoaded] at hEvolves ⊢
    refine
      ⟨fun hNone => ?_, fun entry hOther => ?_,
        h.loadedPairs_setBoth hAdds hKept hEvolves⟩
    · rw [hAnswer, hNone]
      rfl
    · rw [hAnswer, hOther]
      rfl

------------------------------------------------------------
-- Storing
------------------------------------------------------------

/- The only file that is stored is that of the paths. -/
theorem Closes.printAll_spec
    (h : Closes p edge path delta s)
    (hEngine : p.engine = .closure edge path delta default)
    {output : String}
    {place : FilePath}
    (hReadable : (s.relation path).Readable (s.table p.table))
    (hPath :
      s.files.creatable (FilePath.join output "path.csv") =
        .ok place) :
    ∃ files,
      Action.run (p.printAll output) s =
        (.ok (), { s with files }) ∧
      files.read (FilePath.join output "path.csv") =
        .ok (FactFile.ofRows (s.values path)).toUTF8 := by
  have hName : (s.relation path).name ++ ".csv" = "path.csv" := by
    rw [Relation.name, h.keepsPath.schema]
    rfl
  rw [← h.keepsPath.table] at hReadable
  rcases Action.run_store hReadable hPath with
    ⟨files, hStore, hRead⟩
  refine ⟨files, ?_, hRead⟩
  rw [printAll, hEngine, h.view_output]
  simp only [storeTo, Action.run_bind, Action.run_relation, hName,
    hStore]
  rfl

------------------------------------------------------------
-- Running
------------------------------------------------------------

/- Pairs of texts are distinct as values. -/
theorem mem_map_text_iff
    {pairs : List (List String)}
    {a b : String} :
    [.text a, .text b] ∈ pairs.map (List.map Element.text) ↔
      [a, b] ∈ pairs := by
  have hInjective : Function.Injective Element.text :=
    fun _ _ hSame => Element.text.inj hSame
  exact @List.mem_map_of_injective _ _ _
    (List.map_injective_iff.mpr hInjective) [a, b] pairs

/-
  A run from an empty `path` makes it the joined texts of the
  pairs that were loaded, and touches no file.
-/
theorem Untouched.run_spec
    (h : Untouched p edge path delta s)
    {pairs : List (List String)}
    (hLoaded : LoadedPairs p edge path pairs s s') :
    ∃ s'', Action.run (p.run none) s' = (.ok (), s'') ∧
      Closes p edge path delta s'' ∧
      s''.files = s.files ∧
      (s''.relation path).Readable (s''.table p.table) ∧
      ∀ es, es ∈ s''.values path ↔
        ∃ a b, es = [.text a, .text b] ∧
          Relation.TransGen (fun a b => [a, b] ∈ pairs) a b := by
  have hCloses := h.closes.of_evolves hLoaded.evolves
  rcases hCloses.run_spec (Or.inl rfl) with
    ⟨s'', hRun, hEvolves, hPath, _, _, hTables, hFiles⟩
  have hCloses'' := hCloses.of_evolves hEvolves
  have hRows :
      ∀ row, row ∈ (s''.relation path).rows ↔
        ∃ x z, row = [x, z] ∧
          Closure.Joined (s'.relation edge).rows x z := by
    intro row
    rw [hPath, hLoaded.noPaths]
    simp only [List.not_mem_nil, false_or,
      Closure.fresh_iff_joined_of_empty]
  have hTable : s''.table p.table = s'.table p.table := by
    rw [Store.table, hTables]
    rfl
  rcases
      readable_of_joined hCloses.keepsEdge.schema hLoaded.readable
        hCloses''.keepsPath.schema hCloses''.keepsPath.memory
        hRows with
    ⟨hReadable, hValues⟩
  have hPairs :
      ∀ a b,
        [.text a, .text b] ∈
            (s'.relation edge).values (s'.table p.table) ↔
          [a, b] ∈ pairs := by
    intro a b
    have hSame := hLoaded.values [.text a, .text b]
    rw [Store.values, hCloses.keepsEdge.table] at hSame
    rw [hSame, mem_map_text_iff]
  simp only [TextsJoined, hPairs] at hValues
  refine
    ⟨s'', hRun, hCloses'', hFiles.trans hLoaded.files, ?_, ?_⟩
  · rw [hTable]
    exact hReadable
  · rw [Store.values, hCloses''.keepsPath.table, hTable]
    exact hValues

------------------------------------------------------------
-- From File to File
------------------------------------------------------------

/- A load that fails is where the program ends. -/
theorem run_runAll_of_error
    {input output : String}
    {stratum : Option Nat}
    {f : Failure}
    (hLoad : (Action.run (p.loadAll input) s).1 = .error f) :
    Action.run (p.runAll input output stratum) s =
      (.error f, (Action.run (p.loadAll input) s).2) := by
  rw [runAll, Action.run_bind]
  cases hRun : Action.run (p.loadAll input) s with
  | mk outcome s' =>
      rw [hRun] at hLoad
      cases hLoad
      rfl

/- After the load and the run, what is left is to store. -/
theorem run_runAll_of_ok
    {input output : String}
    {stratum : Option Nat}
    (hLoad : (Action.run (p.loadAll input) s).1 = .ok ())
    (hRun :
      Action.run (p.run stratum)
          (Action.run (p.loadAll input) s).2 = (.ok (), s')) :
    Action.run (p.runAll input output stratum) s =
      Action.run (p.printAll output) s' := by
  rw [runAll, Action.run_bind]
  cases hLoaded : Action.run (p.loadAll input) s with
  | mk outcome s₁ =>
      rw [hLoaded] at hLoad hRun
      cases hLoad
      simp only [Action.run_bind, hRun]

/-
  Where the load and the run succeed, the file has a line for
  each two texts that a walk of pairs joins.
-/
theorem Untouched.runAll_of_loaded
    (h : Untouched p edge path delta s)
    {input output : String}
    {place : FilePath}
    {pairs : List (List String)}
    (hOk : (Action.run (p.loadAll input) s).1 = .ok ())
    (hLoaded :
      LoadedPairs p edge path pairs s
        (Action.run (p.loadAll input) s).2)
    (hPath :
      s.files.creatable (FilePath.join output "path.csv") =
        .ok place) :
    let ran := Action.run (p.runAll input output none) s
    ran.1 = .ok () ∧
      ∃ ls,
        ran.2.files.read (FilePath.join output "path.csv") =
          .ok (FactFile.unlines ls).toUTF8 ∧
        ls.Nodup ∧
        (∀ line ∈ ls, '\n' ∉ line.toList ∧
          (Field.texts line.toList).length = 2) ∧
        ∀ a b, [a, b] ∈ ls.map (Field.texts ·.toList) ↔
          Relation.TransGen (fun a b => [a, b] ∈ pairs) a b := by
  intro ran
  rcases h.run_spec hLoaded with
    ⟨s₂, hRun, hCloses, hFiles, hReadable, hValues⟩
  rw [← hFiles] at hPath
  rcases hCloses.printAll_spec h.engine hReadable hPath with
    ⟨files, hPrint, hWritten⟩
  have hRan : ran = (.ok (), { s₂ with files }) := by
    rw [← hPrint]
    exact run_runAll_of_ok hOk hRun
  have hNodup : (s₂.values path).Nodup := by
    rw [Store.values, hCloses.keepsPath.table]
    exact hReadable.nodup_values
  have hPairs :
      ∀ es ∈ s₂.values path, ∃ a b, es = [.text a, .text b] := by
    intro es hes
    rcases (hValues es).mp hes with ⟨a, b, hSame, _⟩
    exact ⟨a, b, hSame⟩
  rcases lines_of_pairs hNodup hPairs with
    ⟨hDistinct, hTwo, hLines⟩
  rw [hRan]
  refine ⟨rfl, _, hWritten, hDistinct, hTwo, fun a b => ?_⟩
  rw [hLines, hValues]
  constructor
  · rintro ⟨_, _, hSame, hJoined⟩
    cases hSame
    exact hJoined
  · exact fun hJoined => ⟨a, b, rfl, hJoined⟩

/- A load that is ended by a line leaves the rest as it was. -/
theorem Untouched.runAll_of_other
    (h : Untouched p edge path delta s)
    {input : String}
    (output : String)
    {e : AccessError}
    {pairs : List (List String)}
    (hError :
      (Action.run (p.loadAll input) s).1 = .error (.error e))
    (hLoaded :
      LoadedPairs p edge path pairs s
        (Action.run (p.loadAll input) s).2) :
    let ran := Action.run (p.runAll input output none) s
    ran.1 = .error (.error e) ∧
      ran.2.files = s.files ∧
      (ran.2.relation path).rows = [] ∧
      (ran.2.values edge).length = (ran.2.relation edge).size ∧
      ∀ es, es ∈ ran.2.values edge ↔
        es ∈ pairs.map (List.map .text) := by
  intro ran
  have hRan :
      ran =
        (.error (.error e), (Action.run (p.loadAll input) s).2) :=
    run_runAll_of_error hError
  have hCloses := h.closes.of_evolves hLoaded.evolves
  rw [hRan]
  refine
    ⟨rfl, hLoaded.files, hLoaded.noPaths, ?_, hLoaded.values⟩
  rw [Store.values, hCloses.keepsEdge.table]
  exact hLoaded.readable.length_values

/- Where no line is another, the pairs are those of all lines. -/
theorem pairsOf_of_firstOther_eq_none
    {entries : List (List Char × Nat)}
    (h : firstOther entries = none) :
    pairsOf entries =
      entries.map fun entry => Field.texts entry.1 := by
  have hAll : entries.takeWhile isPair = entries := by
    rw [List.takeWhile_eq_self_iff]
    intro entry hEntry
    have hPair := List.find?_eq_none.mp h entry hEntry
    simpa using hPair
  rw [pairsOf, hAll]

/-
  A new program loads the pairs of the lines of `edge.facts`
  that are no blank ones.  If each of them is a pair, then
  `path.csv` gets a line for each two texts that a walk of
  pairs joins, each once, and nothing else.  Otherwise the
  program ends with an error that names the first line that
  is no pair: no file is changed, `path` has no rows, and
  `edge` holds the pairs before that line.  A cell must be
  able to number the texts of the pairs, or the program ends
  for want of ids.
-/
theorem runAll_closes_file
    {s₀ : Store}
    {input output text : String}
    {content : ByteArray}
    {place : FilePath}
    (hNew : Action.run (closure default) s₀ = (.ok p, s))
    (hRead :
      s.files.read (FilePath.join input "edge.facts") =
        .ok content)
    (hText : String.fromUTF8? content = some text)
    (hPath :
      s.files.creatable (FilePath.join output "path.csv") =
        .ok place) :
    let file := FilePath.join input "edge.facts"
    let entries :=
      FactFile.entries 1 (FactFile.textLines text.toList)
    let pairs := pairsOf entries
    let ids := pairs.flatten.toFinset.card
    let ran := Action.run (p.runAll input output none) s
    ∃ edge path,
      p.catalog.find? "edge" = some edge ∧
      p.catalog.find? "path" = some path ∧
      (SymbolTable.capacity < ids →
        ran.1 = .error (.violation .symbolsExhausted)) ∧
      (ids ≤ SymbolTable.capacity →
        (firstOther entries = none →
          pairs = entries.map (fun entry => Field.texts entry.1) ∧
          ran.1 = .ok () ∧
          ∃ ls,
            ran.2.files.read (FilePath.join output "path.csv") =
              .ok (FactFile.unlines ls).toUTF8 ∧
            ls.Nodup ∧
            (∀ line ∈ ls, '\n' ∉ line.toList ∧
              (Field.texts line.toList).length = 2) ∧
            ∀ a b, [a, b] ∈ ls.map (Field.texts ·.toList) ↔
              Relation.TransGen (fun a b => [a, b] ∈ pairs) a b) ∧
        ∀ entry, firstOther entries = some entry →
          ran.1 = .error (.error (notPair file entry)) ∧
          ran.2.files = s.files ∧
          (ran.2.relation path).rows = [] ∧
          (ran.2.values edge).length =
            (ran.2.relation edge).size ∧
          ∀ es, es ∈ ran.2.values edge ↔
            es ∈ pairs.map (List.map .text)) := by
  intro file entries pairs ids ran
  have h := untouched_closure hNew
  rcases h.loadAll_spec hRead hText with ⟨hFull, hRoom⟩
  refine
    ⟨_, _, h.closes.find?_edge, h.closes.find?_path,
      fun hMany => ?_,
      fun hFew => ⟨fun hNone => ?_, fun entry hOther => ?_⟩⟩
  · exact congrArg Prod.fst (run_runAll_of_error (hFull hMany))
  · rcases hRoom hFew with ⟨hOk, _, hLoaded⟩
    exact
      ⟨pairsOf_of_firstOther_eq_none hNone,
        h.runAll_of_loaded (hOk hNone) hLoaded hPath⟩
  · rcases hRoom hFew with ⟨_, hError, hLoaded⟩
    exact h.runAll_of_other output (hError entry hOther) hLoaded

/- A program can be made in any store, and finds its files. -/
theorem exists_closure (s₀ : Store) :
    ∃ p s, Action.run (closure default) s₀ = (.ok p, s) ∧
      s.files = s₀.files :=
  ⟨_, _, rfl, rfl⟩

/-
  The edges of a chain, with a blank line between them, are
  loaded, and its ends are joined in the file that is stored.
-/
theorem runAll_closes_file_chain :
    let text := "a\tb\r\n\nb\tc\n"
    let files : FileTree := ⟨[(["edge.facts"], text.toUTF8)], []⟩
    ∃ p s,
      Action.run (closure default) (.ofFiles files) = (.ok p, s) ∧
      let ran := Action.run (p.runAll "" "" none) s
      ran.1 = .ok () ∧
        ∃ ls,
          ran.2.files.read "path.csv" =
            .ok (FactFile.unlines ls).toUTF8 ∧
          ["a", "c"] ∈ ls.map (Field.texts ·.toList) := by
  intro text files
  rcases exists_closure (.ofFiles files) with
    ⟨p, s, hNew, hFiles⟩
  have hRead :
      s.files.read (FilePath.join "" "edge.facts") =
        .ok text.toUTF8 := by
    rw [hFiles]
    rfl
  have hPath :
      s.files.creatable (FilePath.join "" "path.csv") =
        .ok ["path.csv"] := by
    rw [hFiles]
    rfl
  have hEntries :
      FactFile.entries 1 (FactFile.textLines text.toList) =
        [(['a', '\t', 'b'], 1), (['b', '\t', 'c'], 3)] := by
    cbv
  have hPairs :
      pairsOf [(['a', '\t', 'b'], 1), (['b', '\t', 'c'], 3)] =
        [["a", "b"], ["b", "c"]] := by
    cbv
  have hNone :
      firstOther
        [(['a', '\t', 'b'], 1), (['b', '\t', 'c'], 3)] = none := by
    cbv
  have hRoom :
      [["a", "b"], ["b", "c"]].flatten.toFinset.card ≤
        SymbolTable.capacity :=
    (List.toFinset_card_le _).trans (by decide)
  rcases
      runAll_closes_file hNew hRead
        (FactFile.fromUTF8?_toUTF8 text) hPath with
    ⟨edge, path, _, _, _, hRan⟩
  rw [hEntries, hPairs] at hRan
  rcases (hRan hRoom).1 hNone with
    ⟨_, hOk, ls, hWritten, _, _, hLines⟩
  have hFirst : ["a", "b"] ∈ [["a", "b"], ["b", "c"]] := by simp
  have hSecond : ["b", "c"] ∈ [["a", "b"], ["b", "c"]] := by simp
  exact
    ⟨p, s, hNew, hOk, ls, hWritten,
      (hLines "a" "c").mpr (.tail (.single hFirst) hSecond)⟩

end Program

end FactStore
