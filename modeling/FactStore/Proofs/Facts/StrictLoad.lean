import Mathlib
import FactStore.Proofs.Facts.Load

/-
  This file proves that a strict load takes a prefix of the
  lines of a file: those before the first that is rejected.
  A relation in any state has their rows afterwards next to
  its own, and its table has learned their texts, nothing
  from the rejected line and nothing from behind it.

  Main statements include:
    * `FactFile.readThrough_spec`
    * `FactFile.loadLines_strict_answer`
    * `Action.load_strict_stops_at_rejected`
-/

namespace FactStore

------------------------------------------------------------
-- Accepted Lines
------------------------------------------------------------

/-
  Lines are read up to the first that a relation rejects, and
  each line before it stands for what is read.
-/
theorem FactFile.readThrough_spec
    (s : Store)
    (id : RelationId)
    (delimiter : Char)
    (entries : List (List Char × Nat)) :
    let schema := (s.relation id).schema
    let rejected := fun entry : List Char × Nat =>
      s.rejection? id delimiter entry.1
    let read := readThrough schema delimiter entries
    List.Forall₂
        (fun entry es =>
          Line.StandsFor schema delimiter entry.1 es)
        (entries.takeWhile fun entry => (rejected entry).isNone)
        read.1 ∧
      read.2 =
        entries.findSome? fun entry =>
          (rejected entry).map fun fault => (entry.2, fault) := by
  intro schema rejected read
  induction entries with
  | nil => exact ⟨.nil, rfl⟩
  | cons entry rest ih =>
      rcases entry with ⟨line, number⟩
      have hRejected : rejected (line, number) = _ :=
        s.rejection?_eq id delimiter line
      cases hValues : Line.values schema line delimiter with
      | error fault =>
          simp only [schema] at hValues
          rw [hValues] at hRejected
          simp only [read, readThrough, hValues, schema]
          rw [List.takeWhile_cons, List.findSome?_cons,
            hRejected]
          exact ⟨.nil, rfl⟩
      | ok vs =>
          have hStands := (Line.standsFor_of_values hValues).1
          simp only [schema] at hValues
          rw [hValues] at hRejected
          simp only [read, readThrough_of_standsFor hStands]
          rw [List.takeWhile_cons, List.findSome?_cons,
            hRejected]
          exact ⟨.cons hStands ih.1, ih.2⟩

/-
  A strict load answers the first line that is rejected, or
  the number of lines that are no blank ones, if the texts on
  the way find ids.
-/
theorem FactFile.loadLines_strict_answer
    (path : String)
    (delimiter : Char)
    {s : Store}
    {id : RelationId}
    (hMemory : (s.relation id).IsMemory)
    (table : SymbolTable)
    (ls : List (List Char)) :
    let r := s.relation id
    let entries := FactFile.entries 1 ls
    let rejected := fun entry : List Char × Nat =>
      s.rejection? id delimiter entry.1
    let result :=
      loadLines path ⟨delimiter, true⟩ (ls.map .ok) 1 0 r table
    ∃ vs : List (List Element),
      List.Forall₂
          (fun entry es =>
            Line.StandsFor r.schema delimiter entry.1 es)
          (entries.takeWhile fun entry => (rejected entry).isNone)
          vs ∧
        match table.internEach? (vs.flatMap Element.texts) with
        | none =>
            result.1 = .error (.violation .symbolsExhausted)
        | some table' =>
            ((∀ entry ∈ entries, rejected entry = none) →
                result.1 = .ok entries.length) ∧
              (∀ entry fault,
                entries.find? (fun e => (rejected e).isSome) =
                    some entry →
                  rejected entry = some fault →
                  result.1 =
                    .error
                      (.error
                        (.parse path entry.2 fault.message))) ∧
              result.2.2 = table' ∧
              r.Stores table vs result.2.1 table' := by
  intro r entries rejected result
  let read := readThrough r.schema delimiter entries
  have hLoad :
      match table.internEach? (read.1.flatMap Element.texts) with
      | none =>
          result.1 = .error (.violation .symbolsExhausted)
      | some table' =>
          result.1 = answer path (0 + read.1.length) read.2 ∧
            result.2.2 = table' ∧
            r.Stores table read.1 result.2.1 table' :=
    @loadLines_of_strict path ⟨delimiter, true⟩ rfl ls 1 0 r
      table hMemory
  rcases readThrough_spec s id delimiter entries with
    ⟨hStands, hStop⟩
  refine ⟨read.1, hStands, ?_⟩
  split <;> rename_i hIntern <;> rw [hIntern] at hLoad
  · exact hLoad
  rcases hLoad with ⟨hAnswer, hTable, hStores⟩
  refine ⟨?_, ?_, hTable, hStores⟩
  · intro hNone
    have hAll :
        (entries.takeWhile fun entry => (rejected entry).isNone) =
          entries := by
      apply List.takeWhile_eq_self_iff.mpr
      intro entry hEntry
      exact Option.isNone_iff_eq_none.mpr (hNone entry hEntry)
    have hThrough : read.2 = none := by
      refine hStop.trans (List.findSome?_eq_none_iff.mpr ?_)
      intro entry hEntry
      exact congrArg _ (hNone entry hEntry)
    have hCount : entries.length = read.1.length := by
      rw [← hStands.length_eq, hAll]
    rw [hAnswer, hThrough, hCount, Nat.zero_add]
    rfl
  · intro entry fault hFirst hFault
    rcases List.find?_eq_some_iff_append.mp hFirst with
      ⟨_, accepted, rest, hEntries, hAccepted⟩
    have hStopped : read.2 = some (entry.2, fault) := by
      refine hStop.trans (List.findSome?_eq_some_iff.mpr ?_)
      refine
        ⟨accepted, entry, rest, hEntries, congrArg _ hFault, ?_⟩
      intro e hAccept
      have hNone : rejected e = none := by
        simpa using hAccepted e hAccept
      exact congrArg _ hNone
    rw [hAnswer, hStopped]
    rfl

------------------------------------------------------------
-- Relations with Their Tables
------------------------------------------------------------

/-
  A relation that is set with its table is found there, and
  so is the table.
-/
theorem Store.found_setBoth
    {s : Store}
    {id : RelationId}
    {r : Relation}
    (table : SymbolTable)
    (hEvolves : (s.relation id).Evolves r)
    (hUsed : id.index < s.relations.length)
    (hTable : (s.relation id).table.index < s.tables.length) :
    (s.setBoth id r table).relation id = r ∧
      (s.setBoth id r table).table (s.relation id).table =
        table := by
  rw [← hEvolves.table] at hTable ⊢
  exact
    ⟨relation_setRelation r hUsed, table_setTable table hTable⟩

namespace Action

------------------------------------------------------------
-- Strict Loads of Any File
------------------------------------------------------------

/-
  A strict load of a file of valid text into a set of rows, in
  any state, stops at the first line that is no blank one and
  that the relation rejects.  It answers that line with its
  number among all lines, or the number of lines that are no
  blank ones.  In both cases the rows of the lines before it
  are stored next to the old ones, the table has learned the
  unknown texts of these lines in their order, and nothing
  else has changed.  It can fail otherwise only when a cell
  cannot number the texts.
-/
theorem load_strict_stops_at_rejected
    {s : Store}
    {id : RelationId}
    {path text : String}
    {content : ByteArray}
    (delimiter : Char)
    (hMemory : (s.relation id).IsMemory)
    (hUsed : id.index < s.relations.length)
    (hTable : (s.relation id).table.index < s.tables.length)
    (hRead : s.files.read path = .ok content)
    (hText : String.fromUTF8? content = some text) :
    let r := s.relation id
    let table := s.table r.table
    let entries :=
      FactFile.entries 1 (FactFile.textLines text.toList)
    let rejected := fun entry : List Char × Nat =>
      s.rejection? id delimiter entry.1
    let before :=
      entries.takeWhile fun entry => (rejected entry).isNone
    let ran := run (load id path ⟨delimiter, true⟩) s
    let r' := ran.2.relation id
    let table' := ran.2.table r.table
    ∃ vs : List (List Element),
      List.Forall₂
          (fun entry es =>
            Line.StandsFor r.schema delimiter entry.1 es)
          before vs ∧
        let texts := vs.flatMap Element.texts
        let ids := (table.symbols ++ texts).toFinset.card
        (SymbolTable.capacity < ids →
          ran.1 = .error (.violation .symbolsExhausted)) ∧
        (ids ≤ SymbolTable.capacity →
          ((∀ entry ∈ entries, rejected entry = none) →
              ran.1 = .ok entries.length) ∧
            (∀ entry fault,
              entries.find? (fun e => (rejected e).isSome) =
                  some entry →
                rejected entry = some fault →
                ran.1 =
                  .error
                    (.error
                      (.parse path entry.2 fault.message))) ∧
            table'.symbols =
                table.symbols ++ table.unknown texts ∧
            r.Stores table vs r' table' ∧
            ran.2 = s.setBoth id r' table') := by
  intro r table entries rejected before
  let result :=
    FactFile.loadLines path ⟨delimiter, true⟩
      ((FactFile.textLines text.toList).map .ok) 1 0 r table
  have hRun :
      run (load id path ⟨delimiter, true⟩) s =
        (result.1, s.setBoth id result.2.1 result.2.2) :=
    run_load_of_text ⟨delimiter, true⟩ hRead hText
  have hEvolves : r.Evolves result.2.1 :=
    (FactFile.evolves_loadLines path ⟨delimiter, true⟩
      ((FactFile.textLines text.toList).map .ok) 1 0 r table).1
  rcases Store.found_setBoth result.2.2 hEvolves hUsed hTable with
    ⟨hRelation, hSymbols⟩
  rcases
      FactFile.loadLines_strict_answer path delimiter hMemory
        table (FactFile.textLines text.toList) with
    ⟨vs, hStands, hLoad⟩
  have hIds := table.internEach?_spec (vs.flatMap Element.texts)
  refine ⟨vs, hStands, ?_⟩
  rw [hRun]
  dsimp only
  rw [hRelation, hSymbols]
  cases hIntern :
      table.internEach? (vs.flatMap Element.texts) with
  | none =>
      rw [hIntern] at hLoad hIds
      exact
        ⟨fun _ => hLoad,
          fun hFew => absurd hIds (Nat.not_lt.mpr hFew)⟩
  | some table' =>
      rw [hIntern] at hLoad hIds
      rcases hLoad with ⟨hAll, hFirst, hTable', hStores⟩
      rw [← hTable'] at hIds hStores
      exact
        ⟨fun hMany => absurd hIds.1 (Nat.not_le.mpr hMany),
          fun _ => ⟨hAll, hFirst, hIds.2, hStores, rfl⟩⟩

/-
  A file whose last line but one holds no number: the load
  names it as line three, and of the names in the file the
  table has learned the one before it.
-/
theorem load_strict_stops_at_third :
    let schema : Schema :=
      ⟨"m", [⟨"who", .symbol, none⟩, ⟨"n", .signed, none⟩]⟩
    let text := "al\t7\n\nbo\tx\ncy\t1\n"
    let files : FileTree := ⟨[(["m.facts"], text.toUTF8)], []⟩
    let r := Relation.memory schema ⟨0⟩
    let s : Store := ⟨[.holding ["cy"]], [r], files⟩
    let fault : LineFault := .badNumber 1 "x" .invalidDigit
    let ran := run (load ⟨0⟩ "m.facts" ⟨'\t', true⟩) s
    ran.1 =
        .error (.error (.parse "m.facts" 3 fault.message)) ∧
      (ran.2.table ⟨0⟩).symbols = ["cy", "al"] := by
  intro schema text files r s fault ran
  let good := ['a', 'l', '\t', '7']
  let bad := ['b', 'o', '\t', 'x']
  let entries := [(good, 1), (bad, 3), (['c', 'y', '\t', '1'], 4)]
  have hEntries :
      FactFile.entries 1 (FactFile.textLines text.toList) =
        entries := by
    cbv
  have hGood : s.rejection? ⟨0⟩ '\t' good = none := by cbv
  have hBad : s.rejection? ⟨0⟩ '\t' bad = some fault := by cbv
  have hStands :
      Line.StandsFor schema '\t' good
        [.text "al", .signed 7] := by
    rw [Line.StandsFor, if_neg (by decide)]
    constructor <;> cbv
  have hBefore :
      (entries.takeWhile fun entry =>
        (s.rejection? ⟨0⟩ '\t' entry.1).isNone) = [(good, 1)] := by
    simp only [entries, List.takeWhile_cons, hGood, hBad]
    rfl
  have hFirst :
      (entries.find? fun entry =>
        (s.rejection? ⟨0⟩ '\t' entry.1).isSome) =
        some (bad, 3) := by
    simp only [entries, List.find?_cons, hGood, hBad]
    rfl
  rcases
      @load_strict_stops_at_rejected s ⟨0⟩ "m.facts" text text.toUTF8
        '\t' ⟨_, rfl⟩ (by decide) (by decide) rfl
        (FactFile.fromUTF8?_toUTF8 text) with
    ⟨vs, hRows, _, hLoad⟩
  rw [hEntries, hBefore] at hRows
  rw [hEntries] at hLoad
  have hValues : vs = [[.text "al", .signed 7]] := by
    rcases List.forall₂_cons_left_iff.mp hRows with
      ⟨es, rest, hes, hRest, rfl⟩
    rw [hes.unique hStands, List.forall₂_nil_left_iff.mp hRest]
  subst hValues
  have hFew :
      ["cy", "al"].toFinset.card ≤ SymbolTable.capacity :=
    (List.toFinset_card_le _).trans (by decide)
  rcases hLoad hFew with ⟨_, hStop, hSymbols, _⟩
  refine ⟨hStop (bad, 3) fault hFirst hBad, hSymbols.trans ?_⟩
  cbv

end Action

end FactStore
