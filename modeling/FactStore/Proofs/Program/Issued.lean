import FactStore.Proofs.Program.Completeness
import FactStore.Proofs.Program.Pairs
import FactStore.Proofs.Store.Legible
import FactStore.Proofs.SymbolTable.Lookups

/-
  This file proves that no relation of a program for the
  transitive closure ever holds a cell that its symbol table
  has not issued, as long as the host writes to it by typed
  writes and by fact files.  One invariant is kept by every
  request, so it holds in every state that requests lead to.

  Key definitions include:
    * `Program.Write`, `Program.writeAll`
    * `Program.AllAllowed`
    * `Program.Intact`

  Main statements include:
    * `Program.Intact.write`
    * `Program.Intact.writeAll`
    * `Program.cells_issued_of_writeAll`
-/

namespace FactStore

------------------------------------------------------------
-- Views
------------------------------------------------------------

namespace Program

variable {p : Program}
variable {edge path delta : RelationId}
variable {s : Store}

------------------------------------------------------------
-- Programs with Legible Relations
------------------------------------------------------------

/- The relation of a name is one of the program's, or none. -/
theorem legible_named
    {table : TableId}
    {name : String}
    {entries : List Catalog.Entry}
    {next : RelationId → Action Unit}
    (hCatalog : p.catalog.Registers entries)
    (h : s.Legible table (p.catalog.view .all))
    (hNext :
      ∀ id ∈ p.catalog.view .all,
        (Action.run (next id) s).2.Legible table
          (p.catalog.view .all)) :
    (Action.run (p.named name >>= next) s).2.Legible table
      (p.catalog.view .all) := by
  unfold named
  cases hFind : p.catalog.find? name with
  | none => exact h
  | some id =>
      rw [Action.run_bind]
      exact hNext id (hCatalog.mem_all_of_find? hFind)

variable {table : TableId}
variable {ids shown : List RelationId}

theorem legible_loadFrom
    (directory : String)
    (options : FactOptions)
    (h : s.Legible table ids)
    (hShown : shown ⊆ ids) :
    (Action.run (loadFrom directory options shown) s).2.Legible
      table ids := by
  induction shown generalizing s with
  | nil => exact h
  | cons id shown ih =>
      have hId : id ∈ ids := hShown List.mem_cons_self
      refine Action.legible_bind h fun r s₁ h₁ => ?_
      refine
        Action.legible_bind (Action.legible_load h₁ hId _ _)
          fun _ s₂ h₂ => ?_
      exact ih h₂ fun _ hMem => hShown (List.mem_cons_of_mem _ hMem)

theorem legible_purgeAll
    (h : s.Legible table ids)
    (hShown : shown ⊆ ids) :
    (Action.run (purgeAll shown) s).2.Legible table ids := by
  induction shown generalizing s with
  | nil => exact h
  | cons id shown ih =>
      have hId : id ∈ ids := hShown List.mem_cons_self
      refine
        Action.legible_bind (Action.legible_purge h hId)
          fun _ s₁ h₁ => ?_
      exact ih h₁ fun _ hMem => hShown (List.mem_cons_of_mem _ hMem)

/- Nothing but a missing place keeps legible relations from files. -/
theorem storeTo_fails_only_io
    (directory : String)
    (delimiter : Char)
    (h : s.Legible table ids)
    (hShown : shown ⊆ ids)
    {f : Failure}
    (hFails :
      (Action.run (storeTo directory delimiter shown) s).1 =
        .error f) : ∃ fault, f = .error (.io fault) := by
  induction shown generalizing s with
  | nil => cases hFails
  | cons id shown ih =>
      have hId : id ∈ ids := hShown List.mem_cons_self
      simp only [storeTo, Action.run_bind, Action.run_relation]
        at hFails
      rcases
          h.run_store hId
            (FilePath.join directory
              ((s.relation id).name ++ ".csv"))
            delimiter with
        ⟨fault, hStore⟩ | ⟨files, hStore⟩
      · rw [hStore] at hFails
        cases hFails
        exact ⟨fault, rfl⟩
      · rw [hStore] at hFails
        exact
          ih (h.replaceFiles files)
            (fun _ hMem => hShown (List.mem_cons_of_mem _ hMem))
            hFails

------------------------------------------------------------
-- Writes
------------------------------------------------------------

/-
  What a host does with a program that it writes to by typed
  writes only.  The files may become any others meanwhile.
-/
inductive Write where
| append (t : Tuple) (e : Element)
| insertRow (name : String) (row : List Element)
| insertTuple (name : String) (t : Tuple)
| loadAll (directory : String)
| run (stratum : Option Nat)
| purgeView (v : View)
| replaceFiles (files : FileTree)

/- What such a request does. -/
def write
    (p : Program) :
    Write → Action Unit
| .append t e => do
    let _ ← Action.append t e
| .insertRow name row => p.insertRow name row
| .insertTuple name t => do Action.insert (← p.named name) t
| .loadAll directory => p.loadAll directory
| .run stratum => p.run stratum
| .purgeView v => p.purgeView v
| .replaceFiles files => modify ({ · with files })

/-
  A tuple may be inserted when it is bound to a relation of
  the program and typed writes have filled all its columns.
-/
def Write.Allowed
    (p : Program)
    (s : Store) : Write → Prop
| .insertTuple _ t =>
    ∃ own ∈ p.catalog.view .all, ∃ columns,
      (s.relation own).Filled (s.table p.table) columns t ∧
        ∀ i < (s.relation own).arity, i ∈ columns
| _ => True

/-
  Serve such requests one after the other.  One that fails
  leaves behind what it did until then.
-/
def writeAll
    (p : Program) :
    List Write → Store → Store
| [], s => s
| w :: ws, s => writeAll p ws (Action.run (p.write w) s).2

/- Each of them is allowed in the store that it finds. -/
def AllAllowed
    (p : Program) :
    List Write → Store → Prop
| [], _ => True
| w :: ws, s =>
    w.Allowed p s ∧ AllAllowed p ws (Action.run (p.write w) s).2

------------------------------------------------------------
-- The Invariant
------------------------------------------------------------

/- The program closes, and its relations can be read. -/
structure Intact
    (p : Program)
    (edge path delta : RelationId)
    (s : Store) : Prop where
  closes : Closes p edge path delta s
  legible : s.Legible p.table (p.catalog.view .all)

/- The store keeps each relation of the program. -/
theorem Closes.exists_keepsPairs
    (h : Closes p edge path delta s)
    {id : RelationId}
    (hId : id ∈ p.catalog.view .all) :
    ∃ name, KeepsPairs s p.table name id := by
  rw [h.view_all] at hId
  simp only [List.mem_cons, List.not_mem_nil, or_false] at hId
  rcases hId with rfl | rfl | rfl
  · exact ⟨_, h.keepsEdge⟩
  · exact ⟨_, h.keepsPath⟩
  · exact ⟨_, h.keepsDelta⟩

/- A run joins cells that the table has issued. -/
theorem Intact.legible_run
    (h : Intact p edge path delta s)
    {stratum : Option Nat}
    (hStratum : stratum = none ∨ stratum = some 0) :
    (Action.run (p.run stratum) s).2.Legible p.table
      (p.catalog.view .all) := by
  have hEdge : edge ∈ p.catalog.view .all := by
    simp [h.closes.view_all]
  have hPath : path ∈ p.catalog.view .all := by
    simp [h.closes.view_all]
  have hKnown := h.legible.readable path hPath
  rcases h.closes.run_eq hStratum with ⟨rows, hRun, hRows⟩
  have hDecodes :
      ∀ row ∈ rows.rows,
        row.length = (s.relation path).arity ∧
          ∃ es,
            Row.decode (s.table p.table)
              (s.relation path).schema.attributes row =
                .ok es := by
    intro row hRow
    rcases (hRows row).mp hRow with hOld | ⟨x, z, rfl, hFresh⟩
    · exact ⟨hKnown.uniform row hOld, hKnown.decodes row hOld⟩
    · rcases
          exists_textsJoined_of_joined h.closes.keepsEdge.schema
            (h.legible.readable edge hEdge)
            (Closure.joined_of_fresh hFresh) with
        ⟨a, b, hx, hz, _⟩
      rw [Relation.arity, h.closes.keepsPath.schema]
      exact
        ⟨rfl, _, decode_symbolPair_iff.mpr ⟨a, b, hx, hz, rfl⟩⟩
  -- First `path` is given its rows, then `delta_path` is emptied.
  have hClosed :
      (s.setRelation path
        ((s.relation path).withRowSet rows)).Legible p.table
          (p.catalog.view .all) :=
    h.legible.setRelation h.closes.keepsPath.table
      ⟨⟨_, rfl⟩, fun row hRow => (hDecodes row hRow).1,
        fun row hRow => (hDecodes row hRow).2⟩
  have hPurged := (s.relation delta).evolves_purge
  rw [hRun]
  exact
    hClosed.setRelation
      (hPurged.table.trans h.closes.keepsDelta.table)
      (Relation.readable_of_rows_eq_nil _
        (hPurged.memory h.closes.keepsDelta.memory)
        (s.relation delta).rows_purge)

/- Whatever is requested, the store only evolves. -/
theorem Closes.evolves_write
    (h : Closes p edge path delta s)
    (w : Write) :
    s.Evolves (Action.run (p.write w) s).2 := by
  cases w with
  | append t e =>
      refine Action.evolves_bind (fun s' => ?_) (fun _ => ?_) s
      · exact (Action.gains_append t e s').evolves
      · exact Store.Evolves.refl
  | insertRow name row =>
      exact Action.evolves_bind (evolves_named p name)
        (fun id => Action.evolves_insertRow id row) s
  | insertTuple name t =>
      exact Action.evolves_bind (evolves_named p name)
        (fun id => Action.evolves_insert id t) s
  | loadAll directory => exact h.evolves_perform (.loadAll directory)
  | run stratum => exact h.evolves_perform (.run stratum)
  | purgeView v => exact h.evolves_perform (.purgeView v)
  | replaceFiles files =>
      exact h.evolves_perform (.replaceFiles files)

/- Each write that is allowed leaves legible relations. -/
theorem Intact.legible_write
    (h : Intact p edge path delta s)
    {w : Write}
    (hAllowed : w.Allowed p s) :
    (Action.run (p.write w) s).2.Legible p.table
      (p.catalog.view .all) := by
  cases w with
  | append t e =>
      exact
        Action.legible_bind (Action.legible_append h.legible t e)
          fun _ _ h' => h'
  | insertRow name row =>
      exact legible_named h.closes.catalog h.legible fun id hId =>
        Action.legible_insertRow h.legible hId row
  | insertTuple name t =>
      rcases hAllowed with ⟨own, hOwn, columns, hFilled, hAll⟩
      rcases hFilled.decode hAll with ⟨_, es, hDecode⟩
      refine
        legible_named h.closes.catalog h.legible fun id hId => ?_
      rcases h.closes.exists_keepsPairs hOwn with ⟨_, hKeepsOwn⟩
      rcases h.closes.exists_keepsPairs hId with ⟨_, hKeeps⟩
      -- All relations of the program have the same columns.
      have hColumns :
          (s.relation id).schema.attributes =
            (s.relation own).schema.attributes := by
        rw [hKeeps.schema, hKeepsOwn.schema]
        rfl
      rw [← hColumns] at hDecode
      exact Action.legible_insert h.legible hId hDecode
  | loadAll directory =>
      rcases h.closes.engine with ⟨options, hEngine⟩
      rw [write, loadAll, hEngine]
      exact legible_loadFrom directory options h.legible
        (h.closes.catalog.view_subset_all .input)
  | run stratum =>
      by_cases hStratum : stratum.getD 0 = 0
      · exact h.legible_run (eq_of_getD_eq_zero hStratum)
      · rw [write, run_of_ne_zero p hStratum]
        exact h.legible
  | purgeView v =>
      exact legible_purgeAll h.legible
        (h.closes.catalog.view_subset_all v)
  | replaceFiles files => exact h.legible.replaceFiles files

/- Each write that is allowed keeps the invariant. -/
theorem Intact.write
    (h : Intact p edge path delta s)
    {w : Write}
    (hAllowed : w.Allowed p s) :
    Intact p edge path delta (Action.run (p.write w) s).2 :=
  ⟨h.closes.of_evolves (h.closes.evolves_write w),
    h.legible_write hAllowed⟩

/- All writes that are allowed keep it. -/
theorem Intact.writeAll
    (h : Intact p edge path delta s)
    {ws : List Write}
    (hAllowed : p.AllAllowed ws s) :
    Intact p edge path delta (p.writeAll ws s) := by
  induction ws generalizing s with
  | nil => exact h
  | cons w ws ih => exact ih (h.write hAllowed.1) hAllowed.2

/- A new program for the transitive closure is intact. -/
theorem intact_closure
    {options : FactOptions}
    {s₀ s₁ : Store}
    (hNew : Action.run (closure options) s₀ = (.ok p, s₁)) :
    Intact p ⟨s₀.relations.length⟩ ⟨s₀.relations.length + 1⟩
      ⟨s₀.relations.length + 2⟩ s₁ := by
  have hCloses := closes_closure hNew
  have hUsed : p.table.index < s₁.tables.length := by
    rcases eq_of_run_closure hNew with ⟨_, hTable, _, rfl⟩
    simp [hTable]
  have hRows :
      ∀ id ∈ p.catalog.view .all,
        (s₁.relation id).rows = [] := by
    rw [hCloses.view_all]
    rcases eq_of_run_closure hNew with ⟨_, _, _, rfl⟩
    simp [Store.relation, Relation.rows, Relation.memory,
      Storage.rows, RowSet.empty]
  refine
    ⟨hCloses, hUsed, fun id hId => ?_, fun id hId => ?_,
      fun id hId => ?_⟩ <;>
    rcases hCloses.exists_keepsPairs hId with ⟨name, hKeeps⟩
  · exact hKeeps.used
  · exact hKeeps.table
  · exact Relation.readable_of_rows_eq_nil _ hKeeps.memory
      (hRows id hId)

------------------------------------------------------------
-- Issued Cells
------------------------------------------------------------

/- Each row of a relation of the program is a pair of issued ids. -/
theorem Intact.issued
    (h : Intact p edge path delta s)
    {id : RelationId}
    (hId : id ∈ p.catalog.view .all)
    {row : Row}
    (hRow : row ∈ (s.relation id).rows) :
    row.length = 2 ∧
      ∀ c ∈ row, (s.table p.table).Issued c := by
  have hReadable := h.legible.readable id hId
  rcases h.closes.exists_keepsPairs hId with ⟨name, hKeeps⟩
  have hPair : row.length = 2 := by
    rw [hReadable.uniform row hRow, Relation.arity, hKeeps.schema]
    rfl
  rcases List.length_eq_two.mp hPair with ⟨x, z, rfl⟩
  rcases exists_texts_of_mem hKeeps.schema hReadable hRow with
    ⟨a, b, hx, hz, _⟩
  refine ⟨rfl, fun c hc => ?_⟩
  rw [SymbolTable.issued_iff_resolve?]
  simp only [List.mem_cons, List.not_mem_nil, or_false] at hc
  rcases hc with rfl | rfl
  · exact ⟨a, hx⟩
  · exact ⟨b, hz⟩

/-
  Whatever a host does with a new program by typed writes, by
  loads that may fail, by runs and by purges: each row of the
  three relations is a pair of ids that the symbol table has
  issued.  So a run of any stratum succeeds, each view is
  shown, and the outputs are stored unless a file cannot be
  created.
-/
theorem cells_issued_of_writeAll
    {options : FactOptions}
    {s₀ s₁ : Store}
    (hNew : Action.run (closure options) s₀ = (.ok p, s₁))
    {ws : List Write}
    (hAllowed : p.AllAllowed ws s₁) :
    let s := p.writeAll ws s₁
    (∀ name ∈ ["edge", "path", "delta_path"],
      ∃ id, p.catalog.find? name = some id ∧
        ∀ row ∈ (s.relation id).rows,
          row.length = 2 ∧
            ∀ c ∈ row, (s.table p.table).Issued c) ∧
      (∀ stratum,
        ∃ s', Action.run (p.run stratum) s = (.ok (), s')) ∧
      (∀ v, ∃ text,
        Action.run (p.dumpView v) s = (.ok (.ok (), text), s)) ∧
      ∀ directory f,
        (Action.run (p.printAll directory) s).1 = .error f →
          ∃ fault, f = .error (.io fault) := by
  intro s
  have hIntact : Intact p _ _ _ s :=
    (intact_closure hNew).writeAll hAllowed
  have hCloses := hIntact.closes
  refine ⟨fun name hName => ?_, fun stratum => ?_, fun v => ?_,
    fun directory f hFails => ?_⟩
  · have hFound : ∃ id, p.catalog.find? name = some id := by
      simp only [List.mem_cons, List.not_mem_nil, or_false]
        at hName
      rcases hName with rfl | rfl | rfl
      · exact ⟨_, hCloses.find?_edge⟩
      · exact ⟨_, hCloses.find?_path⟩
      · exact ⟨_, hCloses.find?_delta⟩
    rcases hFound with ⟨id, hFind⟩
    exact
      ⟨id, hFind, fun row hRow =>
        hIntact.issued (hCloses.catalog.mem_all_of_find? hFind)
          hRow⟩
  · by_cases hStratum : stratum.getD 0 = 0
    · rcases hCloses.run_eq (eq_of_getD_eq_zero hStratum) with
        ⟨rows, hRun, _⟩
      exact ⟨_, hRun⟩
    · exact ⟨s, run_of_ne_zero p hStratum s⟩
  · exact hIntact.legible.run_dump
      (hCloses.catalog.view_subset_all v)
  · rcases hCloses.engine with ⟨options', hEngine⟩
    rw [printAll, hEngine] at hFails
    exact
      storeTo_fails_only_io directory _ hIntact.legible
        (hCloses.catalog.view_subset_all .output) hFails

/-
  A tuple of `edge` is filled with two texts and stored in
  `path`, and a run adds an edge to it.
-/
def ownTuple : List Write :=
  let edge := symbolPair "edge"
  [.append ⟨edge, ⟨0⟩, [0, 0], 0⟩ (.text "x"),
    .append ⟨edge, ⟨0⟩, [0, 0], 1⟩ (.text "y"),
    .insertTuple "path" ⟨edge, ⟨0⟩, [0, 1], 2⟩,
    .insertRow "edge" [.text "a", .text "b"],
    .run none,
    .purgeView .input]

theorem rows_path_ownTuple :
    ((first.1.writeAll ownTuple first.2).relation ⟨1⟩).rows =
      [[0, 1], [2, 3]] := by
  cbv

/- All writes of the tuple are allowed, and its cells are issued. -/
theorem cells_issued_of_writeAll_ownTuple :
    let s := first.1.writeAll ownTuple first.2
    first.1.AllAllowed ownTuple first.2 ∧
      (s.relation ⟨1⟩).rows = [[0, 1], [2, 3]] ∧
      ∀ c ∈ [0, 1, 2, 3], (s.table first.1.table).Issued c := by
  intro s
  let edge : Relation := .memory (symbolPair "edge") ⟨0⟩
  let half : Tuple := ⟨edge.schema, ⟨0⟩, [0, 0], 1⟩
  let filled : Tuple := ⟨edge.schema, ⟨0⟩, [0, 1], 2⟩
  have hFirst :
      edge.blankTuple.append .empty (.text "x") =
        (.ok (), half, .holding ["x"]) := by cbv
  have hSecond :
      half.append (.holding ["x"]) (.text "y") =
        (.ok (), filled, .holding ["x", "y"]) := by cbv
  have hFilled :
      edge.Filled (.holding ["x", "y"]) [1, 0] filled :=
    .append (.append (.blank .empty) hFirst) hSecond
  have hAllowed : first.1.AllAllowed ownTuple first.2 :=
    ⟨trivial, trivial,
      ⟨⟨0⟩, by decide, [1, 0], hFilled, by decide⟩,
      trivial, trivial, trivial, trivial⟩
  have hIssued :=
    (cells_issued_of_writeAll run_closure_first hAllowed).1
  rcases hIssued "path" (by decide) with ⟨id, hFind, hPairs⟩
  have hId : id = ⟨1⟩ := by
    cases hFind
    rfl
  rw [hId, rows_path_ownTuple] at hPairs
  refine ⟨hAllowed, rows_path_ownTuple, fun c hc => ?_⟩
  have hCell : c ∈ [0, 1] ∨ c ∈ [2, 3] :=
    List.mem_append.mp hc
  rcases hCell with hOld | hNew
  · exact (hPairs [0, 1] (by simp)).2 c hOld
  · exact (hPairs [2, 3] (by simp)).2 c hNew

end Program

end FactStore
