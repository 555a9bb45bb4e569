import FactStore.Proofs.Relation.Transfer
import FactStore.Proofs.Relation.Walk
import FactStore.Proofs.Store.Growth
import FactStore.Proofs.SymbolTable.Lookups

/-
  This file proves that what is pushed into a tuple is read
  back from it, whether from the tuple itself or from a
  relation that it was stored in, and whatever its symbol
  table learned since then.

  Key definitions include:
    * `Element.Admissible`
    * `Element.ReadableAs`, `Element.readAs`
    * `Tuple.ReadsBack`
    * `Store.Takes`

  Main statements include:
    * `Relation.Appended.readsBack`
    * `Action.run_pushAll`
    * `Action.pushed_reads_back`
-/

namespace FactStore

------------------------------------------------------------
-- Values and Readers
------------------------------------------------------------

namespace Element

/- The values that a column of a type admits. -/
inductive Admissible : AttrType → Element → Prop where
| text (x : String) : Admissible .symbol (.text x)
| signed {type : AttrType} (n : Cell) :
    type ≠ .symbol → Admissible type (.signed n)
| unsigned (n : UInt32) : Admissible .unsigned (.unsigned n)
| float (x : Single) : Admissible .float (.float x)

/- An admissible value may be written to its column. -/
theorem Admissible.fits
    {type : AttrType}
    {e : Element}
    (h : Admissible type e) : e.kind.fits type = true := by
  cases h with
  | text x => rfl
  | signed n hNumeric =>
      cases type <;> first | rfl | exact absurd rfl hNumeric
  | unsigned n => rfl
  | float x => rfl

/-
  The kinds that a written value may be read as: its own one,
  and for a number also that of its bits.
-/
inductive ReadableAs (e : Element) : ElementKind → Prop where
| own : ReadableAs e e.kind
| bits : e.kind ≠ .text → ReadableAs e .signed

/- A value as it is read by a reader of a kind. -/
def readAs
    (e : Element)
    (kind : ElementKind) : Element :=
  if kind = e.kind then e else .signed e.bits

@[simp]
theorem readAs_kind (e : Element) : e.readAs e.kind = e :=
  if_pos rfl

/- The reader of numbers answers with the bits of a number. -/
theorem readAs_signed
    {e : Element}
    (hNumber : e.kind ≠ .text) :
    e.readAs .signed = .signed e.bits := by
  cases e with
  | text x => exact absurd rfl hNumber
  | signed n => rfl
  | unsigned n => rfl
  | float x => rfl

/- A column that takes a value lets it be read. -/
theorem ReadableAs.fits
    {e : Element}
    {kind : ElementKind}
    {type : AttrType}
    (h : e.ReadableAs kind)
    (hFits : e.kind.fits type = true) :
    kind.fits type = true := by
  cases h with
  | own => exact hFits
  | bits hNumber =>
      cases e <;> cases type <;>
        first | rfl | exact absurd rfl hNumber | cases hFits

/- The cell of a value is read by each reader of that value. -/
theorem decode_readAs
    {e : Element}
    {kind : ElementKind}
    {table : SymbolTable}
    {c : Cell}
    (hDecode : decode e.kind table c = .ok e)
    (h : e.ReadableAs kind) :
    decode kind table c = .ok (e.readAs kind) := by
  cases h with
  | own =>
      rw [readAs_kind]
      exact hDecode
  | bits hNumber =>
      rw [readAs_signed hNumber]
      cases e with
      | text x => exact absurd rfl hNumber
      | signed n => exact hDecode
      | unsigned n =>
          cases hDecode
          rfl
      | float x =>
          cases hDecode
          rfl

end Element

------------------------------------------------------------
-- Reading Back
------------------------------------------------------------

/-
  A tuple is read back as the values of a list: by readers of
  their kinds exactly so, and where a reader of numbers is
  taken for a number, by the bits of that number.
-/
structure Tuple.ReadsBack
    (t : Tuple)
    (s : Store)
    (es : List Element) : Prop where
  byKinds :
    t.readEach (s.table t.table) (es.map Element.kind) =
      es.map .ok
  byReaders :
    ∀ kinds, List.Forall₂ Element.ReadableAs es kinds →
      t.readEach (s.table t.table) kinds =
        List.zipWith (fun e kind => .ok (e.readAs kind)) es kinds

namespace Relation

/- Each column that was written answers to each of its readers. -/
theorem Appended.readEach_eq
    {r : Relation}
    {table : SymbolTable}
    {es : List Element}
    {t u : Tuple}
    (h : r.Appended table es t)
    (hColumns : u.schema.attributes = r.schema.attributes)
    (hCells : u.cells = t.cells)
    (hPosition : u.position = 0)
    {kinds : List ElementKind}
    (hKinds : List.Forall₂ Element.ReadableAs es kinds) :
    u.readEach table kinds =
      List.zipWith (fun e kind => .ok (e.readAs kind)) es kinds := by
  have hHolds := h.spec.2.2
  have hWritten :
      ∀ (i : Nat) (kind : ElementKind),
        kinds[i]? = some kind →
        ∃ e : Element, es[i]? = some e ∧ e.ReadableAs kind := by
    intro i kind hKind
    rcases List.getElem?_eq_some_iff.mp hKind with ⟨hLt, rfl⟩
    have hLt' : i < es.length := by
      rw [hKinds.length_eq]
      exact hLt
    exact
      ⟨es[i], List.getElem?_eq_getElem hLt', hKinds.get hLt' hLt⟩
  have hFits :
      ∀ i kind, kinds[i]? = some kind →
        u.position + i < u.cells.length ∧
          ∃ a, u.schema.attributes[u.position + i]? = some a ∧
            kind.fits a.type = true := by
    intro i kind hKind
    rcases hWritten i kind hKind with ⟨e, hValue, hReadable⟩
    rcases hHolds i e hValue with ⟨a, c, hColumn, hFits, hCell, _⟩
    rw [hColumns, hCells, hPosition, Nat.zero_add]
    exact
      ⟨(List.getElem?_eq_some_iff.mp hCell).1, a, hColumn,
        hReadable.fits hFits⟩
  refine List.ext_getElem? fun i => ?_
  rw [Tuple.getElem?_readEach table hFits, List.getElem?_zipWith]
  cases hKind : kinds[i]? with
  | none => cases es[i]? <;> rfl
  | some kind =>
      rcases hWritten i kind hKind with ⟨e, hValue, hReadable⟩
      rcases hHolds i e hValue with ⟨_, c, _, _, hCell, hDecode⟩
      rw [hValue, Option.map_some, hCells, hPosition,
        Nat.zero_add, List.getD_eq_getElem?_getD, hCell]
      exact congrArg some (Element.decode_readAs hDecode hReadable)

/- A tuple of the cells of a filled one is read back. -/
theorem Appended.readsBack
    {r : Relation}
    {s : Store}
    {es : List Element}
    {t u : Tuple}
    (h : r.Appended (s.table r.table) es t)
    (hTable : u.table = r.table)
    (hColumns : u.schema.attributes = r.schema.attributes)
    (hCells : u.cells = t.cells)
    (hPosition : u.position = 0) : u.ReadsBack s es := by
  have hReaders :
      ∀ kinds, List.Forall₂ Element.ReadableAs es kinds →
        u.readEach (s.table u.table) kinds =
          List.zipWith (fun e kind => .ok (e.readAs kind))
            es kinds := by
    intro kinds hKinds
    rw [hTable]
    exact h.readEach_eq hColumns hCells hPosition hKinds
  refine ⟨?_, hReaders⟩
  have hOwn :
      List.Forall₂ Element.ReadableAs es
        (es.map Element.kind) := by
    rw [List.forall₂_map_right_iff, List.forall₂_same]
    exact fun e _ => .own
  rw [hReaders _ hOwn, List.zipWith_map_right, List.zipWith_self]
  exact List.map_congr_left fun e _ => by rw [Element.readAs_kind]

/- Values that are written one after the other are appended. -/
theorem Appended.appendAll
    {r : Relation} :
    ∀ {more done : List Element} {t t' : Tuple}
      {table table' : SymbolTable},
      r.Appended table done t →
        t.appendAll table more = (.ok t', table') →
          r.Appended table' (done ++ more) t'
| [], done, t, t', table, table', hDone, hAll => by
    cases hAll
    rw [List.append_nil]
    exact hDone
| e :: more, done, t, t', table, table', hDone, hAll => by
    unfold Tuple.appendAll at hAll
    split at hAll
    · cases hAll
    · rename_i hAppend
      rw [List.append_cons]
      exact (hDone.append hAppend).appendAll hAll

end Relation

------------------------------------------------------------
-- Pushing
------------------------------------------------------------

/- A memory relation whose columns and table are those given. -/
structure Store.Takes
    (s : Store)
    (r : Relation)
    (id : RelationId) : Prop where
  used : id.index < s.relations.length
  memory : (s.relation id).IsMemory
  attributes :
    (s.relation id).schema.attributes = r.schema.attributes
  table : (s.relation id).table = r.table

theorem Store.Takes.of_evolves
    {s s' : Store}
    {r : Relation}
    {id : RelationId}
    (h : s.Takes r id)
    (hEvolves : s.Evolves s') : s'.Takes r id where
  used := by
    rw [hEvolves.relation_length]
    exact h.used
  memory := (hEvolves.relation id).memory h.memory
  attributes := by
    rw [(hEvolves.relation id).schema]
    exact h.attributes
  table := (hEvolves.relation id).table.trans h.table

/- Setting a table twice leaves what was set last. -/
theorem Store.setTable_setTable
    (s : Store)
    (id : TableId)
    (table table' : SymbolTable) :
    (s.setTable id table).setTable id table' =
      s.setTable id table' := by
  simp only [setTable, List.set_set]

namespace Action

/- Write values into a tuple, one after the other. -/
def pushAll (t : Tuple) : List Element → Action Tuple
| [] => return t
| e :: es => do pushAll (← append t e) es

/- What is written goes through the table of the tuple. -/
theorem run_pushAll
    (es : List Element) :
    ∀ {t : Tuple} {s : Store},
      t.table.index < s.tables.length →
        run (pushAll t es) s =
          let (outcome, table') :=
            t.appendAll (s.table t.table) es
          (outcome.mapError .violation,
            s.setTable t.table table') := by
  -- The tuple and the store change, the id of the table stays.
  induction es with
  | nil =>
      intro t s hUsed
      simp only [pushAll, run_pure, Tuple.appendAll,
        Store.setTable_table]
      rfl
  | cons e es ih =>
      intro t s hUsed
      rw [pushAll, run_bind, run_append, Tuple.appendAll]
      rcases hAppend : t.append (s.table t.table) e with
        ⟨v | u, t', table'⟩
      · rfl
      · have hSame : t'.table = t.table :=
          (Tuple.frame_of_append hAppend).2.1
        have hStill :
            t'.table.index <
              (s.setTable t.table table').tables.length := by
          rw [hSame]
          simpa [Store.setTable] using hUsed
        simp only [ih hStill, hSame,
          Store.table_setTable table' hUsed,
          Store.setTable_setTable]

/- A relation with the columns and the table stores the tuple. -/
theorem exists_insert_of_takes
    {s : Store}
    {r : Relation}
    {id : RelationId}
    {t : Tuple}
    (hTakes : s.Takes r id)
    (hBound : t.BoundTo r) :
    ∃ s', run (insert id t) s = (.ok (), s') ∧
      t.cells ∈ (s'.relation id).rows := by
  rcases hTakes.memory with ⟨rows, hStorage⟩
  let r' : Relation :=
    { s.relation id with storage := .memory (rows.insert t.cells) }
  have hSignature :
      t.schema.signature = (s.relation id).schema.signature := by
    rw [hBound.schema, Schema.signature, Schema.signature,
      hTakes.attributes]
  have hWidth : t.cells.length = (s.relation id).arity := by
    rw [hBound.width, Relation.arity, Relation.arity,
      Schema.arity, Schema.arity, hTakes.attributes]
  have hInsert : (s.relation id).insert t = .ok r' :=
    (Relation.insert_eq_ok_iff hStorage).mpr
      ⟨hSignature, hWidth, rfl⟩
  refine ⟨s.setRelation id r', ?_, ?_⟩
  · rw [run_insert, hInsert]
  · rw [Store.relation_setRelation r' hTakes.used]
    exact RowSet.mem_insert.mpr (Or.inl rfl)

/-
  Values that fit their columns are pushed into a new tuple
  exactly when a cell can number their texts with those known
  before.
-/
theorem pushAll_spec
    {s : Store}
    {r : Relation}
    {es : List Element}
    (hTable : r.table.index < s.tables.length)
    (hFits :
      List.Forall₂ (fun x e => e.kind.fits x.type = true)
        r.schema.attributes es) :
    let (outcome, pushed) := run (pushAll r.blankTuple es) s
    let texts := (s.table r.table).symbols ++ Element.texts es
    let ids := texts.toFinset.card
    (SymbolTable.capacity < ids →
        outcome = .error (.violation .symbolsExhausted)) ∧
      (ids ≤ SymbolTable.capacity →
        ∃ t, outcome = .ok t ∧ s.Gains pushed ∧
          r.Appended (pushed.table r.table) es t) := by
  have hBlank : r.blankTuple.table = r.table := rfl
  have hRoom :=
    @SymbolTable.internEach?_isSome_iff (s.table r.table)
      (Element.texts es)
  have hAll :=
    @Tuple.appendAll_of_fits es r.blankTuple
      (s.table r.table) _ _ r.blankTuple_at hFits
  rw [run_pushAll es (by rwa [hBlank]), hBlank]
  cases hTexts :
      (s.table r.table).internEach? (Element.texts es) with
  | none =>
      rw [hTexts] at hAll hRoom
      rcases hAll with ⟨table', hAll⟩
      rw [hAll]
      refine ⟨fun _ => rfl, fun hFew => ?_⟩
      cases hRoom.mpr hFew
  | some table' =>
      rw [hTexts] at hAll hRoom
      rcases hAll with ⟨t, hAll⟩
      rw [hAll]
      refine
        ⟨fun hMany => absurd (hRoom.mp rfl) (Nat.not_le.mpr hMany),
          fun _ => ⟨t, rfl, ?_, ?_⟩⟩
      · exact Store.gains_setTable
          (SymbolTable.prefix_of_internEach? hTexts)
      · rw [Store.table_setTable table' hTable]
        exact
          (Relation.Appended.blank (s.table r.table)).appendAll hAll

/- A stored row of the cells of a filled tuple is fetched. -/
theorem fetched_readsBack
    {s : Store}
    {r : Relation}
    {id : RelationId}
    {t : Tuple}
    {es : List Element}
    (hFilled : r.Appended (s.table r.table) es t)
    (hTakes : s.Takes r id)
    (hRow : t.cells ∈ (s.relation id).rows) :
    ∃ offset u,
      (Cursor.row id offset).get s.relation = .ok u ∧
        u.cells = t.cells ∧ u.ReadsBack s es ∧
        ((s.relation id).Uniform →
          ∃ ts,
            ((Walk.whole s.relation id).rest s.relation).1 =
                .ok ts ∧
              u ∈ ts) := by
  have hWidth : t.cells.length = (s.relation id).arity := by
    rw [hFilled.spec.1.width, Relation.arity, Relation.arity,
      Schema.arity, Schema.arity, hTakes.attributes]
  rcases Relation.exists_tupleAt_of_mem hRow hWidth with
    ⟨offset, hFetched⟩
  refine ⟨offset, _, hFetched, rfl, ?_, fun hUniform => ?_⟩
  · exact hFilled.readsBack hTakes.table hTakes.attributes rfl rfl
  · exact
      ⟨_, Walk.rest_of_uniform hUniform,
        List.mem_map.mpr ⟨t.cells, hRow, rfl⟩⟩

/-
  Values that are admissible column by column are pushed into
  a new tuple of a relation whose table the store has.  The
  cursor then stands behind the last column, unless a cell
  cannot number their texts with those known before.  Whatever is looked up, pushed, encoded and
  stored afterwards, the rewound tuple is read back as these
  values.  So is the tuple that is fetched from a relation
  with the same columns and the same table after it was
  stored there, again whatever is done afterwards; a walk
  over that relation yields it.
-/
theorem pushed_reads_back
    {s : Store}
    {a : RelationId}
    {es : List Element}
    (hTable : (s.relation a).table.index < s.tables.length)
    (hAdmissible :
      List.Forall₂ (fun x e => Element.Admissible x.type e)
        (s.relation a).schema.attributes es) :
    let r := s.relation a
    let (outcome, pushed) := run (pushAll r.blankTuple es) s
    let texts := (s.table r.table).symbols ++ Element.texts es
    let ids := texts.toFinset.card
    (SymbolTable.capacity < ids →
        outcome = .error (.violation .symbolsExhausted)) ∧
      (ids ≤ SymbolTable.capacity →
        ∃ t, outcome = .ok t ∧ t.position = r.arity ∧
          ∀ uses,
            let later := pushed.useAll uses
            t.rewind.ReadsBack later es ∧
              ∀ b, s.Takes r b →
                ∃ stored,
                  run (insert b t) later = (.ok (), stored) ∧
                  ∀ more,
                    let last := stored.useAll more
                    let walk := Walk.whole last.relation b
                    ∃ offset u,
                      (Cursor.row b offset).get last.relation =
                          .ok u ∧
                        u.cells = t.cells ∧
                        u.ReadsBack last es ∧
                        ((s.relation b).Uniform →
                          ∃ ts,
                            (walk.rest last.relation).1 =
                                .ok ts ∧
                              u ∈ ts)) := by
  intro r
  have hFits :
      List.Forall₂ (fun x e => e.kind.fits x.type = true)
        r.schema.attributes es :=
    hAdmissible.imp fun _ _ h => h.fits
  have hPushed := pushAll_spec hTable hFits
  revert hPushed
  rcases run (pushAll r.blankTuple es) s with ⟨outcome, pushed⟩
  rintro ⟨hNoRoom, hRoom⟩
  refine ⟨hNoRoom, fun hFew => ?_⟩
  rcases hRoom hFew with ⟨t, hOutcome, hGains, hFilled⟩
  have hPosition : t.position = r.arity := by
    rw [hFilled.spec.2.1, ← hAdmissible.length_eq]
    rfl
  refine ⟨t, hOutcome, hPosition, fun uses => ?_⟩
  -- What was written outlives each growth of the table, and
  -- what was stored outlives each gain of the store.
  have hLater := pushed.gains_useAll uses
  have hFilledLater := hFilled.grow (hLater.evolves.table r.table)
  refine
    ⟨hFilledLater.readsBack hFilled.spec.1.table
        (by rw [← hFilled.spec.1.schema]; rfl) rfl rfl,
      fun b hTakes => ?_⟩
  have hTakesLater :=
    hTakes.of_evolves (hGains.evolves.trans hLater.evolves)
  rcases exists_insert_of_takes hTakesLater hFilled.spec.1 with
    ⟨stored, hInsert, hRow⟩
  have hStored := evolves_insert b t (pushed.useAll uses)
  rw [hInsert] at hStored
  refine ⟨stored, hInsert, fun more => ?_⟩
  have hLast := stored.gains_useAll more
  have hEvolves := hStored.trans hLast.evolves
  rcases
      fetched_readsBack
        (hFilledLater.grow (hEvolves.table r.table))
        (hTakesLater.of_evolves hEvolves) (hLast.rows b hRow) with
    ⟨offset, u, hFetched, hCells, hReads, hWalk⟩
  refine
    ⟨offset, u, hFetched, hCells, hReads, fun hUniform => ?_⟩
  have hAll :=
    (hGains.evolves.trans hLater.evolves).trans hEvolves
  exact hWalk ((hAll.relation b).uniform hTakes.memory hUniform)

/-
  A text, a negative number, the greatest unsigned number and
  a NaN with a payload are read back after another text was
  looked up; the reader of numbers finds the bits of the
  unsigned number.
-/
theorem pushed_reads_back_payload :
    let schema : Schema :=
      ⟨"m",
        [⟨"who", .symbol, none⟩, ⟨"n", .signed, none⟩,
          ⟨"u", .unsigned, none⟩, ⟨"x", .float, none⟩]⟩
    let r := Relation.memory schema ⟨0⟩
    let s : Store := ⟨[.holding ["bob"]], [r], .empty⟩
    let payload : Single := ⟨0x7fc00001⟩
    let es : List Element :=
      [.text "alice", .signed (-7), .unsigned 0xffffffff,
        .float payload]
    let (outcome, pushed) := run (pushAll r.blankTuple es) s
    let later := pushed.useAll [.lookUp ⟨0⟩ "carol"]
    ∃ t, outcome = .ok t ∧ t.position = 4 ∧
      t.rewind.readEach (later.table t.rewind.table)
          [.text, .signed, .signed, .float] =
        [.ok (.text "alice"), .ok (.signed (-7)),
          .ok (.signed (-1)), .ok (.float payload)] := by
  intro schema r s payload es
  have hAdmissible :
      List.Forall₂ (fun x e => Element.Admissible x.type e)
        (s.relation ⟨0⟩).schema.attributes es :=
    .cons (.text _)
      (.cons (.signed _ (by decide))
        (.cons (.unsigned _) (.cons (.float _) .nil)))
  have hReaders :
      List.Forall₂ Element.ReadableAs es
        [.text, .signed, .signed, .float] :=
    .cons .own
      (.cons .own (.cons (.bits (by decide)) (.cons .own .nil)))
  have hFew :
      (((SymbolTable.holding ["bob"]).symbols ++
          Element.texts es).toFinset.card) ≤
        SymbolTable.capacity :=
    (List.toFinset_card_le _).trans (by decide)
  rcases
      (@pushed_reads_back s ⟨0⟩ es (by decide) hAdmissible).2
        hFew with
    ⟨t, hOutcome, hPosition, hLater⟩
  refine ⟨t, hOutcome, hPosition, ?_⟩
  exact (hLater [.lookUp ⟨0⟩ "carol"]).1.byReaders _ hReaders

end Action

end FactStore
