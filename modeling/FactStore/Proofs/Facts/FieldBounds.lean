import FactStore.Proofs.Facts.Columns
import FactStore.Proofs.Facts.Field
import Mathlib.Algebra.Group.Nat.Even

/-
  This file proves where a line is cut into its fields: at
  the delimiters with an even number of backslashes right
  before them.  The splitter takes characters in pairs behind
  a backslash, and so a run of backslashes before a delimiter
  is taken up in pairs, whatever escapes come before it.

  Key definitions include:
    * `Field.slashesBefore`
    * `Field.IsBound`, `Field.bounds`
    * `Field.pieces`
    * `Field.value`

  Main statements include:
    * `Field.isBound_escape_iff`
    * `Field.join_pieces`
    * `Field.split_eq_map_pieces`
    * `Field.split_at_bounds`
    * `Line.values_eq_fieldCount_iff`
-/

namespace FactStore

namespace Field

------------------------------------------------------------
-- Bounds of Fields
------------------------------------------------------------

/- The length of the run of backslashes right before a position. -/
def slashesBefore
    (cs : List Char)
    (i : Nat) : Nat :=
  ((cs.take i).reverse.takeWhile (· = '\\')).length

/-
  A field ends at a position where the delimiter stands and
  the backslashes right before it are even in number.
-/
def IsBound
    (delimiter : Char)
    (cs : List Char)
    (i : Nat) : Prop :=
  cs[i]? = some delimiter ∧ Even (slashesBefore cs i)

instance
    (delimiter : Char)
    (cs : List Char) :
    DecidablePred (IsBound delimiter cs) := by
  unfold IsBound
  infer_instance

/- The positions of a line at which a field ends, ascending. -/
def bounds
    (delimiter : Char)
    (cs : List Char) : List Nat :=
  (List.range cs.length).filter (IsBound delimiter cs)

theorem mem_bounds
    {delimiter : Char}
    {cs : List Char}
    {i : Nat} :
    i ∈ bounds delimiter cs ↔ IsBound delimiter cs i := by
  simp only [bounds, List.mem_filter, List.mem_range,
    decide_eq_true_eq, and_iff_right_iff_imp]
  exact fun h => (List.getElem?_eq_some_iff.mp h.1).1

theorem pairwise_bounds
    (delimiter : Char)
    (cs : List Char) :
    (bounds delimiter cs).Pairwise (· < ·) :=
  List.pairwise_lt_range.filter _

------------------------------------------------------------
-- Runs of Backslashes
------------------------------------------------------------

/- The run before a position is no longer than what stands there. -/
theorem slashesBefore_le
    (cs : List Char)
    (i : Nat) :
    slashesBefore cs i ≤ (cs.take i).length := by
  have hRun :=
    (List.takeWhile_sublist (l := (cs.take i).reverse)
      (· = '\\')).length_le
  rwa [List.length_reverse] at hRun

/-
  A backslash in front of a line lengthens the runs that
  start with the line; any other character lengthens none.
-/
theorem slashesBefore_cons
    (c : Char)
    (cs : List Char)
    (i : Nat) :
    slashesBefore (c :: cs) (i + 1) =
      if slashesBefore cs i = (cs.take i).length ∧ c = '\\' then
        slashesBefore cs i + 1
      else slashesBefore cs i := by
  have hTake :
      ((c :: cs).take (i + 1)).reverse =
        (cs.take i).reverse ++ [c] := by
    rw [List.take_succ_cons, List.reverse_cons]
  unfold slashesBefore
  rw [hTake, List.takeWhile_append, List.length_reverse]
  split
  · rename_i hAll
    by_cases hSlash : c = '\\'
    · simp [hAll, hSlash]
    · simp [hAll, hSlash]
  · rename_i hShort
    exact (if_neg fun h => hShort h.1).symm

/-
  Behind an escape the runs are what they are without it, but
  for one that starts with the rest of the line: that run
  takes in both characters of the escape or neither of them.
-/
theorem slashesBefore_escape
    (next : Char)
    (rest : List Char)
    (i : Nat) :
    slashesBefore ('\\' :: next :: rest) (i + 2) =
        slashesBefore rest i + 2 ∨
      slashesBefore ('\\' :: next :: rest) (i + 2) =
        slashesBefore rest i := by
  have hRun := slashesBefore_le rest i
  rw [slashesBefore_cons, slashesBefore_cons, List.take_succ_cons,
    List.length_cons]
  by_cases hAll :
      slashesBefore rest i = (rest.take i).length ∧ next = '\\'
  · left
    rw [if_pos hAll, if_pos ⟨congrArg (· + 1) hAll.1, rfl⟩]
  · right
    rw [if_neg hAll]
    exact if_neg fun h => by omega

------------------------------------------------------------
-- Bounds behind a Character and behind an Escape
------------------------------------------------------------

theorem isBound_zero_iff
    {delimiter c : Char}
    {cs : List Char} :
    IsBound delimiter (c :: cs) 0 ↔ c = delimiter := by
  simp [IsBound, slashesBefore]

theorem isBound_cons_iff
    {delimiter c : Char}
    (hPlain : c ≠ '\\')
    (cs : List Char)
    (i : Nat) :
    IsBound delimiter (c :: cs) (i + 1) ↔
      IsBound delimiter cs i := by
  rw [IsBound, IsBound, slashesBefore_cons,
    if_neg fun h => hPlain h.2, List.getElem?_cons_succ]

/- The character of an escape ends no field. -/
theorem not_isBound_escaped
    {delimiter : Char}
    (next : Char)
    (rest : List Char) :
    ¬ IsBound delimiter ('\\' :: next :: rest) 1 := by
  have hRun : slashesBefore ('\\' :: next :: rest) 1 = 1 := by
    rw [slashesBefore_cons]
    rfl
  rintro ⟨_, hEven⟩
  rw [hRun] at hEven
  exact absurd hEven (by decide)

theorem isBound_escape_iff
    {delimiter : Char}
    (next : Char)
    (rest : List Char)
    (i : Nat) :
    IsBound delimiter ('\\' :: next :: rest) (i + 2) ↔
      IsBound delimiter rest i := by
  rw [IsBound, IsBound, List.getElem?_cons_succ,
    List.getElem?_cons_succ]
  rcases slashesBefore_escape next rest i with hRun | hRun
  · rw [hRun, Nat.even_add]
    simp
  · rw [hRun]

/- The first position and those behind it, looked at apart. -/
theorem bounds_eq_append
    (delimiter c : Char)
    (cs : List Char) :
    bounds delimiter (c :: cs) =
      (if c = delimiter then [0] else []) ++
        ((List.range cs.length).filter fun i =>
          IsBound delimiter (c :: cs) (i + 1)).map (· + 1) := by
  rw [bounds, List.length_cons, List.range_succ_eq_map,
    List.filter_cons, List.filter_map]
  simp only [decide_eq_true_eq, isBound_zero_iff]
  split
  · rfl
  · rfl

theorem bounds_cons
    (delimiter : Char)
    {c : Char}
    (hPlain : c ≠ '\\')
    (cs : List Char) :
    bounds delimiter (c :: cs) =
      (if c = delimiter then [0] else []) ++
        (bounds delimiter cs).map (· + 1) := by
  rw [bounds_eq_append]
  simp only [isBound_cons_iff hPlain]
  rfl

theorem bounds_escape
    {delimiter : Char}
    (hDelimiter : delimiter ≠ '\\')
    (next : Char)
    (rest : List Char) :
    bounds delimiter ('\\' :: next :: rest) =
      ((bounds delimiter rest).map (· + 1)).map (· + 1) := by
  rw [bounds_eq_append, if_neg hDelimiter.symm, List.nil_append,
    List.length_cons, List.range_succ_eq_map,
    List.filter_cons_of_neg (by simp [not_isBound_escaped]),
    List.filter_map]
  simp only [Function.comp_def, Nat.succ_eq_add_one,
    isBound_escape_iff]
  rfl

------------------------------------------------------------
-- Pieces of a Line
------------------------------------------------------------

/-
  The pieces of a line from a position on that lie between
  the given positions, which belong to no piece.
-/
def pieces
    (cs : List Char)
    (start : Nat) : List Nat → List (List Char)
| [] => [cs.drop start]
| i :: positions =>
    (cs.take i).drop start :: pieces cs (i + 1) positions

theorem pieces_ne_nil
    (cs : List Char)
    (start : Nat)
    (positions : List Nat) : pieces cs start positions ≠ [] := by
  cases positions <;> simp [pieces]

theorem length_pieces
    (cs : List Char)
    (positions : List Nat) :
    ∀ start,
      (pieces cs start positions).length =
        positions.length + 1 := by
  induction positions with
  | nil => exact fun _ => rfl
  | cons i positions ih => exact fun _ => congrArg (· + 1) (ih _)

/- A character in front of a line moves all positions by one. -/
theorem pieces_cons
    (c : Char)
    (cs : List Char)
    (positions : List Nat) :
    ∀ start,
      pieces (c :: cs) (start + 1) (positions.map (· + 1)) =
        pieces cs start positions := by
  induction positions with
  | nil => exact fun _ => rfl
  | cons i positions ih =>
      intro start
      simp only [List.map_cons, pieces, List.take_succ_cons,
        List.drop_succ_cons, ih]

/- The first piece takes in a character in front of the line. -/
theorem pieces_prepend
    (c : Char)
    (cs : List Char)
    (positions : List Nat) :
    pieces (c :: cs) 0 (positions.map (· + 1)) =
      prepend [c] (pieces cs 0 positions) := by
  cases positions with
  | nil => rfl
  | cons i positions => simp [pieces, pieces_cons, prepend]

/-
  Pieces between positions of the delimiter are joined by it
  to the line that they were cut from.
-/
theorem join_pieces
    {delimiter : Char}
    {cs : List Char}
    {positions : List Nat}
    (hAscending : positions.Pairwise (· < ·))
    (hThere : ∀ i ∈ positions, cs[i]? = some delimiter)
    {start : Nat}
    (hStart : ∀ i ∈ positions, start ≤ i) :
    join delimiter (pieces cs start positions) =
      cs.drop start := by
  induction positions generalizing start with
  | nil => simp [pieces, join]
  | cons i positions ih =>
      rcases List.pairwise_cons.mp hAscending with ⟨hFirst, hRest⟩
      have hTail :
          join delimiter (pieces cs (i + 1) positions) =
            cs.drop (i + 1) :=
        ih hRest (fun j hj => hThere j (List.mem_cons_of_mem _ hj))
          hFirst
      have hHere : delimiter :: cs.drop (i + 1) = cs.drop i := by
        rcases
            List.getElem?_eq_some_iff.mp
              (hThere i List.mem_cons_self) with
          ⟨hLength, rfl⟩
        exact (List.drop_eq_getElem_cons hLength).symm
      have hSteps : start + (i - start) = i :=
        Nat.add_sub_of_le (hStart i List.mem_cons_self)
      rcases
          List.exists_cons_of_ne_nil
            (pieces_ne_nil cs (i + 1) positions) with
        ⟨piece, others, hPieces⟩
      calc join delimiter (pieces cs start (i :: positions))
          _ = (cs.take i).drop start ++ delimiter ::
                join delimiter (pieces cs (i + 1) positions) := by
            rw [pieces, hPieces, join, List.intercalate_cons_cons,
              List.append_assoc]
            rfl
          _ = (cs.drop start).take (i - start) ++
                (cs.drop start).drop (i - start) := by
            rw [hTail, hHere, List.drop_take, List.drop_drop,
              hSteps]
          _ = cs.drop start := List.take_append_drop _ _

/- The pieces between the bounds of a line are the whole line. -/
theorem join_pieces_bounds
    (delimiter : Char)
    (cs : List Char) :
    join delimiter (pieces cs 0 (bounds delimiter cs)) =
      cs :=
  join_pieces (pairwise_bounds delimiter cs)
    (fun _ hi => (mem_bounds.mp hi).1) fun _ _ => Nat.zero_le _

------------------------------------------------------------
-- Fields between Bounds
------------------------------------------------------------

/- What the text of one field is read as: its escapes are undone. -/
def value
    (delimiter : Char) : List Char → List Char
| '\\' :: next :: rest =>
    unescape delimiter next ++ value delimiter rest
| c :: cs => c :: value delimiter cs
| [] => []

theorem value_escape
    (delimiter next : Char)
    (rest : List Char) :
    value delimiter ('\\' :: next :: rest) =
      unescape delimiter next ++ value delimiter rest := by
  rw [value]

theorem value_cons
    {delimiter c : Char}
    (hPlain : c ≠ '\\')
    (cs : List Char) :
    value delimiter (c :: cs) = [c] ++ value delimiter cs := by
  rw [value.eq_def]
  split <;> simp_all

/- Text in front of the first field is read on its own. -/
theorem map_prepend
    {text text' : List Char}
    {read : List Char → List Char}
    (h : ∀ field, read (text ++ field) = text' ++ read field)
    {fields : List (List Char)}
    (hFields : fields ≠ []) :
    (prepend text fields).map read =
      prepend text' (fields.map read) := by
  cases fields with
  | nil => exact absurd rfl hFields
  | cons field fields => simp [prepend, h]

/-
  A line is split into what the pieces between its bounds are
  read as.  The cases are the steps of the splitter: a
  delimiter, a backslash at the end, an escape, and any other
  character.
-/
theorem split_eq_map_pieces
    {delimiter : Char}
    (hDelimiter : delimiter ≠ '\\')
    (cs : List Char) :
    split delimiter cs =
      (pieces cs 0 (bounds delimiter cs)).map
        (value delimiter) := by
  fun_induction split delimiter cs with
  | case1 => rfl
  | case2 cs ih =>
      rw [bounds_cons delimiter hDelimiter, if_pos rfl,
        List.singleton_append, pieces, pieces_cons, List.map_cons,
        ← ih]
      rfl
  | case3 hOther =>
      have hNone : bounds delimiter ['\\'] = [] := by
        rw [bounds_eq_append, if_neg hOther]
        rfl
      rw [hNone]
      rfl
  | case4 next rest hOther ih =>
      rw [bounds_escape hDelimiter, pieces_prepend, pieces_prepend,
        ← prepend_append,
        map_prepend (value_escape delimiter next)
          (pieces_ne_nil _ _ _),
        ih]
  | case5 c cs hOther hPlain ih =>
      rw [bounds_cons delimiter hPlain, if_neg hOther,
        List.nil_append, pieces_prepend,
        map_prepend (value_cons hPlain) (pieces_ne_nil _ _ _), ih]

/- There is one field more than there are bounds. -/
theorem length_split
    {delimiter : Char}
    (hDelimiter : delimiter ≠ '\\')
    (cs : List Char) :
    (split delimiter cs).length =
      (bounds delimiter cs).length + 1 := by
  rw [split_eq_map_pieces hDelimiter, List.length_map,
    length_pieces]

theorem prepend_singleton
    (c : Char)
    {fields : List (List Char)}
    (hFields : fields ≠ []) :
    prepend [c] fields = fields.modifyHead (List.cons c) := by
  cases fields with
  | nil => exact absurd rfl hFields
  | cons field fields => rfl

/- Without backslashes a line is cut at every delimiter. -/
theorem split_eq_splitOn
    {delimiter : Char}
    {cs : List Char}
    (hPlain : '\\' ∉ cs) :
    split delimiter cs = cs.splitOn delimiter := by
  induction cs with
  | nil => rfl
  | cons c cs ih =>
      have hRest := ih fun h => hPlain (List.mem_cons_of_mem _ h)
      have hSome : cs.splitOn delimiter ≠ [] :=
        hRest ▸ split_ne_nil delimiter cs
      by_cases hDelimiter : c = delimiter
      · subst hDelimiter
        rw [split_delimiter, hRest]
        simp [List.splitOn, List.splitOnP_cons_eq_if_modifyHead]
      · have hSlash : c ≠ '\\' := by
          rintro rfl
          exact hPlain List.mem_cons_self
        rw [split_cons hDelimiter hSlash, hRest,
          prepend_singleton c hSome]
        simp [List.splitOn, List.splitOnP_cons_eq_if_modifyHead,
          hDelimiter]

/-
  A line is cut at the delimiters with an even number of
  backslashes right before them, and nowhere else: its fields
  are what the pieces between them are read as, one more than
  there are such delimiters.  Without backslashes the fields
  are the pieces between all delimiters.
-/
theorem split_at_bounds
    {delimiter : Char}
    (hDelimiter : delimiter ≠ '\\')
    (cs : List Char) :
    split delimiter cs =
        (pieces cs 0 (bounds delimiter cs)).map
          (value delimiter) ∧
      join delimiter (pieces cs 0 (bounds delimiter cs)) = cs ∧
      (split delimiter cs).length =
        (bounds delimiter cs).length + 1 ∧
      ('\\' ∉ cs →
        split delimiter cs = cs.splitOn delimiter ∧
          join delimiter (split delimiter cs) = cs) := by
  refine
    ⟨split_eq_map_pieces hDelimiter cs,
      join_pieces_bounds delimiter cs,
      length_split hDelimiter cs, fun hPlain => ?_⟩
  have hSplit : split delimiter cs = cs.splitOn delimiter :=
    split_eq_splitOn hPlain
  refine ⟨hSplit, ?_⟩
  rw [hSplit]
  exact List.intercalate_splitOn delimiter

/-
  Delimiters behind one, two, three and no backslashes, an
  escape that is kept, and a backslash at the end; and a line
  without backslashes that has empty fields.
-/
theorem split_at_bounds_runs :
    let cs := "a\\,b\\\\,c\\x\\\\\\,d,\\".toList
    let plain := ",a,,b".toList
    ',' ≠ '\\' ∧ bounds ',' cs = [6, 15] ∧
      split ',' cs = (pieces cs 0 [6, 15]).map (value ',') ∧
      split ',' cs =
        ["a,b\\", "c\\x\\,d", "\\"].map String.toList ∧
      '\\' ∉ plain ∧ split ',' plain = plain.splitOn ',' ∧
      join ',' (split ',' plain) = plain := by
  intro cs plain
  have hDelimiter : ',' ≠ '\\' := by decide
  have hBounds : bounds ',' cs = [6, 15] := by decide
  have hPlain : '\\' ∉ plain := by decide
  have hSplit := (split_at_bounds hDelimiter cs).1
  rw [hBounds] at hSplit
  refine
    ⟨hDelimiter, hBounds, hSplit, hSplit.trans (by decide), hPlain,
      (split_at_bounds hDelimiter plain).2.2.2 hPlain⟩

end Field

------------------------------------------------------------
-- Numbers of Fields
------------------------------------------------------------

/-
  A line is rejected for the number of its fields unless its
  bounds are one less than the columns.
-/
theorem Line.values_eq_fieldCount_iff
    {schema : Schema}
    (hColumns : schema.arity ≠ 0)
    {delimiter : Char}
    (hDelimiter : delimiter ≠ '\\')
    (cs : List Char) :
    let found := (Field.bounds delimiter cs).length + 1
    Line.values schema cs delimiter =
        .error (.fieldCount found schema.arity) ↔
      found ≠ schema.arity := by
  intro found
  have hFound : (Field.split delimiter cs).length = found :=
    Field.length_split hDelimiter cs
  rw [Line.values, if_neg hColumns]
  simp only [hFound]
  by_cases hCount : found = schema.arity
  · rw [if_pos hCount]
    refine iff_of_false (fun hFault => ?_) (not_not_intro hCount)
    have hSpec :=
      Line.validate_spec 0 (Line.columnTypes schema)
        (Field.split delimiter cs)
    rw [Line.columnTypes, hFault] at hSpec
    rcases hSpec with ⟨_, _, _, _, hOther⟩
    cases hOther
  · rw [if_neg hCount]
    exact iff_of_true rfl hCount

end FactStore
