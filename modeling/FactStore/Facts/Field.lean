/-
  This file defines the two directions of delimited text: a
  symbol is escaped so that it can stand in a line, and a
  line is split into its unescaped fields.

  Key definitions include:
    * `Field.escape`
    * `Field.join`
    * `Field.split`
-/

namespace FactStore

namespace Field

------------------------------------------------------------
-- Escaping
------------------------------------------------------------

/-
  The form of one character in a field.  Backslashes and the
  three controls that could end a line or a field have fixed
  escapes; the delimiter, when it is none of these, is
  written behind a backslash.
-/
def escapeChar
    (delimiter : Char)
    (c : Char) : List Char :=
  if c = '\\' then ['\\', '\\']
  else if c = '\n' then ['\\', 'n']
  else if c = '\r' then ['\\', 'r']
  else if c = '\t' then ['\\', 't']
  else if c = delimiter then ['\\', c]
  else [c]

/- A symbol in the form that can stand in a line. -/
def escape
    (delimiter : Char)
    (symbol : List Char) : List Char :=
  symbol.flatMap (escapeChar delimiter)

/- Fields with the delimiter between them. -/
def join
    (delimiter : Char)
    (fields : List (List Char)) : List Char :=
  List.intercalate [delimiter] fields

------------------------------------------------------------
-- Splitting
------------------------------------------------------------

/-
  The text of an escape: the character behind a backslash
  stands for itself when it is the delimiter or a backslash,
  for a control when it is one of three letters, and is kept
  together with the backslash otherwise.
-/
def unescape
    (delimiter : Char)
    (c : Char) : List Char :=
  if c = delimiter ∨ c = '\\' then [c]
  else if c = 'n' then ['\n']
  else if c = 'r' then ['\r']
  else if c = 't' then ['\t']
  else ['\\', c]

/- Put text in front of the first of several fields. -/
def prepend
    (text : List Char) :
    List (List Char) → List (List Char)
| [] => [text]
| field :: fields => (text ++ field) :: fields

/-
  Split a line into its fields.  A delimiter ends a field
  wherever it is not behind a backslash that starts an
  escape; a backslash at the end of the line is kept.
-/
def split
    (delimiter : Char) :
    List Char → List (List Char)
| [] => [[]]
| c :: cs =>
    if c = delimiter then [] :: split delimiter cs
    else if c = '\\' then
      match cs with
      | [] => [['\\']]
      | next :: rest =>
          prepend (unescape delimiter next)
            (split delimiter rest)
    else prepend [c] (split delimiter cs)

/- A line has at least one field. -/
theorem split_ne_nil
    (delimiter : Char)
    (line : List Char) : split delimiter line ≠ [] := by
  have hPrepend :
      ∀ (text : List Char) (fields : List (List Char)),
        prepend text fields ≠ [] := by
    intro text fields
    cases fields <;> simp [prepend]
  fun_cases split delimiter line with
  | case1 => simp
  | case2 => simp
  | case3 => simp
  | case4 => exact hPrepend _ _
  | case5 => exact hPrepend _ _

end Field

end FactStore
