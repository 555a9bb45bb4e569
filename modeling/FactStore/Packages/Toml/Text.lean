/-
  This file reads the four kinds of strings of a TOML
  document: basic strings with escapes and literal strings
  without, each on one line or on several.

  Key definitions include:
    * `Toml.escape?`
    * `Toml.basic?`, `Toml.literal?`
    * `Toml.longBasic?`, `Toml.longLiteral?`
    * `Toml.string?`
-/

namespace FactStore

namespace Toml

/-
  A reader takes a part from the front of a text; it answers
  nothing when no such part stands there.
-/
abbrev Reader (α : Type) :=
  List Char → Option (α × List Char)

------------------------------------------------------------
-- Characters
------------------------------------------------------------

/- A blank between the parts of a line. -/
def isSpace (c : Char) : Bool :=
  c = ' ' || c = '\t'

/- A character that may stand in a comment or a string. -/
def isPlain (c : Char) : Bool :=
  c = '\t' || (0x20 ≤ c.toNat && c.toNat ≠ 0x7F)

/- The value of a hexadecimal digit. -/
def hexDigit? (c : Char) : Option Nat :=
  if c.isDigit then some (c.toNat - '0'.toNat)
  else if 'a' ≤ c ∧ c ≤ 'f' then some (c.toNat - 'a'.toNat + 10)
  else if 'A' ≤ c ∧ c ≤ 'F' then some (c.toNat - 'A'.toNat + 10)
  else none

/- The value of hexadecimal digits. -/
def hexValue? (cs : List Char) : Option Nat :=
  cs.foldlM (fun v c => (hexDigit? c).map (16 * v + ·)) 0

/- Drop a line end from the front of a text. -/
def lineEnd? : List Char → Option (List Char)
| '\n' :: rest => some rest
| '\r' :: '\n' :: rest => some rest
| _ => none

------------------------------------------------------------
-- Escapes
------------------------------------------------------------

/- The character with a number of so many digits. -/
def numbered?
    (digits : Nat) : Reader Char :=
  fun cs => do
    let name := cs.take digits
    let n ← hexValue? name
    if name.length = digits ∧ n.isValidChar then
      some (Char.ofNat n, cs.drop digits)
    else none

/- The character that the text behind a backslash names. -/
def escape? : Reader Char
| 'b' :: cs => some ('\x08', cs)
| 't' :: cs => some ('\t', cs)
| 'n' :: cs => some ('\n', cs)
| 'f' :: cs => some ('\x0c', cs)
| 'r' :: cs => some ('\r', cs)
| '"' :: cs => some ('"', cs)
| '\\' :: cs => some ('\\', cs)
| 'u' :: cs => numbered? 4 cs
| 'U' :: cs => numbered? 8 cs
| _ => none

------------------------------------------------------------
-- Strings on One Line
------------------------------------------------------------

/- The rest of a basic string behind its first quote. -/
def basic? : Nat → Reader (List Char)
| 0, _ => none
| _, [] => none
| fuel + 1, c :: cs =>
    if c = '"' then some ([], cs)
    else if c = '\\' then do
      let (e, rest) ← escape? cs
      let (text, tail) ← basic? fuel rest
      return (e :: text, tail)
    else if isPlain c then do
      let (text, tail) ← basic? fuel cs
      return (c :: text, tail)
    else none

/- The rest of a literal string behind its first quote. -/
def literal? : Reader (List Char)
| [] => none
| c :: cs =>
    if c = '\'' then some ([], cs)
    else if isPlain c then do
      let (text, tail) ← literal? cs
      return (c :: text, tail)
    else none

------------------------------------------------------------
-- Strings on Several Lines
------------------------------------------------------------

/-
  What a run of quotes means: fewer than three are text, and
  of more the last three end the string, though at most two
  can stand before them.
-/
def quoteRun
    (quote : Char)
    (cs : List Char) : Nat :=
  min 5 (cs.takeWhile (· = quote)).length

/- Drop the blanks and line ends that a backslash joins over. -/
def joinLines : List Char → List Char
| '\r' :: '\n' :: cs => joinLines cs
| c :: cs =>
    if isSpace c || c = '\n' then joinLines cs else c :: cs
| [] => []

/- Whether nothing but blanks stands before the line end. -/
def endsLine (cs : List Char) : Bool :=
  (lineEnd? (cs.dropWhile isSpace)).isSome

/- The rest of a long string; escapes are read if asked for. -/
def long?
    (quote : Char)
    (escapes : Bool) : Nat → Reader (List Char)
| 0, _ => none
| _, [] => none
| fuel + 1, c :: cs =>
    if c = quote then
      let run := quoteRun quote (c :: cs)
      let rest := (c :: cs).drop run
      if 3 ≤ run then
        some (List.replicate (run - 3) quote, rest)
      else do
        let (text, tail) ← long? quote escapes fuel rest
        return (List.replicate run quote ++ text, tail)
    else if c = '\\' && escapes then
      if endsLine cs then
        long? quote escapes fuel (joinLines cs)
      else do
        let (e, rest) ← escape? cs
        let (text, tail) ← long? quote escapes fuel rest
        return (e :: text, tail)
    else
      match lineEnd? (c :: cs) with
      | some rest => do
          let (text, tail) ← long? quote escapes fuel rest
          return ('\n' :: text, tail)
      | none =>
          if isPlain c then do
            let (text, tail) ← long? quote escapes fuel cs
            return (c :: text, tail)
          else none

/- A long string loses a line end right behind its quotes. -/
def openLong (cs : List Char) : List Char :=
  (lineEnd? cs).getD cs

------------------------------------------------------------
-- Strings
------------------------------------------------------------

/- A string of any kind. -/
def string? : Reader (List Char)
| '"' :: '"' :: '"' :: cs =>
    long? '"' true (cs.length + 1) (openLong cs)
| '\'' :: '\'' :: '\'' :: cs =>
    long? '\'' false (cs.length + 1) (openLong cs)
| '"' :: cs => basic? (cs.length + 1) cs
| '\'' :: cs => literal? cs
| _ => none

end Toml

end FactStore
