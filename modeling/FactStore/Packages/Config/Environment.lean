import FactStore.Packages.Config.Value
import FactStore.Settings
import FactStore.Text.Blank
import FactStore.Text.Cut

/-
  This file reads configuration values from environment
  variables: the name says where in the tables a value goes,
  and the text of a value is read as one of a few forms or,
  failing these, as plain text.

  Key definitions include:
    * `Environment.Refusal`
    * `Environment.unquote`
    * `Environment.value`
    * `Environment.path?`
    * `Environment.table`
-/

namespace FactStore

namespace Environment

open Config (Value Source Scalar)

------------------------------------------------------------
-- Readers
------------------------------------------------------------

/-
  Why a text is not read: it has no form of a value, or text
  in quotes breaks a contract.
-/
inductive Refusal where
| formless
| violated (v : Violation)
deriving DecidableEq, Repr

/-
  A reader takes a part from the front of a text, or says why
  none is there.
-/
abbrev Reader (α : Type) :=
  List Char → Except Refusal (α × List Char)

/- A blank around the parts of a value. -/
def isSpace (c : Char) : Bool :=
  c = ' ' || c = '\t' || c = '\n' || c = '\x0c' || c = '\r'

/- Drop the blanks at the front of a text. -/
def skipSpaces (cs : List Char) : List Char :=
  cs.dropWhile isSpace

------------------------------------------------------------
-- Text in Quotes
------------------------------------------------------------

/- The text up to the closing quote, its escapes unread. -/
def enclosed : Reader (List Char)
| [] => .error .formless
| '"' :: cs => .ok ([], cs)
| '\\' :: c :: cs => do
    let (text, rest) ← enclosed cs
    return ('\\' :: c :: text, rest)
| c :: cs => do
    let (text, rest) ← enclosed cs
    return (c :: text, rest)

/- The text with its escapes read; controls have no place in it. -/
def unescape? : Nat → List Char → Option (List Char)
| 0, _ => none
| _, [] => some []
| fuel + 1, '\\' :: cs => do
    let (e, rest) ← Toml.escape? cs
    return e :: (← unescape? fuel rest)
| fuel + 1, c :: cs =>
    if Toml.isPlain c then (unescape? fuel cs).map (c :: ·)
    else none

/-
  What a text in quotes stands for.  Of the text before the
  first escape as many bytes are kept as it has characters,
  so that wider characters cost it its end.
-/
def unquote (cs : List Char) : Except Refusal (List Char) :=
  let before := cs.takeWhile (· ≠ '\\')
  let escaped := cs.dropWhile (· ≠ '\\')
  if !before.all Toml.isPlain then .error .formless
  else if escaped.isEmpty then .ok before
  else
    match Text.cut 0 before.length before with
    | .error v => .error (.violated v)
    | .ok kept =>
        match unescape? (escaped.length + 1) escaped with
        | some text => .ok (kept ++ text)
        | none => .error .formless

/- The text in quotes whose first quote was taken. -/
def quoted : Reader String :=
  fun cs => do
    let (text, rest) ← enclosed cs
    return (String.ofList (← unquote text), rest)

------------------------------------------------------------
-- Plain Text
------------------------------------------------------------

/- Whether a character can stand in plain text. -/
def isPlain (c : Char) : Bool :=
  c ≠ ',' && c ≠ '\x7b' && c ≠ '\x7d' && c ≠ '[' && c ≠ ']'

/-
  Plain text as a number, if it is one: a float needs a
  point, and an integer is unsigned unless it is negative.
-/
def ofPlain (cs : List Char) : Scalar :=
  let float :=
    if '.' ∈ cs then (BinaryFormat.double.read cs).toOption
    else none
  match float with
  | some bits => .float bits
  | none =>
      match Integer.readUnsigned (Integer.unsignedMax 64) cs with
      | .ok n => .unsigned n
      | .error _ =>
          match Integer.readSigned (Integer.signedMax 64) cs with
          | .ok n => .signed n
          | .error _ => .text (String.ofList cs)

/- A key in braces. -/
def key : Reader String
| '"' :: cs => quoted cs
| cs =>
    let k := cs.takeWhile Toml.isKeyChar
    if k.isEmpty then .error .formless
    else .ok (String.ofList k, cs.dropWhile Toml.isKeyChar)

------------------------------------------------------------
-- Values
------------------------------------------------------------

/-
  A value without parts: a truth value, text in quotes, one
  character in single quotes, or plain text.
-/
def scalar : Reader Scalar :=
  fun cs =>
    match cs with
    | '"' :: rest =>
        (quoted rest).map fun (text, tail) => (.text text, tail)
    | '\'' :: c :: '\'' :: tail => .ok (.text c.toString, tail)
    | '\'' :: _ => .error .formless
    | _ =>
        match Toml.word? "true" cs, Toml.word? "false" cs with
        | some tail, _ => .ok (.bool true, tail)
        | _, some tail => .ok (.bool false, tail)
        | _, _ =>
            .ok
              (ofPlain (Text.trim (cs.takeWhile isPlain)),
                cs.dropWhile isPlain)

variable (source : Source)

mutual

/- A value with the blanks around it. -/
def spacedValue : Nat → Reader Value
| 0, _ => .error .formless
| fuel + 1, cs => do
    let (v, rest) ←
      match skipSpaces cs with
      | '[' :: rest =>
          (items fuel rest).map fun (items, tail) =>
            (Value.list source items, tail)
      | '\x7b' :: rest =>
          (pairs fuel [] rest).map fun (entries, tail) =>
            (Value.table source entries, tail)
      | rest =>
          (scalar rest).map fun (s, tail) =>
            (Value.scalar source s, tail)
    return (v, skipSpaces rest)

/- The items of a list up to its end. -/
def items : Nat → Reader (List Value)
| 0, _ => .error .formless
| _, ']' :: rest => .ok ([], rest)
| fuel + 1, cs => do
    let (item, rest) ← spacedValue fuel cs
    match rest with
    | ',' :: rest => do
        let (items, tail) ← items fuel rest
        return (item :: items, tail)
    | ']' :: tail => return ([item], tail)
    | _ => throw .formless

/- The keys of a table in braces up to its end. -/
def pairs :
    Nat → List (String × Value) → Reader (List (String × Value))
| 0, _, _ => .error .formless
| _, entries, '\x7d' :: rest => .ok (entries, rest)
| fuel + 1, entries, cs => do
    let (k, rest) ← key (skipSpaces cs)
    match skipSpaces rest with
    | '=' :: rest => do
        let (item, rest) ← spacedValue fuel rest
        let entries :=
          entries.filter (fun entry => entry.1 ≠ k) ++ [(k, item)]
        match rest with
        | ',' :: rest => pairs fuel entries rest
        | '\x7d' :: tail => return (entries, tail)
        | _ => throw .formless
    | _ => throw .formless

end

/-
  The value of a variable's text.  A text that is no value
  from its first character to its last is plain text, and
  keeps the blanks around it.
-/
def value (text : String) : Except Violation Value :=
  let cs := text.toList
  match spacedValue source (2 * cs.length + 2) cs with
  | .ok (v, []) => .ok v
  | .error (.violated v) => .error v
  | _ => .ok (.scalar source (.text text))

------------------------------------------------------------
-- Names of Variables
------------------------------------------------------------

/-
  Cut a name at its points and at its separators.  The number
  counts the characters that still belong to a separator.
-/
def cut
    (separator : List Char) : Nat → List Char → List (List Char)
| _, [] => [[]]
| skip + 1, _ :: cs => cut separator skip cs
| 0, c :: cs =>
    if c = '.' then [] :: cut separator 0 cs
    else if separator.isPrefixOf (c :: cs) then
      [] :: cut separator (separator.length - 1) cs
    else
      match cut separator 0 cs with
      | [] => [[c]]
      | part :: parts => (c :: part) :: parts

/-
  The keys that a variable's name stands for behind a prefix,
  in lower case.  Other names, and those with an empty part,
  stand for none.
-/
def path? (start separator name : String) : Option (List String) :=
  let lower := (Text.trim name.toList).map Char.toLower
  let start := start.toList.map Char.toLower
  if start.isPrefixOf lower then
    let parts :=
      cut separator.toList 0 (Text.trim (lower.drop start.length))
    if parts.any List.isEmpty then none
    else some (parts.map String.ofList)
  else none

------------------------------------------------------------
-- Environments
------------------------------------------------------------

/- A value in the tables that keys lead through. -/
def nest
    (v : Value) : List String → Value
| [] => v
| key :: keys => .table source [(key, nest v keys)]

/-
  The table of the variables with a prefix, a later one over
  an earlier.
-/
def table
    (start separator : String)
    (environment : Environment) : Except Violation Value :=
  let source := Source.environment start
  environment.foldlM
    (fun known entry =>
      match path? start separator entry.1 with
      | none => .ok known
      | some keys =>
          (value source entry.2).map fun v =>
            known.merge (nest source v keys))
    (.table source [])

end Environment

end FactStore
