import FactStore.Packages.Toml.Table

/-
  This file reads TOML documents: lines that give a key a
  value, headers that open tables, and comments.  Keys and
  values that are nested too deep are refused.

  Key definitions include:
    * `Toml.depthLimit`
    * `Toml.keys?`
    * `Toml.value?`
    * `Toml.parse?`
-/

namespace FactStore

namespace Toml

------------------------------------------------------------
-- Blanks and Comments
------------------------------------------------------------

/- Drop the blanks at the front of a text. -/
def skipSpaces (cs : List Char) : List Char :=
  cs.dropWhile isSpace

/- Drop a comment, if one starts here. -/
def skipComment (cs : List Char) : List Char :=
  match cs with
  | '#' :: rest => rest.dropWhile isPlain
  | _ => cs

/- Drop what may follow a value on its line, and the line end. -/
def finishLine? (cs : List Char) : Option (List Char) :=
  match skipComment (skipSpaces cs) with
  | [] => some []
  | rest => lineEnd? rest

/- Drop blanks, line ends and comments within an array. -/
def skipLines? : Nat → List Char → Option (List Char)
| 0, cs => some cs
| fuel + 1, cs =>
    match skipSpaces cs with
    | [] => some []
    | c :: rest =>
        if c = '#' then do
          skipLines? fuel (← lineEnd? (skipComment (c :: rest)))
        else
          match lineEnd? (c :: rest) with
          | some tail => skipLines? fuel tail
          | none => some (c :: rest)

------------------------------------------------------------
-- Keys
------------------------------------------------------------

/- A character of a key that needs no quotes. -/
def isKeyChar (c : Char) : Bool :=
  c.isAlphanum || c = '_' || c = '-'

/- One part of a key. -/
def key? : Reader String
| '"' :: cs =>
    (basic? (cs.length + 1) cs).map fun (k, rest) =>
      (String.ofList k, rest)
| '\'' :: cs =>
    (literal? cs).map fun (k, rest) => (String.ofList k, rest)
| cs =>
    let k := cs.takeWhile isKeyChar
    if k.isEmpty then none
    else some (String.ofList k, cs.dropWhile isKeyChar)

/- The parts of a key between its points, at most so many. -/
def partsUpTo? : Nat → Reader (List String)
| 0, _ => none
| room + 1, cs => do
    let (k, rest) ← key? (skipSpaces cs)
    match skipSpaces rest with
    | '.' :: rest => do
        let (ks, tail) ← partsUpTo? room rest
        return (k :: ks, tail)
    | rest => return ([k], rest)

/- The deepest nesting of values, and the most parts of a key. -/
def depthLimit : Nat := 79

/- The parts of a key. -/
def keys? : Reader (List String) :=
  partsUpTo? depthLimit

------------------------------------------------------------
-- Values
------------------------------------------------------------

/- A value without parts. -/
def scalar? : Reader Scalar :=
  fun cs =>
    match cs with
    | '"' :: _ =>
        (string? cs).map fun (s, rest) =>
          (.text (String.ofList s), rest)
    | '\'' :: _ =>
        (string? cs).map fun (s, rest) =>
          (.text (String.ofList s), rest)
    | _ =>
        match word? "true" cs, word? "false" cs with
        | some rest, _ => some (.bool true, rest)
        | _, some rest => some (.bool false, rest)
        | _, _ =>
            if startsDate cs || startsTime cs then
              (moment? cs).map fun rest => (.moment, rest)
            else number? cs

mutual

/-
  A value: one without parts, an array, or a table in braces.
  Arrays and tables stand within one another only as deep as
  there is room.
-/
def valueWithin? : Nat → Nat → Reader Item
| 0, _, _ => none
| fuel + 1, room, cs =>
    match cs, room with
    | '[' :: rest, room + 1 => do
        let (items, tail) ←
          items? fuel room (← skipLines? fuel rest)
        return (.array items, tail)
    | '\x7b' :: rest, room + 1 =>
        match skipSpaces rest with
        | '\x7d' :: tail => some (.table .closed [], tail)
        | rest => do
            let (entries, tail) ← pairs? fuel room [] rest
            return (.table .closed entries, tail)
    | _, _ =>
        (scalar? cs).map fun (s, rest) => (.scalar s, rest)

/- The items of an array up to its end. -/
def items? : Nat → Nat → Reader (List Item)
| 0, _, _ => none
| _, _, ']' :: rest => some ([], rest)
| fuel + 1, room, cs => do
    let (item, rest) ← valueWithin? fuel room cs
    match ← skipLines? fuel rest with
    | ',' :: rest => do
        let (items, tail) ←
          items? fuel room (← skipLines? fuel rest)
        return (item :: items, tail)
    | ']' :: tail => return ([item], tail)
    | _ => none

/- The keys of a table in braces up to its end. -/
def pairs? : Nat → Nat → Entries → Reader Entries
| 0, _, _, _ => none
| fuel + 1, room, entries, cs => do
    let (ks, rest) ← keys? cs
    match rest with
    | '=' :: rest => do
        let (item, rest) ←
          valueWithin? fuel room (skipSpaces rest)
        let entries ← addKey? ks item .closed entries
        match skipSpaces rest with
        | ',' :: rest => pairs? fuel room entries rest
        | '\x7d' :: tail => return (entries, tail)
        | _ => none
    | _ => none

end

/- A value of a document. -/
def value? (fuel : Nat) : Reader Item :=
  valueWithin? fuel depthLimit

------------------------------------------------------------
-- Documents
------------------------------------------------------------

/- What stands above the next line: the tree, and the last header. -/
structure Reading where
  root : Entries
  header : List String

/- Read a header, whose brackets are doubled for an element. -/
def header?
    (s : Reading) : Reader Reading
| '[' :: '[' :: cs => do
    let (ks, rest) ← keys? cs
    match rest with
    | ']' :: ']' :: rest => do
        let root ← openElement? ks s.root
        return (⟨root, ks⟩, ← finishLine? rest)
    | _ => none
| '[' :: cs => do
    let (ks, rest) ← keys? cs
    match rest with
    | ']' :: rest => do
        let root ← openTable? ks s.root
        return (⟨root, ks⟩, ← finishLine? rest)
    | _ => none
| _ => none

/- Read a line that gives a key a value. -/
def assignment?
    (fuel : Nat)
    (s : Reading) : Reader Reading :=
  fun cs => do
    let (ks, rest) ← keys? cs
    match rest with
    | '=' :: rest => do
        let (item, rest) ← value? fuel (skipSpaces rest)
        let root ← addBelow? s.header ks item s.root
        return ({ s with root }, ← finishLine? rest)
    | _ => none

/- Read lines up to the end of the document. -/
def lines? : Nat → Reading → List Char → Option Entries
| 0, _, _ => none
| fuel + 1, s, cs =>
    match skipSpaces cs with
    | [] => some s.root
    | '[' :: rest => do
        let (s', tail) ← header? s ('[' :: rest)
        lines? fuel s' tail
    | '#' :: rest => do
        lines? fuel s (← finishLine? ('#' :: rest))
    | rest =>
        match lineEnd? rest with
        | some tail => lines? fuel s tail
        | none => do
            let (s', tail) ← assignment? fuel s rest
            lines? fuel s' tail

/-
  The tree that a document describes; a document that breaks
  a rule describes none.
-/
def parse? (document : String) : Option Entries :=
  let cs :=
    match document.toList with
    | '\uFEFF' :: cs => cs
    | cs => cs
  lines? (2 * cs.length + 2) ⟨[], []⟩ cs

end Toml

end FactStore
