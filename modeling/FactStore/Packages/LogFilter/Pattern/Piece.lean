import FactStore.Text.Blank
import FactStore.Packages.Toml.Text

/-
  This file defines the smallest parts of a pattern: the
  characters and escapes that it is made of, and the flags
  that decide which of them can stand where.

  Key definitions include:
    * `Pattern.Flags`
    * `Pattern.flags?`
    * `Pattern.Piece`
    * `Pattern.Piece.isPart`, `Pattern.Piece.isMember`
    * `Pattern.escape?`
    * `Pattern.depthOf`
-/

namespace FactStore

namespace Pattern

------------------------------------------------------------
-- Flags
------------------------------------------------------------

/- The flags that decide what is in a pattern. -/
structure Flags where
  foldsCase : Bool := false
  unicode : Bool := true
  spaced : Bool := false
deriving DecidableEq, Repr

/- Set or clear the flag of a letter. -/
def Flags.put
    (flags : Flags)
    (value : Bool) : Char → Flags
| 'i' => { flags with foldsCase := value }
| 'u' => { flags with unicode := value }
| 'x' => { flags with spaced := value }
| _ => flags

/- Whether upper and lower case are alike in all of Unicode. -/
def Flags.foldsAll (flags : Flags) : Bool :=
  flags.foldsCase && flags.unicode

mutual

/- Drop the blanks and comments at the front of a text. -/
def dropSpace : List Char → List Char
| [] => []
| c :: cs =>
    if Text.isBlank c then dropSpace cs
    else if c = '#' then dropComment cs
    else c :: cs

/- Drop the rest of a comment and the blanks behind it. -/
def dropComment : List Char → List Char
| [] => []
| c :: cs => if c = '\n' then dropSpace cs else dropComment cs

end

/- Drop what stands between two pieces of a pattern. -/
def skip
    (flags : Flags)
    (cs : List Char) : List Char :=
  if flags.spaced then dropSpace cs else cs

/-
  The first sign behind a minus sign.  Of a comment only its
  mark is passed over here, so that its text is seen first.
-/
def peek?
    (flags : Flags)
    (cs : List Char) : Option Char :=
  if flags.spaced then
    match cs.dropWhile Text.isBlank with
    | '#' :: rest => (rest.dropWhile Text.isBlank).head?
    | rest => rest.head?
  else cs.head?

/-
  The flags up to the sign that ends them, which is given
  with what stands behind it.  Each letter and the minus sign
  stand there at most once, and the minus sign is not last.
-/
def flags?
    (flags : Flags)
    (seen : List Char) :
    List Char → Option (Flags × List Char × List Char)
| [] => none
| c :: cs =>
    if c = ':' ∨ c = ')' then
      if seen.head? = some '-' then none
      else some (flags, seen, c :: cs)
    else if c ∈ seen then none
    else if c = '-' then flags? flags (c :: seen) cs
    else if c ∈ ['i', 'm', 's', 'U', 'u', 'R', 'x'] then
      flags? (flags.put ('-' ∉ seen) c) (c :: seen) cs
    else none

------------------------------------------------------------
-- Pieces
------------------------------------------------------------

/- What a character or an escape stands for. -/
inductive Piece where
| char (c : Char)
| byte (c : Char)
| set (negated : Bool)
| edge
| wordEdge
deriving DecidableEq, Repr

namespace Piece

/- The character that a piece stands for, if it is one. -/
def char? : Piece → Option Char
| char c => some c
| byte c => some c
| _ => none

/-
  Whether a piece can stand in a pattern.  Without the flag
  for Unicode no piece may match a part of a character; with
  it, no set and no edge of words is known.
-/
def isPart (flags : Flags) : Piece → Bool
| char _ => !flags.foldsAll
| byte c =>
    if flags.unicode then !flags.foldsCase else c.toNat ≤ 0x7F
| set negated => !flags.unicode && !negated
| edge => true
| wordEdge => !flags.unicode

/-
  Whether a piece can stand in a class of characters, for
  which no case is known but that of ASCII.
-/
def isMember (flags : Flags) : Piece → Bool
| char c =>
    if flags.unicode then !flags.foldsCase else c.toNat ≤ 0x7F
| byte c =>
    if flags.unicode then !flags.foldsCase else c.toNat ≤ 0x7F
| set negated => !flags.unicode && !negated
| edge => false
| wordEdge => false

end Piece

/- The value of so many hexadecimal digits at the front. -/
def hexValue?
    (flags : Flags) :
    Nat → Nat → List Char → Option (Nat × List Char)
| 0, n, cs => some (n, skip flags cs)
| digits + 1, n, cs =>
    match skip flags cs with
    | [] => none
    | c :: rest => do
        hexValue? flags digits (16 * n + (← Toml.hexDigit? c)) rest

/- The character whose number has so many digits. -/
def numbered?
    (flags : Flags)
    (digits : Nat)
    (cs : List Char) : Option (Char × List Char) := do
  let (n, rest) ← hexValue? flags digits 0 cs
  if n.isValidChar then some (Char.ofNat n, rest) else none

/- What the text behind a backslash stands for. -/
def escape?
    (flags : Flags) :
    List Char → Option (Piece × List Char)
| [] => none
| c :: cs =>
    match c with
    | 'a' => some (.char '\x07', cs)
    | 'f' => some (.char '\x0c', cs)
    | 'n' => some (.char '\n', cs)
    | 'r' => some (.char '\r', cs)
    | 't' => some (.char '\t', cs)
    | 'v' => some (.char '\x0b', cs)
    | 'x' =>
        (numbered? flags 2 cs).map fun (c, rest) => (.byte c, rest)
    | 'u' =>
        (numbered? flags 4 cs).map fun (c, rest) => (.char c, rest)
    | 'U' =>
        (numbered? flags 8 cs).map fun (c, rest) => (.char c, rest)
    | _ =>
        if c ∈ ['d', 's', 'w'] then some (.set false, cs)
        else if c ∈ ['D', 'S', 'W'] then some (.set true, cs)
        else if c ∈ ['A', 'z'] then some (.edge, cs)
        else if c ∈ ['b', 'B', '<', '>'] then some (.wordEdge, cs)
        else if c.toNat ≤ 0x7F && !c.isAlphanum then
          some (.char c, cs)
        else none

------------------------------------------------------------
-- Depth
------------------------------------------------------------

/-
  How deep parts nest that stand side by side: one part alone
  is what it is, several together are one deeper.
-/
def depthOf : List Nat → Nat
| [] => 0
| [depth] => depth
| depths => 1 + depths.foldl max 0

end Pattern

end FactStore
