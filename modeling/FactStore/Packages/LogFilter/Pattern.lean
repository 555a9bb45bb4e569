import FactStore.Packages.LogFilter.Pattern.CharClass
import FactStore.Text.Letter

/-
  This file defines which texts are patterns: regular
  expressions that the value of a field can be matched with.
  A closing brace ends the value of a field, so that counts
  in braces and names in braces are in no pattern.  The only
  sets of characters that have a name are those of ASCII.

  Key definitions include:
    * `Pattern.Scope`
    * `Pattern.State`
    * `Pattern.afterGroup?`
    * `Pattern.depthLimit`
    * `Pattern.isPattern`
-/

namespace FactStore

namespace Pattern

------------------------------------------------------------
-- Scopes
------------------------------------------------------------

/-
  What is known of a group that is still open: its flags, how
  deep its finished branches and the parts of the last one
  nest, the last part first, and whether that part can be
  repeated.
-/
structure Scope where
  flags : Flags := {}
  branches : List Nat := []
  parts : List Nat := []
  repeatable : Bool := false

namespace Scope

/- The scope behind one more part. -/
def add
    (s : Scope)
    (depth : Nat) : Scope :=
  { s with parts := depth :: s.parts, repeatable := true }

/- The scope behind flags that hold from there on. -/
def setFlags
    (s : Scope)
    (flags : Flags) : Scope :=
  { s with
    flags := flags
    parts := 0 :: s.parts
    repeatable := false }

/- The scope behind the end of a branch. -/
def branch (s : Scope) : Scope :=
  ⟨s.flags, depthOf s.parts :: s.branches, [], false⟩

/- The scope behind a sign that repeats the last part. -/
def repeat? (s : Scope) : Option Scope :=
  match s.parts with
  | depth :: parts =>
      if s.repeatable then
        some { s with parts := (1 + depth) :: parts }
      else none
  | [] => none

/- How deep what was read so far nests. -/
def depth (s : Scope) : Nat :=
  depthOf (depthOf s.parts :: s.branches)

end Scope

------------------------------------------------------------
-- Groups
------------------------------------------------------------

/-
  What is known in the middle of a pattern: the innermost
  scope, those around it, and the names of groups so far.
-/
structure State where
  scope : Scope := {}
  outer : List Scope := []
  names : List (List Char) := []

namespace State

/- Open a group with flags of its own. -/
def openGroup
    (s : State)
    (flags : Flags) : State :=
  { s with
    scope := { flags := flags }
    outer := s.scope :: s.outer }

/- Close the innermost group, if one is open. -/
def closeGroup? (s : State) : Option State :=
  match s.outer with
  | [] => none
  | scope :: outer =>
      some ⟨scope.add (1 + s.scope.depth), outer, s.names⟩

/- The state behind one more part. -/
def add
    (s : State)
    (depth : Nat) : State :=
  { s with scope := s.scope.add depth }

end State

/- Whether a text is the name of a group. -/
def isName : List Char → Bool
| [] => false
| c :: cs =>
    (c = '_' || Text.isLetter c) &&
      cs.all fun c =>
        c ∈ ['_', '.', '[', ']'] || Text.isWordChar c

/- The state behind the start of a group with a name. -/
def afterName?
    (s : State)
    (cs : List Char) : Option (State × List Char) :=
  let name := cs.takeWhile (· ≠ '>')
  match cs.dropWhile (· ≠ '>') with
  | '>' :: rest =>
      if isName name ∧ name ∉ s.names then
        let s := { s with names := name :: s.names }
        some (s.openGroup s.scope.flags, rest)
      else none
  | _ => none

/- The state behind flags, alone or at the start of a group. -/
def afterFlags?
    (s : State)
    (cs : List Char) : Option (State × List Char) := do
  match ← flags? s.scope.flags [] cs with
  | (flags, _, ':' :: rest) => return (s.openGroup flags, rest)
  | (flags, _ :: _, _ :: rest) =>
      return ({ s with scope := s.scope.setFlags flags }, rest)
  | _ => none

/-
  The state behind the start of a group whose parenthesis was
  taken.  No group can look ahead or behind.
-/
def afterGroup?
    (s : State)
    (cs : List Char) : Option (State × List Char) :=
  match skip s.scope.flags cs with
  | '?' :: '=' :: _ => none
  | '?' :: '!' :: _ => none
  | '?' :: '<' :: '=' :: _ => none
  | '?' :: '<' :: '!' :: _ => none
  | '?' :: 'P' :: '<' :: rest => afterName? s rest
  | '?' :: '<' :: rest => afterName? s rest
  | '?' :: rest => afterFlags? s rest
  | rest => some (s.openGroup s.scope.flags, rest)

------------------------------------------------------------
-- Patterns
------------------------------------------------------------

/- How deep the parts of a pattern can nest. -/
def depthLimit : Nat := 250

/- The sign behind a repetition that makes it a short one. -/
def dropShort : List Char → List Char
| '?' :: rest => rest
| rest => rest

/-
  The state behind the next part of a pattern, if one stands
  there: a sign of groups, branches or repetitions, a class,
  an escape, or a character that means itself.
-/
def next?
    (s : State) :
    List Char → Option (State × List Char)
| [] => none
| c :: rest =>
    let flags := s.scope.flags
    match c with
    | '(' => afterGroup? s rest
    | ')' => s.closeGroup?.map fun s' => (s', rest)
    | '|' => some ({ s with scope := s.scope.branch }, rest)
    | '[' =>
        (charClass? flags rest).map fun (depth, tail) =>
          (s.add depth, tail)
    | '\\' => do
        let (piece, tail) ← escape? flags rest
        if piece.isPart flags then some (s.add 0, tail) else none
    | '.' => if flags.unicode then some (s.add 0, rest) else none
    | '\x7b' => none
    | _ =>
        if c = '*' ∨ c = '+' ∨ c = '?' then
          s.scope.repeat?.map fun scope =>
            ({ s with scope := scope }, dropShort rest)
        else if c = '^' ∨ c = '$' then some (s.add 0, rest)
        else if (Piece.char c).isPart flags then
          some (s.add 0, rest)
        else none

/-
  Whether a text is the rest of a pattern.  Every step takes
  a character at least, so that there are no more steps than
  characters.
-/
def isRest : Nat → State → List Char → Bool
| 0, _, _ => false
| fuel + 1, s, cs =>
    match skip s.scope.flags cs with
    | [] => s.outer.isEmpty && s.scope.depth ≤ depthLimit
    | rest =>
        match next? s rest with
        | some (s', tail) => isRest fuel s' tail
        | none => false

/- Whether a text is a pattern. -/
def isPattern (cs : List Char) : Bool :=
  isRest (cs.length + 1) {} cs

end Pattern

end FactStore
