import FactStore.Packages.LogFilter.Pattern.Piece

/-
  This file reads classes of characters between brackets:
  characters, ranges, named sets and other classes, side by
  side or with the signs of set operations between them.

  Key definitions include:
    * `Pattern.afterMember?`
    * `Pattern.named?`
    * `Pattern.ClassState`
    * `Pattern.charClass?`
-/

namespace FactStore

namespace Pattern

------------------------------------------------------------
-- Members
------------------------------------------------------------

/- A piece of a class of characters. -/
def member?
    (flags : Flags) :
    List Char → Option (Piece × List Char)
| [] => none
| '\\' :: cs => escape? flags cs
| c :: cs => some (.char c, cs)

/-
  What stands behind one piece of a class, or behind a range:
  two characters in order, with a minus sign between them.  A
  minus sign in front of another, or of the bracket that
  closes the class, makes no range.
-/
def afterMember?
    (flags : Flags)
    (cs : List Char) : Option (List Char) := do
  let (first, rest) ← member? flags cs
  let rest := skip flags rest
  let alone := if first.isMember flags then some rest else none
  match rest with
  | [] => none
  | '-' :: tail =>
      let next := peek? flags tail
      if next = some ']' ∨ next = some '-' then alone
      else do
        let (last, rest) ← member? flags (skip flags tail)
        let low ← first.char?
        let high ← last.char?
        if first.isMember flags && last.isMember flags &&
            low.toNat ≤ high.toNat then
          some rest
        else none
  | _ => alone

------------------------------------------------------------
-- Named Sets
------------------------------------------------------------

/- The names of the sets of characters of ASCII. -/
def setNames : List String :=
  ["alnum", "alpha", "ascii", "blank", "cntrl", "digit",
    "graph", "lower", "print", "punct", "space", "upper",
    "word", "xdigit"]

/- A named set behind its bracket, and whether it is negated. -/
def named? : List Char → Option (Bool × List Char)
| ':' :: cs =>
    let (negated, cs) :=
      match cs with
      | '^' :: rest => (true, rest)
      | _ => (false, cs)
    let name := String.ofList (cs.takeWhile (· ≠ ':'))
    match cs.dropWhile (· ≠ ':') with
    | ':' :: ']' :: rest =>
        if name ∈ setNames then some (negated, rest) else none
    | _ => none
| _ => none

/- Whether a named set can stand in a class. -/
def allowsNamed
    (flags : Flags)
    (negated : Bool) : Bool :=
  if flags.unicode then !flags.foldsCase else !negated

------------------------------------------------------------
-- Classes
------------------------------------------------------------

/-
  What is known in the middle of a class: how deep the left
  side of an operation nests, if there is one, and how deep
  each member since then does.
-/
structure ClassState where
  left : Option Nat := none
  members : List Nat := []

namespace ClassState

/- The state behind one more member. -/
def add
    (s : ClassState)
    (depth : Nat) : ClassState :=
  { s with members := depth :: s.members }

/- How deep what was read so far nests. -/
def depth (s : ClassState) : Nat :=
  match s.left with
  | none => depthOf s.members
  | some left => 1 + max left (depthOf s.members)

/- The state behind the sign of an operation. -/
def operate (s : ClassState) : ClassState :=
  ⟨some s.depth, []⟩

end ClassState

/- The minus signs at the start of a class, each a member. -/
def hyphens
    (flags : Flags) :
    Nat → List Char → List Nat × List Char
| fuel + 1, '-' :: cs =>
    let (members, rest) := hyphens flags fuel (skip flags cs)
    (0 :: members, rest)
| _, cs => ([], cs)

/-
  The start of a class behind its bracket: the sign that
  negates it, and characters that mean themselves only there.
  Without the flag for Unicode no class can be negated.
-/
def classStart?
    (flags : Flags)
    (cs : List Char) : Option (ClassState × List Char) :=
  let cs := skip flags cs
  let (negated, cs) :=
    match cs with
    | '^' :: rest => (true, skip flags rest)
    | _ => (false, cs)
  let (members, rest) :=
    match cs with
    | ']' :: rest => ([0], skip flags rest)
    | _ => hyphens flags cs.length cs
  if negated && !flags.unicode then none
  else if flags.foldsAll && !members.isEmpty then none
  else some (⟨none, members⟩, rest)

/-
  The rest of a class, within others that are still open: how
  deep the outermost nests, and what stands behind it.
-/
def classRest?
    (flags : Flags) :
    Nat → ClassState → List ClassState → List Char →
      Option (Nat × List Char)
| 0, _, _, _ => none
| fuel + 1, s, outer, cs =>
    match skip flags cs with
    | [] => none
    | '[' :: rest =>
        match named? rest with
        | some (negated, tail) =>
            if allowsNamed flags negated then
              classRest? flags fuel (s.add 0) outer tail
            else none
        | none => do
            let (inner, tail) ← classStart? flags rest
            classRest? flags fuel inner (s :: outer) tail
    | ']' :: rest =>
        let depth := 1 + s.depth
        match outer with
        | [] => some (depth, rest)
        | s :: outer =>
            classRest? flags fuel (s.add depth) outer rest
    | '&' :: '&' :: rest =>
        classRest? flags fuel s.operate outer rest
    | '-' :: '-' :: rest =>
        classRest? flags fuel s.operate outer rest
    | '~' :: '~' :: rest =>
        classRest? flags fuel s.operate outer rest
    | rest => do
        let tail ← afterMember? flags rest
        classRest? flags fuel (s.add 0) outer tail

/-
  A class whose bracket was taken: how deep it nests, and
  what stands behind it.
-/
def charClass?
    (flags : Flags)
    (cs : List Char) : Option (Nat × List Char) := do
  let (s, rest) ← classStart? flags cs
  classRest? flags (rest.length + 1) s [] rest

end Pattern

end FactStore
