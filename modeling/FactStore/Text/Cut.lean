import FactStore.Violation

/-
  This file divides texts at bytes.  A byte is counted from
  the start of a text in UTF-8, and a text can be divided
  only between two of its characters.

  Key definitions include:
    * `Text.divide`
    * `Text.cut`
    * `Text.cutFrom`
-/

namespace FactStore

namespace Text

/-
  A text before and from a byte on; the second number is the
  byte where the text starts.  No character may be split.
-/
def divide
    (place : Nat) :
    Nat → List Char → Except Violation (List Char × List Char)
| _, [] => .ok ([], [])
| start, c :: cs =>
    let stop := start + c.utf8Size
    if stop ≤ place then
      (divide place stop cs).map fun (before, after) =>
        (c :: before, after)
    else if start < place then .error (.splitCharacter place c start)
    else .ok ([], c :: cs)

/- The part of a text from a byte on. -/
def cutFrom
    (start : Nat)
    (cs : List Char) : Except Violation (List Char) :=
  (divide start 0 cs).map (·.2)

/- The part of a text from a byte on and before another. -/
def cut
    (start stop : Nat)
    (cs : List Char) : Except Violation (List Char) := do
  let after ← cutFrom start cs
  return (← divide stop start after).1

end Text

end FactStore
