import FactStore.Number.BinaryFloat
import FactStore.Packages.Toml.Text

/-
  This file reads the numbers, truth values and moments in
  time of a TOML document.

  Key definitions include:
    * `Toml.Scalar`
    * `Toml.digits?`
    * `Toml.number?`
    * `Toml.moment?`
    * `Toml.word?`
-/

namespace FactStore

namespace Toml

------------------------------------------------------------
-- Scalars
------------------------------------------------------------

/-
  A value without parts.  A float is known by the bits of
  its double-precision pattern; of a moment in time no more
  is kept than that it is one.
-/
inductive Scalar where
| text (s : String)
| integer (n : Int)
| float (bits : Nat)
| bool (b : Bool)
| moment
deriving DecidableEq, Repr

/- Drop a given word from the front of a text. -/
def word?
    (word : String)
    (cs : List Char) : Option (List Char) :=
  if word.toList.isPrefixOf cs then some (cs.drop word.length)
  else none

------------------------------------------------------------
-- Digits
------------------------------------------------------------

/- Further digits; an underscore may stand between two digits. -/
def moreDigits?
    (isDigit : Char → Bool) : Reader (List Char)
| [] => some ([], [])
| c :: cs =>
    if isDigit c then do
      let (ds, rest) ← moreDigits? isDigit cs
      return (c :: ds, rest)
    else if c = '_' then
      match cs with
      | d :: _ => if isDigit d then moreDigits? isDigit cs else none
      | [] => none
    else some ([], c :: cs)

/- At least one digit. -/
def digits?
    (isDigit : Char → Bool) : Reader (List Char)
| [] => none
| c :: cs =>
    if isDigit c then moreDigits? isDigit (c :: cs) else none

/- The digits of a whole number, which start with no needless zero. -/
def wholeDigits? : Reader (List Char)
| '0' :: cs => some (['0'], cs)
| cs => digits? Char.isDigit cs

------------------------------------------------------------
-- Integers
------------------------------------------------------------

/- The integers that a document can hold. -/
def inRange (n : Int) : Bool :=
  let most : Int := Integer.signedMax 64
  n ≤ most && -most - 1 ≤ n

/- An integer, if it can be held. -/
def integer? (n : Int) : Option Scalar :=
  if inRange n then some (.integer n) else none

/- The value of digits in a base. -/
def valueIn
    (base : Nat)
    (ds : List Char) : Nat :=
  ds.foldl (fun v d => base * v + (hexDigit? d).getD 0) 0

/- A digit of a base up to sixteen. -/
def isDigitOf
    (base : Nat)
    (c : Char) : Bool :=
  match hexDigit? c with
  | some d => d < base
  | none => false

/- The digits of an integer in a base. -/
def based?
    (base : Nat) : Reader Scalar :=
  fun cs => do
    let (ds, rest) ← digits? (isDigitOf base) cs
    let n ← integer? (valueIn base ds)
    return (n, rest)

------------------------------------------------------------
-- Floats
------------------------------------------------------------

/- The digits behind a point, if there is one. -/
def places? : Reader (List Char)
| '.' :: cs => digits? Char.isDigit cs
| cs => some ([], cs)

/- The exponent of a float, if there is one. -/
def exponent? : Reader (Option Int)
| [] => some (none, [])
| c :: cs =>
    if c = 'e' ∨ c = 'E' then
      let (negative, cs) :=
        match cs with
        | '-' :: cs => (true, cs)
        | '+' :: cs => (false, cs)
        | cs => (false, cs)
      do
        let (ds, rest) ← digits? Char.isDigit cs
        let n := Int.ofNat (valueIn 10 ds)
        return (some (if negative then -n else n), rest)
    else some (none, c :: cs)

/- A pattern with its sign. -/
def signed
    (negative : Bool)
    (pattern : Nat) : Scalar :=
  .float
    (if negative then BinaryFormat.double.signBit + pattern
      else pattern)

/-
  A number in decimal digits.  With a point or an exponent it
  is a float, which must not exceed the finite ones upwards.
-/
def decimal?
    (negative : Bool) : Reader Scalar :=
  fun cs => do
    let (whole, rest) ← wholeDigits? cs
    let (fraction, rest) ← places? rest
    let (e, rest) ← exponent? rest
    if fraction.isEmpty && e.isNone then
      let n := Int.ofNat (valueIn 10 whole)
      let found ← integer? (if negative then -n else n)
      return (found, rest)
    else
      let f := BinaryFormat.double
      let pattern :=
        f.ofDecimal
          ⟨valueIn 10 (whole ++ fraction),
            e.getD 0 - fraction.length⟩
      if pattern = f.infinity && !negative then none
      else return (signed negative pattern, rest)

/- An infinity, a NaN, or a number in decimal digits. -/
def unsignedNumber?
    (negative : Bool) : Reader Scalar :=
  fun cs =>
    match word? "inf" cs, word? "nan" cs with
    | some rest, _ =>
        some (signed negative BinaryFormat.double.infinity, rest)
    | _, some rest =>
        some (signed negative BinaryFormat.double.quietNaN, rest)
    | _, _ => decimal? negative cs

/- A number; only one without a sign can have another base. -/
def number? : Reader Scalar
| '+' :: cs => unsignedNumber? false cs
| '-' :: cs => unsignedNumber? true cs
| '0' :: 'x' :: cs => based? 16 cs
| '0' :: 'o' :: cs => based? 8 cs
| '0' :: 'b' :: cs => based? 2 cs
| cs => unsignedNumber? false cs

------------------------------------------------------------
-- Moments in Time
------------------------------------------------------------

/- A number of exactly so many digits, within bounds. -/
def field?
    (digits low high : Nat) : Reader Nat :=
  fun cs =>
    let ds := cs.take digits
    let n := valueIn 10 ds
    if ds.length = digits ∧ ds.all Char.isDigit ∧ low ≤ n ∧ n ≤ high
    then some (n, cs.drop digits)
    else none

/- Drop a given character from the front of a text. -/
def mark?
    (c : Char) : List Char → Option (List Char)
| d :: cs => if c = d then some cs else none
| [] => none

/- The number of days of a month. -/
def monthLength (year month : Nat) : Nat :=
  if month = 2 then
    if year % 4 = 0 ∧ (year % 100 ≠ 0 ∨ year % 400 = 0) then 29
    else 28
  else if month ∈ [4, 6, 9, 11] then 30
  else 31

/- A date: year, month and day. -/
def date? (cs : List Char) : Option (List Char) := do
  let (year, cs) ← field? 4 0 9999 cs
  let (month, cs) ← field? 2 1 12 (← mark? '-' cs)
  let (_, cs) ←
    field? 2 1 (monthLength year month) (← mark? '-' cs)
  return cs

/- Digits behind a point that follow the seconds. -/
def secondPlaces? : List Char → Option (List Char)
| '.' :: cs =>
    let rest := cs.dropWhile Char.isDigit
    if rest.length = cs.length then none else some rest
| cs => some cs

/- A time of day: hours, minutes and seconds. -/
def time? (cs : List Char) : Option (List Char) := do
  let (_, cs) ← field? 2 0 23 cs
  let (_, cs) ← field? 2 0 59 (← mark? ':' cs)
  let (_, cs) ← field? 2 0 60 (← mark? ':' cs)
  secondPlaces? cs

/- The distance of a time of day from the zero meridian. -/
def offset? : List Char → Option (List Char)
| [] => some []
| c :: cs =>
    if c = 'Z' ∨ c = 'z' then some cs
    else if c = '+' ∨ c = '-' then do
      let (_, cs) ← field? 2 0 23 cs
      let (_, cs) ← field? 2 0 59 (← mark? ':' cs)
      return cs
    else some (c :: cs)

/- Whether a text starts like a time of day. -/
def startsTime (cs : List Char) : Bool :=
  (cs.take 2).all Char.isDigit && (cs.drop 2).head? = some ':'

/- Whether a text starts like a date. -/
def startsDate (cs : List Char) : Bool :=
  (cs.take 4).all Char.isDigit && (cs.drop 4).head? = some '-'

/- The time of day behind a date, if there is one. -/
def timeAfter? : List Char → Option (List Char)
| [] => some []
| c :: cs =>
    if (c = 'T' ∨ c = 't' ∨ c = ' ') ∧ startsTime cs then
      (time? cs).bind offset?
    else some (c :: cs)

/- A date, a time of day, or both. -/
def moment? (cs : List Char) : Option (List Char) :=
  if startsDate cs then (date? cs).bind timeAfter?
  else time? cs

end Toml

end FactStore
