import FactStore.Number.Integer

/-
  This file defines decimal numbers as a coefficient with a
  power of ten, their positional text, and the reading of
  decimal text with an optional point and exponent.

  Key definitions include:
    * `Decimal`
    * `Decimal.positional`
    * `Decimal.read?`
-/

namespace FactStore

------------------------------------------------------------
-- Decimal Numbers
------------------------------------------------------------

/- A coefficient times a power of ten. -/
structure Decimal where
  coefficient : Nat
  exponent : Int
deriving DecidableEq, Repr

namespace Decimal

/-
  A decimal as a quotient of naturals: a negative power of
  ten goes below the line.
-/
def numerator (d : Decimal) : Nat :=
  d.coefficient * Integer.power 10 d.exponent.toNat

/- The part of the quotient below the line. -/
def denominator (d : Decimal) : Nat :=
  Integer.power 10 (-d.exponent).toNat

/- Move trailing zeros of the coefficient into the exponent. -/
def normalize : Nat → Decimal → Decimal
| 0, d => d
| fuel + 1, d =>
    if d.coefficient ≠ 0 ∧ d.coefficient % 10 = 0 then
      normalize fuel ⟨d.coefficient / 10, d.exponent + 1⟩
    else
      d

------------------------------------------------------------
-- Positional Text
------------------------------------------------------------

/-
  All digits, without exponent: zeros reach from the digits
  to the point on either side, and a number below one starts
  with a zero.
-/
def positional (d : Decimal) : List Char :=
  let ds := Nat.toDigits 10 d.coefficient
  let places := (-d.exponent).toNat
  if places = 0 then
    ds ++ List.replicate d.exponent.toNat '0'
  else if places < ds.length then
    ds.take (ds.length - places) ++
      '.' :: ds.drop (ds.length - places)
  else
    '0' :: '.' ::
      (List.replicate (places - ds.length) '0' ++ ds)

------------------------------------------------------------
-- Reading
------------------------------------------------------------

/- The value of a list of digits after a known value. -/
def digitsValue
    (value : Nat)
    (ds : List Char) : Nat :=
  ds.foldl (fun v c => 10 * v + Integer.digitValue c) value

/- Read the digits of an exponent, at least one. -/
def exponentDigits? (cs : List Char) : Option Int :=
  if cs.isEmpty || !cs.all Char.isDigit then none
  else some (digitsValue 0 cs)

/- Read the exponent that ends a decimal text, if there is one. -/
def exponent? : List Char → Option Int
| [] => some 0
| e :: cs =>
    if e = 'e' ∨ e = 'E' then
      match cs with
      | '+' :: ds => exponentDigits? ds
      | '-' :: ds => (exponentDigits? ds).map Int.neg
      | ds => exponentDigits? ds
    else
      none

/-
  Read digits with an optional point and an optional
  exponent.  At least one digit must stand before or after
  the point.
-/
def read? (cs : List Char) : Option Decimal :=
  let whole := cs.takeWhile Char.isDigit
  let rest := cs.dropWhile Char.isDigit
  let (places, tail) :=
    match rest with
    | '.' :: after =>
        (after.takeWhile Char.isDigit,
          after.dropWhile Char.isDigit)
    | _ => ([], rest)
  if whole.isEmpty && places.isEmpty then none
  else
    (exponent? tail).map fun e =>
      ⟨digitsValue (digitsValue 0 whole) places,
        e - places.length⟩

end Decimal

end FactStore
