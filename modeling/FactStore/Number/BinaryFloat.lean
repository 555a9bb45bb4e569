import FactStore.Number.Decimal

/-
  This file defines binary floating-point formats: the value
  of a bit pattern, rounding a quotient to the nearest
  pattern, the decimal of fewest digits that reads back to a
  pattern, and the text of floats in both directions.

  Key definitions include:
    * `BinaryFormat`
    * `BinaryFormat.single`, `BinaryFormat.double`
    * `BinaryFormat.round`
    * `BinaryFormat.shortest`
    * `BinaryFormat.render`
    * `BinaryFormat.read`
-/

namespace FactStore

------------------------------------------------------------
-- Formats
------------------------------------------------------------

/-
  A binary format has a sign bit, exponent bits and fraction
  bits, in this order.  A pattern is a natural number.
-/
structure BinaryFormat where
  exponentBits : Nat
  fractionBits : Nat
deriving DecidableEq, Repr

namespace BinaryFormat

/- The 32-bit format. -/
def single : BinaryFormat := ⟨8, 23⟩

/- The 64-bit format. -/
def double : BinaryFormat := ⟨11, 52⟩

/- The pattern of positive infinity. -/
def infinity (f : BinaryFormat) : Nat :=
  ((1 <<< f.exponentBits) - 1) <<< f.fractionBits

/- The pattern of the quiet NaN without payload. -/
def quietNaN (f : BinaryFormat) : Nat :=
  f.infinity + (1 <<< (f.fractionBits - 1))

/- The weight of the sign bit. -/
def signBit (f : BinaryFormat) : Nat :=
  1 <<< (f.exponentBits + f.fractionBits)

/- The power of two of the last place of the least numbers. -/
def leastExponent (f : BinaryFormat) : Int :=
  2 - Int.ofNat (1 <<< (f.exponentBits - 1)) - f.fractionBits

/- The significand of a finite pattern without sign. -/
def significand
    (f : BinaryFormat)
    (pattern : Nat) : Nat :=
  let fraction := pattern % (1 <<< f.fractionBits)
  if pattern >>> f.fractionBits = 0 then fraction
  else (1 <<< f.fractionBits) + fraction

/- The power of two of the last place of a finite pattern. -/
def lastPlace
    (f : BinaryFormat)
    (pattern : Nat) : Int :=
  f.leastExponent + Int.ofNat ((pattern >>> f.fractionBits) - 1)

/- The value of a finite pattern, above the line. -/
def numerator
    (f : BinaryFormat)
    (pattern : Nat) : Nat :=
  f.significand pattern <<< (f.lastPlace pattern).toNat

/- The value of a finite pattern, below the line. -/
def denominator
    (f : BinaryFormat)
    (pattern : Nat) : Nat :=
  1 <<< (-f.lastPlace pattern).toNat

------------------------------------------------------------
-- Rounding
------------------------------------------------------------

/- The nearest natural to a quotient; a tie goes to the even one. -/
def nearest (num den : Nat) : Nat :=
  let q := num / den
  let r := num % den
  if 2 * r < den then q
  else if den < 2 * r then q + 1
  else q + q % 2

/- The power of two at or next below a positive quotient. -/
def binaryScale (num den : Nat) : Int :=
  let e : Int := Int.ofNat num.log2 - Int.ofNat den.log2
  if num <<< (-e).toNat < den <<< e.toNat then e - 1 else e

/-
  The pattern nearest to a quotient.  The last place is that
  of the quotient's power of two, though never below the
  format's least, and what exceeds the finite patterns is
  infinite.
-/
def round
    (f : BinaryFormat)
    (num den : Nat) : Nat :=
  if num = 0 then 0
  else
    let place :=
      max (binaryScale num den - f.fractionBits) f.leastExponent
    let m :=
      nearest (num <<< (-place).toNat) (den <<< place.toNat)
    min
      (((place - f.leastExponent).toNat <<< f.fractionBits) + m)
      f.infinity

/-
  A decimal whose power of ten exceeds this reach is beyond
  every finite pattern, on either side.
-/
def decimalReach (f : BinaryFormat) : Int :=
  Int.ofNat (1 <<< (f.exponentBits - 1)) + f.fractionBits

/- The pattern nearest to a decimal. -/
def ofDecimal
    (f : BinaryFormat)
    (d : Decimal) : Nat :=
  let scale := (Nat.toDigits 10 d.coefficient).length + d.exponent
  if d.coefficient = 0 then 0
  else if f.decimalReach < scale then f.infinity
  else if scale < -f.decimalReach then 0
  else f.round d.numerator d.denominator

------------------------------------------------------------
-- The Fewest Digits
------------------------------------------------------------

/- The least power of ten above a positive quotient. -/
def decimalScale (num den : Nat) : Int :=
  let k : Int :=
    Int.ofNat (Nat.toDigits 10 num).length -
      Int.ofNat (Nat.toDigits 10 den).length
  if num * Integer.power 10 (-k).toNat < den * Integer.power 10 k.toNat then
    k
  else
    k + 1

/-
  The decimal of a given last place that reads back to a
  pattern.  Only the two neighbours of the value can be
  nearest; of two that read back the nearer one is taken,
  and the upper one when both are equally near.
-/
def onGrid?
    (f : BinaryFormat)
    (pattern : Nat)
    (exponent : Int) : Option Decimal :=
  let num := f.numerator pattern * Integer.power 10 (-exponent).toNat
  let den := f.denominator pattern * Integer.power 10 exponent.toNat
  let lower : Decimal := ⟨num / den, exponent⟩
  let upper : Decimal := ⟨num / den + 1, exponent⟩
  let near := if 2 * (num % den) < den then lower else upper
  let far := if 2 * (num % den) < den then upper else lower
  if f.ofDecimal near = pattern then some near
  else if f.ofDecimal far = pattern then some far
  else none

/- The exact value of a finite pattern as a decimal. -/
def exactDecimal
    (f : BinaryFormat)
    (pattern : Nat) : Decimal :=
  let places := (-f.lastPlace pattern).toNat
  ⟨f.numerator pattern * Integer.power 5 places, -places⟩

/- Seventeen digits tell all patterns of both formats apart. -/
def digitLimit : Nat := 17

/-
  The decimal of fewest digits that reads back to a finite
  pattern without sign, searched from one digit upwards.
-/
def shortest
    (f : BinaryFormat)
    (pattern : Nat) : Decimal :=
  if pattern = 0 then ⟨0, 0⟩
  else
    let scale :=
      decimalScale (f.numerator pattern) (f.denominator pattern)
    let found :=
      (List.range digitLimit).findSome? fun n =>
        f.onGrid? pattern (scale - (n + 1 : Nat))
    let d := found.getD (f.exactDecimal pattern)
    d.normalize (Nat.toDigits 10 d.coefficient).length

------------------------------------------------------------
-- Text
------------------------------------------------------------

/-
  The text of a pattern: a NaN shows neither sign nor
  payload, every number shows its fewest digits without an
  exponent.
-/
def render
    (f : BinaryFormat)
    (bits : Nat) : List Char :=
  let pattern := bits % f.signBit
  let sign := if bits / f.signBit % 2 = 1 then ['-'] else []
  if f.infinity < pattern then "NaN".toList
  else if pattern = f.infinity then sign ++ "inf".toList
  else sign ++ (f.shortest pattern).positional

/- The pattern named by a word, in any case. -/
def ofWord?
    (f : BinaryFormat)
    (cs : List Char) : Option Nat :=
  let word := String.ofList (cs.map Char.toLower)
  if word = "inf" ∨ word = "infinity" then some f.infinity
  else if word = "nan" then some f.quietNaN
  else none

/- Read a float text that has no sign. -/
def readUnsigned?
    (f : BinaryFormat)
    (cs : List Char) : Option Nat :=
  match Decimal.read? cs with
  | some d => some (f.ofDecimal d)
  | none => f.ofWord? cs

/- Read a float: an optional sign, then digits or a word. -/
def read
    (f : BinaryFormat)
    (cs : List Char) : Except NumberFault Nat :=
  let found :=
    match cs with
    | '+' :: rest => f.readUnsigned? rest
    | '-' :: rest => (f.readUnsigned? rest).map (f.signBit + ·)
    | _ => f.readUnsigned? cs
  match found with
  | some bits => .ok bits
  | none =>
      .error (if cs.isEmpty then .emptyFloat else .invalidFloat)

end BinaryFormat

end FactStore
