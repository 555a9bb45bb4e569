/-
  This file defines how bounded integers are read from text.
  Digits are taken from left to right; the first character
  that is no digit, or the first digit that leaves the
  range, decides the answer.

  Key definitions include:
    * `NumberFault`
    * `Integer.power`
    * `Integer.unsignedMax`, `Integer.signedMax`
    * `Integer.readUnsigned`
    * `Integer.readSigned`
    * `Integer.digits`
-/

namespace FactStore

------------------------------------------------------------
-- Faults of Number Texts
------------------------------------------------------------

/- Why a text is not a number of the wanted kind. -/
inductive NumberFault where
| emptyInteger
| invalidDigit
| tooLarge
| tooSmall
| emptyFloat
| invalidFloat
deriving DecidableEq, Repr

/- The text of a number fault. -/
def NumberFault.message : NumberFault → String
| emptyInteger => "cannot parse integer from empty string"
| invalidDigit => "invalid digit found in string"
| tooLarge => "number too large to fit in target type"
| tooSmall => "number too small to fit in target type"
| emptyFloat => "cannot parse float from empty string"
| invalidFloat => "invalid float literal"

namespace Integer

------------------------------------------------------------
-- Powers and Bounds
------------------------------------------------------------

/- A base multiplied by itself so many times. -/
def power (base : Nat) : Nat → Nat
| 0 => 1
| n + 1 => base * power base n

/- The greatest number of so many bits. -/
def unsignedMax (bits : Nat) : Nat :=
  (1 <<< bits) - 1

/- The greatest number of so many bits, one of them the sign. -/
def signedMax (bits : Nat) : Nat :=
  (1 <<< (bits - 1)) - 1

------------------------------------------------------------
-- Reading
------------------------------------------------------------

/- The value of a decimal digit. -/
def digitValue (c : Char) : Nat :=
  c.toNat - '0'.toNat

/-
  Read digits after a value that is already known, and stop
  with the given fault at the digit that exceeds the bound.
-/
def readDigits
    (bound : Nat)
    (beyond : NumberFault) :
    Nat → List Char → Except NumberFault Nat
| value, [] => .ok value
| value, c :: cs =>
    if c.isDigit then
      let value' := 10 * value + digitValue c
      if value' ≤ bound then readDigits bound beyond value' cs
      else .error beyond
    else
      .error .invalidDigit

/- Read digits, of which there must be at least one. -/
def readMagnitude
    (bound : Nat)
    (beyond : NumberFault) :
    List Char → Except NumberFault Nat
| [] => .error .invalidDigit
| cs => readDigits bound beyond 0 cs

/- Read a natural number, with an optional plus sign. -/
def readUnsigned
    (bound : Nat) :
    List Char → Except NumberFault Nat
| [] => .error .emptyInteger
| '+' :: cs => readMagnitude bound .tooLarge cs
| cs => readMagnitude bound .tooLarge cs

/-
  Read an integer, with an optional sign.  A negative number
  may reach one further from zero than a positive one.
-/
def readSigned
    (bound : Nat) :
    List Char → Except NumberFault Int
| [] => .error .emptyInteger
| '+' :: cs =>
    (readMagnitude bound .tooLarge cs).map Int.ofNat
| '-' :: cs =>
    (readMagnitude (bound + 1) .tooSmall cs).map
      fun n => -Int.ofNat n
| cs => (readMagnitude bound .tooLarge cs).map Int.ofNat

------------------------------------------------------------
-- Writing
------------------------------------------------------------

/- The decimal text of an integer. -/
def digits : Int → List Char
| .ofNat n => Nat.toDigits 10 n
| .negSucc n => '-' :: Nat.toDigits 10 (n + 1)

end Integer

end FactStore
