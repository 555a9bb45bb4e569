/-
  This file defines the cells that every row is made of,
  and the two bit casts that let unsigned numbers and
  floats share a cell with signed numbers.

  Key definitions include:
    * `Cell`
    * `Row`
    * `Single`
    * `Cell.ofUnsigned`, `Cell.toUnsigned`
    * `Cell.ofSingle`, `Cell.toSingle`
-/

namespace FactStore

------------------------------------------------------------
-- Cells and Rows
------------------------------------------------------------

/-
  A cell is one 32-bit word.  Which kind of value it stands
  for is said by the column that holds it.
-/
abbrev Cell := Int32

/- A row is a flat list of cells. -/
abbrev Row := List Cell

/-
  A single-precision float, known by its bits, so that the
  payload of a NaN is part of the value.
-/
structure Single where
  bits : UInt32
deriving DecidableEq, Repr

------------------------------------------------------------
-- Bit Casts
------------------------------------------------------------

namespace Cell

/- The cell with the same bits as an unsigned number. -/
def ofUnsigned (n : UInt32) : Cell :=
  n.toInt32

/- The unsigned number with the same bits as a cell. -/
def toUnsigned (c : Cell) : UInt32 :=
  c.toUInt32

/- The cell with the same bits as a float. -/
def ofSingle (x : Single) : Cell :=
  ofUnsigned x.bits

/- The float with the same bits as a cell. -/
def toSingle (c : Cell) : Single :=
  ⟨toUnsigned c⟩

/- Casting an unsigned number to a cell loses nothing. -/
@[simp]
theorem toUnsigned_ofUnsigned (n : UInt32) :
    toUnsigned (ofUnsigned n) = n := rfl

/- Casting a cell to an unsigned number loses nothing. -/
@[simp]
theorem ofUnsigned_toUnsigned (c : Cell) :
    ofUnsigned (toUnsigned c) = c := rfl

/- Casting a float to a cell keeps every bit. -/
@[simp]
theorem toSingle_ofSingle (x : Single) :
    toSingle (ofSingle x) = x := rfl

/- Casting a cell to a float keeps every bit. -/
@[simp]
theorem ofSingle_toSingle (c : Cell) :
    ofSingle (toSingle c) = c := rfl

end Cell

end FactStore
