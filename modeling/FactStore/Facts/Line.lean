import FactStore.Facts.Field
import FactStore.Number.BinaryFloat
import FactStore.Relation
import FactStore.Text.Blank

/-
  This file defines the text form of one tuple: its fields
  joined by a delimiter, symbols escaped, numbers in decimal.
  Reading a line first checks every field and only then
  encodes them, so a rejected line interns nothing.

  Key definitions include:
    * `Line.format`
    * `LineFault`
    * `Line.validate`
    * `Line.parse`
-/

namespace FactStore

namespace Line

------------------------------------------------------------
-- Writing
------------------------------------------------------------

/- The text of a tuple without columns. -/
def nullary : String := "()"

/- The kind of value that a column's cells are written as. -/
def kindOf : AttrType → ElementKind
| .signed => .signed
| .unsigned => .unsigned
| .float => .float
| .symbol => .text

/- The text of a value in a line. -/
def field
    (delimiter : Char) :
    Element → List Char
| .text s => Field.escape delimiter s.toList
| .signed n => Integer.digits n.toInt
| .unsigned n => Integer.digits n.toNat
| .float x => BinaryFormat.single.render x.bits.toNat

/- Read values column by column and write each as a field. -/
def fields
    (delimiter : Char)
    (table : SymbolTable) :
    Tuple → List Attribute → Except Violation (List (List Char))
| _, [] => .ok []
| t, a :: rest => do
    let (value, t') := t.read table (kindOf a.type)
    let text := field delimiter (← value)
    return text :: (← fields delimiter table t' rest)

/-
  A tuple as a line.  The cursor starts at the first column
  wherever it stood before.
-/
def format
    (t : Tuple)
    (table : SymbolTable)
    (delimiter : Char) : Except Violation String :=
  if t.schema.arity = 0 then .ok nullary
  else
    (fields delimiter table t.rewind t.schema.attributes).map
      fun fs => String.ofList (Field.join delimiter fs)

end Line

------------------------------------------------------------
-- Faults of a Line
------------------------------------------------------------

/- Why a line is not a tuple of a relation. -/
inductive LineFault where
| notNullary
| fieldCount (found expected : Nat)
| badNumber (column : Nat) (field : String) (fault : NumberFault)
deriving DecidableEq, Repr

/- The text of a line fault. -/
def LineFault.message : LineFault → String
| notNullary => "expected '" ++ Line.nullary ++ "' for nullary relation"
| fieldCount found expected => s!"{found} fields, expected {expected}"
| badNumber column field fault =>
    s!"column {column}: cannot parse '{field}': " ++ fault.message

namespace Line

------------------------------------------------------------
-- Reading
------------------------------------------------------------

/- The greatest signed number. -/
def signedBound : Nat := Integer.signedMax 32

/- The greatest unsigned number. -/
def unsignedBound : Nat := Integer.unsignedMax 32

/- Read a number field without its surrounding blanks. -/
def readCell
    (type : AttrType)
    (text : List Char) : Except NumberFault Cell :=
  let text := Text.trim text
  match type with
  | .unsigned =>
      (Integer.readUnsigned unsignedBound text).map
        fun n => Cell.ofUnsigned (UInt32.ofNat n)
  | .float =>
      (BinaryFormat.single.read text).map
        fun n => Cell.ofUnsigned (UInt32.ofNat n)
  | _ =>
      (Integer.readSigned signedBound text).map Int32.ofInt

/-
  Check the fields of a line from left to right.  A symbol
  is taken as it stands, a number must be one of its
  column's type.
-/
def validate :
    Nat → List AttrType → List (List Char) →
      Except LineFault (List Element)
| column, type :: types, text :: texts => do
    let value ←
      match type with
      | .symbol => .ok (Element.text (String.ofList text))
      | _ =>
          match readCell type text with
          | .ok c => .ok (Element.signed c)
          | .error fault =>
              .error (.badNumber column (String.ofList text) fault)
    return value :: (← validate (column + 1) types texts)
| _, _, _ => .ok []

/- The values that a line holds for the columns of a schema. -/
def values
    (schema : Schema)
    (line : List Char)
    (delimiter : Char) : Except LineFault (List Element) :=
  if schema.arity = 0 then
    if Text.trim line = nullary.toList then .ok []
    else .error .notNullary
  else
    let texts := Field.split delimiter line
    if texts.length = schema.arity then
      validate 0 (schema.attributes.map (·.type)) texts
    else
      .error (.fieldCount texts.length schema.arity)

/-
  A line as a tuple of a relation, with the table as reading
  leaves it.  The outer error says why the line is rejected;
  what is accepted is encoded against the relation's table.
-/
def parse
    (r : Relation)
    (table : SymbolTable)
    (line : List Char)
    (delimiter : Char) :
    Except LineFault (Except Violation Tuple) × SymbolTable :=
  match values r.schema line delimiter with
  | .error fault => (.error fault, table)
  | .ok es =>
      let (outcome, table') := r.blankTuple.appendAll table es
      (.ok outcome, table')

end Line

end FactStore
