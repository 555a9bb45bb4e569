/-
  This file defines the four column types, the one-letter
  tags that name them in declarations, and how a declared
  type such as `s:Person` is read.

  Key definitions include:
    * `AttrType`
    * `AttrType.ofTag?`
    * `AttrType.tag`
    * `AttrType.label`
    * `AttrType.ofDeclared`
-/

namespace FactStore

------------------------------------------------------------
-- Column Types
------------------------------------------------------------

/- How the cells of one column are to be read. -/
inductive AttrType where
| signed
| unsigned
| float
| symbol
deriving DecidableEq, Repr

namespace AttrType

/-
  The column type named by a tag.  Floats have two tags,
  every other type has one.
-/
def ofTag? : Char → Option AttrType
| 'i' => some signed
| 'u' => some unsigned
| 'r' => some float
| 'f' => some float
| 's' => some symbol
| _ => none

/- The tag under which a column type is written. -/
def tag : AttrType → Char
| signed => 'i'
| unsigned => 'u'
| float => 'r'
| symbol => 's'

/- The word for a column type in descriptions. -/
def label : AttrType → String
| signed => "number"
| unsigned => "unsigned"
| float => "float"
| symbol => "symbol"

/- Symbol columns hold symbol ids. -/
def isSymbol : AttrType → Bool
| symbol => true
| _ => false

/- Every column type but that of symbols is numeric. -/
def isNumeric (type : AttrType) : Bool :=
  !type.isSymbol

/- The tag of a type names that type. -/
@[simp]
theorem ofTag?_tag (type : AttrType) :
    ofTag? type.tag = some type := by
  cases type <;> rfl

------------------------------------------------------------
-- Declared Types
------------------------------------------------------------

/-
  The column type of a declaration is decided by its first
  character alone.  A declaration that starts with no known
  tag is answered with that character, and an empty one
  with a blank.
-/
def ofDeclared (declared : List Char) : Except Char AttrType :=
  let first := declared.headD ' '
  match ofTag? first with
  | some type => .ok type
  | none => .error first

end AttrType

end FactStore
