import FactStore.AttrType

/-
  This file defines attributes (one named, typed column) and
  schemas (a relation's name with its columns), how they are
  declared in text, and the signature by which two relations
  are compared before tuples move between them.

  Key definitions include:
    * `Attribute`
    * `Attribute.ofDeclaration`
    * `Attribute.declaredType`
    * `Schema`
    * `Schema.ofDeclarations`
    * `Schema.signature`
-/

namespace FactStore

------------------------------------------------------------
-- Attributes
------------------------------------------------------------

/-
  One column: its name, its type, and the name under which
  the type was declared, if it has one.
-/
structure Attribute where
  name : String
  type : AttrType
  typeName : Option String
deriving DecidableEq, Repr

namespace Attribute

/- The text after the first colon, if that text is not empty. -/
def typeNameOf? (declared : List Char) : Option String :=
  match declared.dropWhile (· ≠ ':') with
  | [] => none
  | [_] => none
  | _ :: rest => some (String.ofList rest)

/-
  Read a column's declared type.  The tag is the first
  character, the type name is the text after the first
  colon, and what stands between them is ignored.
-/
def ofDeclaration
    (name : String)
    (declared : String) :
    Except Char Attribute :=
  match AttrType.ofDeclared declared.toList with
  | .error tag => .error tag
  | .ok type => .ok ⟨name, type, typeNameOf? declared.toList⟩

/- The declaration of an attribute's type in canonical form. -/
def declaredType (a : Attribute) : String :=
  match a.typeName with
  | some typeName => a.type.tag.toString ++ ":" ++ typeName
  | none => a.type.tag.toString

end Attribute

------------------------------------------------------------
-- Schemas
------------------------------------------------------------

/- A relation's name together with its columns, in order. -/
structure Schema where
  name : String
  attributes : List Attribute
deriving DecidableEq, Repr, Inhabited

namespace Schema

/- The number of columns. -/
def arity (s : Schema) : Nat :=
  s.attributes.length

/-
  Build a schema from column names with declared types.  The
  first declaration without a known tag is the answer when
  there is one.
-/
def ofDeclarations
    (name : String)
    (columns : List (String × String)) :
    Except Char Schema :=
  match columns.mapM fun c => Attribute.ofDeclaration c.1 c.2 with
  | .error tag => .error tag
  | .ok attributes => .ok ⟨name, attributes⟩

/- The same columns without the names of their declared types. -/
def withoutTypeNames (s : Schema) : Schema :=
  { s with
    attributes :=
      s.attributes.map fun a => { a with typeName := none } }

/-
  The signature lists the declared types of the columns
  between angle brackets, as in `<s:Person,i>`.
-/
def signature (s : Schema) : String :=
  "<" ++ ",".intercalate (s.attributes.map (·.declaredType)) ++ ">"

end Schema

end FactStore
