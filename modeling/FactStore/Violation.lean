import FactStore.AccessError
import FactStore.AttrType
import FactStore.Cell
import FactStore.Number.Integer
import FactStore.Text.Quoted

/-
  This file defines violations, the ways in which a caller
  can break the contract of an operation, and the text that
  each is reported with.

  Key definitions include:
    * `Violation`
    * `Violation.message`
    * `Failure`
-/

namespace FactStore

------------------------------------------------------------
-- Broken Contracts
------------------------------------------------------------

/- The ways in which a caller can break a contract. -/
inductive Violation where
| indexOutOfBounds (length index : Nat)
| cursorOverrun (relation : String) (arity : Nat)
| wrongElement
    (relation : String) (column : Nat) (declared : AttrType)
| unknownSymbol (id : Cell)
| symbolsExhausted
| storedRowWidth (found arity : Nat)
| rowWidth (relation : String) (found arity : Nat)
| signatureMismatch
    (source target : String)
    (sourceSignature targetSignature : String)
| placeholderAdvanced
| placeholderRead
| relationRegisteredTwice (name : String)
| programRegisteredTwice (name : String)
| splitCharacter (limit : Nat) (c : Char) (start : Nat)
deriving DecidableEq, Repr

namespace Violation

------------------------------------------------------------
-- Texts of Broken Contracts
------------------------------------------------------------

/- The report that two sides that must be equal differ. -/
def unequal (subject left right : String) : String :=
  s!"assertion `left == right` failed: {subject}\n" ++
    s!"  left: {left}\n right: {right}"

/- The text of a broken contract. -/
def message : Violation → String
| indexOutOfBounds length index =>
    s!"index out of bounds: the len is {length} but the index is {index}"
| cursorOverrun relation arity =>
    s!"exceeded tuple's arity of {arity} in relation '{relation}'"
| wrongElement relation column declared =>
    let tag := declared.tag
    s!"wrong element type at column {column} of relation " ++
      s!"'{relation}': declared '{tag}'"
| unknownSymbol id =>
    "unknown symbol id " ++ String.ofList (Integer.digits id.toInt)
| symbolsExhausted => "symbol table exhausted the domain"
| storedRowWidth found arity =>
    unequal "stored row has wrong arity"
      (toString found) (toString arity)
| rowWidth relation found arity =>
    unequal
      s!"row width does not match arity of relation '{relation}'"
      (toString found) (toString arity)
| signatureMismatch source target sourceSignature targetSignature =>
    unequal
      s!"tuple bound to '{source}' inserted into '{target}'"
      (Text.quoted sourceSignature) (Text.quoted targetSignature)
| placeholderAdvanced => "advanced a placeholder relation iterator"
| placeholderRead => "dereferenced a placeholder relation iterator"
| relationRegisteredTwice name => s!"relation '{name}' registered twice"
| programRegisteredTwice name =>
    s!"program '{name}' registered twice: " ++
      "two program definitions share a name"
| splitCharacter limit c start =>
    let shown := String.ofList (Text.escape c)
    let stop := start + c.utf8Size
    s!"end byte index {limit} is not a char boundary; it is inside " ++
      s!"'{shown}' (bytes {start}..{stop} of string)"

end Violation

------------------------------------------------------------
-- Failures
------------------------------------------------------------

/- An operation fails by an error or by a violation. -/
inductive Failure where
| error (e : AccessError)
| violation (v : Violation)
deriving DecidableEq, Repr

end FactStore
