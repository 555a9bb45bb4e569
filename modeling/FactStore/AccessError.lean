/-
  This file defines the errors of the access layer that a
  host can act on, and the text of each.

  Key definitions include:
    * `IoFault`
    * `AccessError`
    * `AccessError.message`
-/

namespace FactStore

------------------------------------------------------------
-- Errors of the File Tree
------------------------------------------------------------

/- Why a file could not be opened, created or read. -/
inductive IoFault where
| notFound
| notDirectory
| isDirectory
| nameTooLong
| nulInPath
| invalidText
| other (text : String)
deriving DecidableEq, Repr

/- The text of an input or output fault. -/
def IoFault.message : IoFault → String
| notFound => "No such file or directory (os error 2)"
| notDirectory => "Not a directory (os error 20)"
| isDirectory => "Is a directory (os error 21)"
| nameTooLong => "File name too long (os error 36)"
| nulInPath => "file name contained an unexpected NUL byte"
| invalidText => "stream did not contain valid UTF-8"
| other text => text

------------------------------------------------------------
-- Errors a Host Can Act On
------------------------------------------------------------

/- The failures of the access layer that a host can act on. -/
inductive AccessError where
| io (fault : IoFault)
| relationNotFound (name : String)
| programNotFound (name : String)
| arityMismatch (relation : String) (expected actual : Nat)
| parse (path : String) (line : Nat) (reason : String)
| unknownAttrType (tag : Char)
| config (reason : String)
deriving DecidableEq, Repr

/- The text of an error. -/
def AccessError.message : AccessError → String
| io fault => "I/O error: " ++ fault.message
| relationNotFound name => s!"Relation '{name}' not found"
| programNotFound name => s!"No program registered under '{name}'"
| arityMismatch relation expected actual =>
    s!"Relation '{relation}' has arity {expected}, got {actual} values"
| parse path line reason => s!"{path}:{line}: {reason}"
| unknownAttrType tag => s!"Unknown attribute type tag '{tag}'"
| config reason => s!"Configuration error: {reason}"

end FactStore
