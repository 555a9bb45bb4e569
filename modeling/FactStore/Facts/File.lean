import FactStore.Facts.Line

/-
  This file defines fact files: one tuple a line, blank lines
  between them passed over.

  Key definitions include:
    * `FactOptions`
    * `FactFile.lines`
    * `FactFile.loadLines`
    * `FactFile.load`
    * `FactFile.storeRows`
    * `FactFile.store`
-/

namespace FactStore

/-
  How a fact file is read and written: the character between
  fields, and whether a line that is no tuple ends the load
  or is passed over.
-/
structure FactOptions where
  delimiter : Char := '\t'
  strict : Bool := true
deriving DecidableEq, Repr

instance : Inhabited FactOptions := ⟨{}⟩

namespace FactFile

------------------------------------------------------------
-- Lines
------------------------------------------------------------

/- Drop one character from the end, if it is the given one. -/
def dropLast
    (c : Char)
    (line : List Char) : List Char :=
  if line.getLast? = some c then line.dropLast else line

/-
  The physical lines of a text.  A line that a newline ends
  loses a carriage return before it; the text behind the
  last newline is a line when it is not empty.
-/
def textLines : List Char → List (List Char)
| [] => []
| c :: cs =>
    if c = '\n' then [] :: textLines cs
    else
      match cs with
      | [] => [[c]]
      | d :: ds =>
          if c = '\r' ∧ d = '\n' then [] :: textLines ds
          else
            match textLines (d :: ds) with
            | [] => [[c]]
            | line :: lines => (c :: line) :: lines

/- Cut bytes behind each newline byte. -/
def byteLines : List UInt8 → List (List UInt8)
| [] => []
| b :: bs =>
    if b = 10 then [b] :: byteLines bs
    else
      match byteLines bs with
      | [] => [[b]]
      | line :: lines => (b :: line) :: lines

/- Decode one line of bytes, with its line end. -/
def decodeLine (bytes : List UInt8) : Except IoFault (List Char) :=
  match String.fromUTF8? ⟨bytes.toArray⟩ with
  | some s => .ok ((textLines s.toList).headD [])
  | none => .error .invalidText

/-
  The lines of a file.  Text that is valid as a whole is cut
  as text; otherwise each line is decoded on its own, so that
  the lines before the first invalid one can still be read.
-/
def lines (content : ByteArray) : List (Except IoFault (List Char)) :=
  match String.fromUTF8? content with
  | some s => (textLines s.toList).map .ok
  | none => (byteLines content.toList).map decodeLine

/- Whether a line holds nothing but blanks. -/
def isBlank (line : List Char) : Bool :=
  line.all Text.isBlank

------------------------------------------------------------
-- Loading
------------------------------------------------------------

/-
  Load lines from left to right, counting the tuples.  The
  first line that cannot be decoded ends the load, and so
  does the first rejected one when the load is strict; what
  was loaded before it stays.
-/
def loadLines
    (path : String)
    (options : FactOptions) :
    List (Except IoFault (List Char)) → Nat → Nat →
      Relation → SymbolTable →
      Except Failure Nat × Relation × SymbolTable
| [], _, loaded, r, table => (.ok loaded, r, table)
| .error fault :: _, _, _, r, table =>
    (.error (.error (.io fault)), r, table)
| .ok text :: rest, number, loaded, r, table =>
    let line := dropLast '\r' text
    let next := loadLines path options rest (number + 1)
    if isBlank line then next loaded r table
    else
      match Line.parse r table line options.delimiter with
      | (.error fault, table') =>
          if options.strict then
            (.error
              (.error (.parse path number fault.message)),
              r, table')
          else
            next loaded r table'
      | (.ok (.error v), table') =>
          (.error (.violation v), r, table')
      | (.ok (.ok t), table') =>
          match r.insert t with
          | .error v => (.error (.violation v), r, table')
          | .ok r' => next (loaded + 1) r' table'

/- Load the content of a file into a relation. -/
def load
    (path : String)
    (options : FactOptions)
    (content : ByteArray)
    (r : Relation)
    (table : SymbolTable) :
    Except Failure Nat × Relation × SymbolTable :=
  loadLines path options (lines content) 1 0 r table

------------------------------------------------------------
-- Storing
------------------------------------------------------------

/- The line of one stored row. -/
def rowLine
    (r : Relation)
    (table : SymbolTable)
    (delimiter : Char)
    (row : Row) : Except Violation String := do
  let t ← Tuple.ofStored r.schema r.table row
  Line.format t table delimiter

/-
  Write rows as lines until one cannot be written; the lines
  before it stand.
-/
def storeRows
    (r : Relation)
    (table : SymbolTable)
    (delimiter : Char) :
    List Row → Except Violation Unit × List String
| [] => (.ok (), [])
| row :: rows =>
    match rowLine r table delimiter row with
    | .error v => (.error v, [])
    | .ok line =>
        let (outcome, rest) := storeRows r table delimiter rows
        (outcome, line :: rest)

/- Lines as the text of a file, each with its newline. -/
def unlines (ls : List String) : String :=
  String.join (ls.map (· ++ "\n"))

/-
  Write a relation as text: the number of rows or what kept a
  row from being written, and the text as far as it goes.
-/
def store
    (r : Relation)
    (table : SymbolTable)
    (delimiter : Char) : Except Violation Nat × String :=
  let (outcome, ls) := storeRows r table delimiter r.rows
  (outcome.map fun _ => r.size, unlines ls)

end FactFile

end FactStore
