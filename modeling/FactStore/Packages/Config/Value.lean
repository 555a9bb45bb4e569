import FactStore.Text.Quoted
import FactStore.Packages.Toml.Document

/-
  This file defines configuration values that remember where
  they were given, so that a fault can name its place, and
  the merging of values of several sources.

  Key definitions include:
    * `Config.Source`
    * `Config.Value`
    * `Config.Value.merge`
    * `Config.Value.ofTable?`
    * `Config.Value.ofDocument?`
-/

namespace FactStore

namespace Config

------------------------------------------------------------
-- Sources
------------------------------------------------------------

/-
  Where a value was given; variables of the environment are
  known by the start of their names.
-/
inductive Source where
| text
| file (path : String)
| environment (start : String)
deriving DecidableEq, Repr

/- The name of a source in a fault. -/
def Source.describe : Source → String
| text => "TOML source string"
| file path => path ++ " TOML file"
| environment start => "`" ++ start ++ "` environment variable(s)"

/- A key as its source writes it. -/
def Source.key
    (s : Source)
    (parts : List String) : String :=
  match s with
  | .environment _ =>
      ".".intercalate
        (parts.map fun part =>
          String.ofList (part.toList.map Char.toUpper))
  | _ => ".".intercalate ("default" :: parts)

------------------------------------------------------------
-- Values
------------------------------------------------------------

/-
  A value without parts.  Integers are known as signed or as
  unsigned by their source, and floats by their bits.
-/
inductive Scalar where
| text (s : String)
| bool (b : Bool)
| signed (n : Int)
| unsigned (n : Nat)
| float (bits : Nat)
deriving DecidableEq, Repr

/- A value with its source. -/
inductive Value where
| scalar (source : Source) (s : Scalar)
| list (source : Source) (items : List Value)
| table (source : Source) (entries : List (String × Value))

namespace Value

/- The source of a value. -/
def source : Value → Source
| scalar source _ => source
| list source _ => source
| table source _ => source

/- How a value is named in a fault. -/
def describe : Value → String
| scalar _ (.text s) => "string " ++ Text.quoted s
| scalar _ (.bool b) => if b then "bool true" else "bool false"
| scalar _ (.signed n) =>
    "signed int `" ++ String.ofList (Integer.digits n) ++ "`"
| scalar _ (.unsigned n) => s!"unsigned int `{n}`"
| scalar _ (.float bits) =>
    "float `" ++
      String.ofList (BinaryFormat.double.render bits) ++ "`"
| list _ _ => "sequence"
| table _ _ => "map"

------------------------------------------------------------
-- Merging
------------------------------------------------------------

mutual

/-
  A later value over an earlier one.  Two tables are merged
  key by key; otherwise the later value stands alone.
-/
def merge (earlier : Value) : Value → Value
| .scalar source s => .scalar source s
| .list source items => .list source items
| .table source entries =>
    match earlier with
    | .table _ known => .table source (mergeEntries known entries)
    | _ => .table source entries

/- The entries of a later table over those of an earlier one. -/
def mergeEntries
    (known : List (String × Value)) :
    List (String × Value) → List (String × Value)
| [] => known
| (key, value) :: rest =>
    let merged :=
      match known.lookup key with
      | none => (key, value)
      | some earlier => (key, merge earlier value)
    mergeEntries
      (known.filter (fun entry => entry.1 ≠ key) ++ [merged]) rest

end

------------------------------------------------------------
-- Documents
------------------------------------------------------------

/- A value without parts, as a document gives it. -/
def ofScalar
    (source : Source) :
    Toml.Scalar → Value
| .text s => .scalar source (.text s)
| .integer n => .scalar source (.signed n)
| .float bits => .scalar source (.float bits)
| .bool b => .scalar source (.bool b)
| .moment => .table source []

/- The key of a table whose value stands for the whole table. -/
def wrappingKey : String := "___figment_value_value"

/- The key that no table within a document can have. -/
def reservedKey : String := "___figment_value_id"

/- The value of a table within a document, by its entries. -/
def ofTable?
    (source : Source)
    (entries : List (String × Value)) : Option Value :=
  if (entries.lookup reservedKey).isSome then none
  else
    some ((entries.lookup wrappingKey).getD (.table source entries))

mutual

/- An item of a document as a value. -/
def ofItem? (source : Source) : Toml.Item → Option Value
| .scalar s => some (ofScalar source s)
| .array items => (ofItems? source items).map (.list source)
| .table _ entries =>
    (ofEntries? source entries).bind (ofTable? source)
| .elements tables => (ofTables? source tables).map (.list source)

/- The items of an array as values. -/
def ofItems? (source : Source) : List Toml.Item → Option (List Value)
| [] => some []
| item :: rest => do
    let v ← ofItem? source item
    return v :: (← ofItems? source rest)

/- The entries of a table as values. -/
def ofEntries?
    (source : Source) :
    List (String × Toml.Item) → Option (List (String × Value))
| [] => some []
| (key, item) :: rest => do
    let v ← ofItem? source item
    return (key, v) :: (← ofEntries? source rest)

/- The tables of repeated headers as values. -/
def ofTables?
    (source : Source) :
    List (List (String × Toml.Item)) → Option (List Value)
| [] => some []
| entries :: rest => do
    let v ← ofTable? source (← ofEntries? source entries)
    return v :: (← ofTables? source rest)

end

/-
  The table that a document describes, if it breaks no rule.
  At its top the keys with a meaning of their own are keys
  like all others.
-/
def ofDocument?
    (source : Source)
    (document : String) : Option Value := do
  let entries ← Toml.parse? document
  return .table source (← ofEntries? source entries)

end Value

end Config

end FactStore
