import FactStore.Packages.Toml.Number

/-
  This file defines the tree that a TOML document describes,
  and the rules by which headers and keys may add to it: no
  key is given twice, and a table is not opened again once
  it was written out.

  Key definitions include:
    * `Toml.Item`
    * `Toml.Form`
    * `Toml.edit?`
    * `Toml.addKey?`
    * `Toml.openTable?`
    * `Toml.openElement?`
-/

namespace FactStore

namespace Toml

------------------------------------------------------------
-- Trees
------------------------------------------------------------

/-
  How a table came about: by a header, on the way to another
  header, by a dotted key, or written out in braces.
-/
inductive Form where
| header
| implied
| dotted
| closed
deriving DecidableEq, Repr

/-
  A value, an array, a table, or the tables that repeated
  headers make.
-/
inductive Item where
| scalar (s : Scalar)
| array (items : List Item)
| table (form : Form) (entries : List (String × Item))
| elements (tables : List (List (String × Item)))

/- The entries of a table, in the order of the document. -/
abbrev Entries := List (String × Item)

------------------------------------------------------------
-- Changes
------------------------------------------------------------

/- Replace or add the item of a key. -/
def change?
    (key : String)
    (f : Option Item → Option Item) :
    Entries → Option Entries
| [] => (f none).map fun item => [(key, item)]
| (k, item) :: rest =>
    if k = key then (f (some item)).map fun item => (k, item) :: rest
    else (change? key f rest).map ((k, item) :: ·)

/- Change the last of several tables. -/
def changeLast?
    (f : Entries → Option Entries) :
    List Entries → Option (List Entries)
| [] => none
| [entries] => (f entries).map fun entries => [entries]
| entries :: rest =>
    (changeLast? f rest).map (entries :: ·)

/-
  Follow keys from a table and change the one they lead to.
  Tables that are not there are made on the way.  A dotted
  key does not enter a table that a header opened, and
  nothing enters a table in braces.
-/
def edit?
    (isDotted : Bool)
    (f : Form → Entries → Option Entries) :
    List String → Form → Entries → Option Entries
| [], form, entries => f form entries
| key :: keys, _, entries =>
    let made := if isDotted then Form.dotted else Form.implied
    change? key
      (fun
        | none =>
            (edit? isDotted f keys made []).map (.table made)
        | some (.table form inner) =>
            if form = .closed ∨ (isDotted ∧ form = .header) then none
            else (edit? isDotted f keys form inner).map (.table form)
        | some (.elements tables) =>
            (changeLast? (edit? isDotted f keys .header) tables).map
              .elements
        | some _ => none)
      entries

/-
  Add a key with its item.  The last part of a dotted key
  goes only into a table that a dotted key made, and a key
  without dots into none of these.
-/
def addKey?
    (keys : List String)
    (item : Item)
    (form : Form)
    (entries : Entries) : Option Entries :=
  let path := keys.dropLast
  edit? true
    (fun form entries =>
      if (form == .dotted) == path.isEmpty then none
      else
        change? (keys.getLast?.getD "")
          (fun
            | none => some item
            | some _ => none)
          entries)
    path form entries

/- Open the table of a header. -/
def openTable?
    (keys : List String)
    (root : Entries) : Option Entries :=
  edit? false
    (fun _ entries =>
      change? (keys.getLast?.getD "")
        (fun
          | none => some (.table .header [])
          | some (.table .implied inner) =>
              some (.table .header inner)
          | some _ => none)
        entries)
    keys.dropLast .header root

/- Add one more table to those of a repeated header. -/
def openElement?
    (keys : List String)
    (root : Entries) : Option Entries :=
  edit? false
    (fun _ entries =>
      change? (keys.getLast?.getD "")
        (fun
          | none => some (.elements [[]])
          | some (.elements tables) =>
              some (.elements (tables ++ [[]]))
          | some _ => none)
        entries)
    keys.dropLast .header root

/- Add a key below the header that was opened last. -/
def addBelow?
    (header keys : List String)
    (item : Item)
    (root : Entries) : Option Entries :=
  edit? false (addKey? keys item) header .header root

end Toml

end FactStore
