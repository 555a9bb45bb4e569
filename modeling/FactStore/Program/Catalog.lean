import FactStore.Cursor
import FactStore.NameMap

/-
  This file defines the catalog of a program: the relations
  that it declares, each registered once under a name.  The
  map of names and the four views are containers of their
  own, which every registration extends one by one.

  Key definitions include:
    * `Catalog`
    * `Catalog.Entry`
    * `Catalog.add`, `Catalog.addAll`
    * `Catalog.find?`
    * `View`, `Catalog.view`

  Main statements include:
    * `Catalog.add_of_taken`
    * `Catalog.add_of_free`
-/

namespace FactStore

------------------------------------------------------------
-- Catalogs
------------------------------------------------------------

/-
  The registered relations: by their names, all of them, the
  inputs, the outputs, and those that are neither.
-/
structure Catalog where
  byName : NameMap RelationId
  all : List RelationId
  input : List RelationId
  output : List RelationId
  internal : List RelationId
deriving DecidableEq, Repr

/- A relation that is to be registered, and its roles. -/
structure Catalog.Entry where
  name : String
  relation : RelationId
  isInput : Bool
  isOutput : Bool
deriving DecidableEq, Repr

/- The ways to look at a catalog. -/
inductive View where
| all
| input
| output
| internal
deriving DecidableEq, Repr

namespace Catalog

/- The catalog before anything is registered. -/
def empty : Catalog :=
  ⟨.empty, [], [], [], []⟩

instance : Inhabited Catalog := ⟨empty⟩

/- The relation registered under a name. -/
def find?
    (c : Catalog)
    (name : String) : Option RelationId :=
  c.byName.get? name

/- The relations that a view shows. -/
def view (c : Catalog) : View → List RelationId
| .all => c.all
| .input => c.input
| .output => c.output
| .internal => c.internal

------------------------------------------------------------
-- Registration
------------------------------------------------------------

/- Take up a relation among all and in its name. -/
def list
    (c : Catalog)
    (e : Entry) : Catalog :=
  let c := { c with byName := c.byName.insert e.name e.relation }
  { c with all := c.all ++ [e.relation] }

/- Take up a relation in the views of its roles. -/
def classify
    (c : Catalog)
    (e : Entry) : Catalog :=
  let c :=
    if e.isInput then { c with input := c.input ++ [e.relation] }
    else c
  let c :=
    if e.isOutput then { c with output := c.output ++ [e.relation] }
    else c
  if !e.isInput && !e.isOutput then
    { c with internal := c.internal ++ [e.relation] }
  else c

/-
  Register a relation.  A name that is taken is refused
  before any container changes.
-/
def add
    (c : Catalog)
    (e : Entry) : Except Violation Unit × Catalog :=
  if c.byName.contains e.name then
    (.error (.relationRegisteredTwice e.name), c)
  else
    (.ok (), (c.list e).classify e)

/- Register relations one by one, until one is refused. -/
def addAll
    (c : Catalog) :
    List Entry → Except Violation Unit × Catalog
| [] => (.ok (), c)
| e :: es =>
    match c.add e with
    | (.error v, c') => (.error v, c')
    | (.ok _, c') => addAll c' es

/- A taken name is refused, and nothing changes. -/
theorem add_of_taken
    {c : Catalog}
    {e : Entry}
    (h : e.name ∈ c.byName.names) :
    c.add e = (.error (.relationRegisteredTwice e.name), c) :=
  if_pos (NameMap.contains_iff_mem_names.mpr h)

/- A free name is taken up. -/
theorem add_of_free
    {c : Catalog}
    {e : Entry}
    (h : e.name ∉ c.byName.names) :
    c.add e = (.ok (), (c.list e).classify e) :=
  if_neg (mt NameMap.contains_iff_mem_names.mp h)

end Catalog

end FactStore
