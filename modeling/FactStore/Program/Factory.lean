import FactStore.Program

/-
  This file defines factories, which make new programs, and
  their registry by name.  No name is registered twice.  The
  registry of a process is made when it is first asked for,
  and the built-in program is registered in it from then on.
  A factory of a host has a constructor of its own, which may
  use the registry while it makes a program, and may fail.

  Key definitions include:
    * `Factory`
    * `Factories.insertUnique`
    * `Registry`
    * `Registry.register`, `Registry.find?`, `Registry.names`
    * `Construction`, `Construction.run`
    * `Host`
    * `Registry.make?`
-/

namespace FactStore

------------------------------------------------------------
-- Factories
------------------------------------------------------------

/-
  How a factory makes a program: as the built-in one, or as a
  constructor that the host knows by a key.
-/
inductive Builder (κ : Type) where
| builtin
| host (k : κ)
deriving DecidableEq, Repr

/- A factory: a name, and how it makes a program. -/
structure Factory (κ : Type) where
  name : String
  builder : Builder κ
deriving DecidableEq, Repr

namespace Factory

variable {κ : Type}

/- A factory written out with its name. -/
def describe (f : Factory κ) : String :=
  "FactoryFn \x7b name: " ++ Text.quoted f.name ++ " \x7d"

/- The factory of the built-in program. -/
def builtin : Factory κ :=
  ⟨"transitive_closure", .builtin⟩

/- The factories of all built-in programs. -/
def builtins : List (Factory κ) :=
  [builtin]

end Factory

------------------------------------------------------------
-- Factories by Name
------------------------------------------------------------

/- The registered factories, each under a name. -/
abbrev Factories (κ : Type) := NameMap (Factory κ)

namespace Factories

variable {κ : Type}

/-
  Take up a factory under its name.  A name that is taken is
  refused before anything changes.
-/
def insertUnique
    (fs : Factories κ)
    (f : Factory κ) : Except Violation Unit × Factories κ :=
  if fs.contains f.name then
    (.error (.programRegisteredTwice f.name), fs)
  else
    (.ok (), fs.insert f.name f)

/- Take up factories one by one, until one is refused. -/
def insertAll
    (fs : Factories κ) :
    List (Factory κ) → Except Violation Unit × Factories κ
| [] => (.ok (), fs)
| f :: rest =>
    match fs.insertUnique f with
    | (.error v, fs') => (.error v, fs')
    | (.ok _, fs') => insertAll fs' rest

/- The registered names, in ascending order. -/
def sortedNames (fs : Factories κ) : List String :=
  fs.names.mergeSort fun a b => !decide (b < a)

end Factories

------------------------------------------------------------
-- The Registry of a Process
------------------------------------------------------------

/-
  The registry of a process, which holds no factories before
  it is made.
-/
structure Registry (κ : Type) where
  made : Option (Factories κ)
deriving DecidableEq, Repr

namespace Registry

variable {κ : Type}

/- The registry that nothing has asked for. -/
def untouched : Registry κ :=
  ⟨none⟩

/- The factories of a registry, which is made if need be. -/
def factories (r : Registry κ) : Except Violation (Factories κ) :=
  match r.made with
  | some fs => .ok fs
  | none =>
      match Factories.insertAll .empty Factory.builtins with
      | (.error v, _) => .error v
      | (.ok _, fs) => .ok fs

/- What the factories answer; the registry is made from then on. -/
def ask
    {α : Type}
    (r : Registry κ)
    (question : Factories κ → α) :
    Except Violation α × Registry κ :=
  match r.factories with
  | .error v => (.error v, r)
  | .ok fs => (.ok (question fs), ⟨some fs⟩)

/-
  Register a factory under its name, which must be free.  If
  it is not, then the registry has been made all the same.
-/
def register
    (r : Registry κ)
    (f : Factory κ) : Except Violation Unit × Registry κ :=
  match r.factories with
  | .error v => (.error v, r)
  | .ok fs =>
      let (outcome, fs') := fs.insertUnique f
      (outcome, ⟨some fs'⟩)

/- The factory registered under a name. -/
def find?
    (r : Registry κ)
    (name : String) :
    Except Violation (Option (Factory κ)) × Registry κ :=
  r.ask (·.get? name)

/- Whether a name is registered. -/
def isRegistered
    (r : Registry κ)
    (name : String) : Except Violation Bool × Registry κ :=
  r.ask (·.contains name)

/- The registered names, in ascending order. -/
def names
    (r : Registry κ) :
    Except Violation (List String) × Registry κ :=
  r.ask (·.sortedNames)

end Registry

------------------------------------------------------------
-- Making Programs
------------------------------------------------------------

/-
  What a constructor of a host does until it answers with a
  program or fails: it works on the store, registers factories
  and is told whether they were refused, and looks at those
  that are registered.  If it has another constructor make a
  program, then the steps of that one are among its own.
-/
inductive Construction (κ : Type) where
| finish (outcome : Except Violation Program)
| work
    (change : Store → Store)
    (next : Store → Construction κ)
| register
    (f : Factory κ)
    (next : Except Violation Unit → Construction κ)
| look (next : Factories κ → Construction κ)

/- The constructors of a host by their keys. -/
abbrev Host (κ : Type) := κ → Construction κ

/- A host without constructors. -/
def Host.none : Host Empty :=
  fun k => nomatch k

variable {κ : Type}

/-
  Run a constructor.  It sees the store and the registry as
  they are at each step, and what it did stays done, also
  when it fails.
-/
def Construction.run :
    Construction κ → Registry κ → Store →
      Except Violation Program × Registry κ × Store
| finish outcome, r, s => (outcome, r, s)
| work change next, r, s => (next s).run r (change s)
| register f next, r, s =>
    let (outcome, r') := r.register f
    (next outcome).run r' s
| look next, r, s =>
    match r.ask id with
    | (.error v, r') => (.error v, r', s)
    | (.ok fs, r') => (next fs).run r' s

/- A new program of a factory. -/
def Factory.make
    (host : Host κ)
    (f : Factory κ)
    (r : Registry κ)
    (s : Store) : Except Failure Program × Registry κ × Store :=
  match f.builder with
  | .builtin =>
      let (outcome, s') := (Program.closure default).run s
      (outcome, r, s')
  | .host k =>
      let (outcome, r', s') := (host k).run r s
      (outcome.mapError .violation, r', s')

/-
  A new program of the factory with a name, if there is one.
  The search is over before the constructor runs.
-/
def Registry.make?
    (host : Host κ)
    (r : Registry κ)
    (name : String)
    (s : Store) :
    Except Failure (Option Program) × Registry κ × Store :=
  match r.find? name with
  | (.error v, r') => (.error (.violation v), r', s)
  | (.ok none, r') => (.ok none, r', s)
  | (.ok (some f), r') =>
      let (outcome, r'', s') := f.make host r' s
      (outcome.map some, r'', s')

end FactStore
