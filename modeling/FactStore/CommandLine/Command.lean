/-
  This file defines what the arguments of the command line
  can ask for.  How they are read is left to a package, which
  is a parameter of the command line and may end it at once.

  Key definitions include:
    * `RunOptions`
    * `Command`
    * `Invocation`
    * `ArgumentPackage`
-/

namespace FactStore

------------------------------------------------------------
-- Commands
------------------------------------------------------------

/- What the options of a run say. -/
structure RunOptions where
  inputDirectory : Option String := none
  outputDirectory : Option String := none
  threads : Option Nat := none
  stratum : Option Nat := none
  dump : Bool := false
deriving DecidableEq, Repr

/- What the command line asks for. -/
inductive Command where
| list
| describe (program : String)
| run (program : String) (options : RunOptions)
deriving DecidableEq, Repr

/- A command with the configuration file that was named. -/
structure Invocation where
  config : Option String
  command : Command
deriving DecidableEq, Repr

------------------------------------------------------------
-- Packages That Read Arguments
------------------------------------------------------------

/- An end without a command: its exit code, and what is printed. -/
structure Exit where
  code : Nat
  printed : String
deriving DecidableEq, Repr

/- A package that reads the arguments of the command line. -/
abbrev ArgumentPackage := List String → Except Exit Invocation

end FactStore
