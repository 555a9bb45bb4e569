import FactStore.CommandLine
import FactStore.Packages.Arguments
import FactStore.Packages.Config.Reader
import FactStore.Packages.LogFilter

/-
  This file puts together packages that the command line can
  be run with.

  Key definitions include:
    * `CommandLine.Packages.standard`
-/

namespace FactStore

/-
  The packages of a process whose working directory is at the
  end of the given names, and that prints a given text about
  the usage.
-/
def CommandLine.Packages.standard
    (directory : List String)
    (usage : String) : CommandLine.Packages where
  arguments := Arguments.package usage
  config := Config.package directory
  log := LogFilter.package

end FactStore
