import FactStore.Settings

/-
  This file defines how the log is set up: by the filter that
  the environment gives, else by the level of the settings,
  else by a fixed one.  How a filter is read is left to a
  package, which is a parameter here.

  Key definitions include:
    * `LogPackage`
    * `LoggingSettings.start`
-/

namespace FactStore

/-
  A package that reads filters of the log: from the variables
  of the environment, from a text that must be right, and from
  one whose faults are passed over.  Each step may break a
  contract.
-/
structure LogPackage where
  Filter : Type
  fromEnvironment : Environment → Except Violation (Option Filter)
  fromText : String → Except Violation (Option Filter)
  ofText : String → Except Violation Filter

/- How the log is written: what is let through, and in what form. -/
structure LogPackage.Setup (package : LogPackage) where
  filter : package.Filter
  json : Bool

/- Set the log up as the environment and the settings say. -/
def LoggingSettings.start
    (package : LogPackage)
    (settings : LoggingSettings)
    (environment : Environment) :
    Except Violation package.Setup := do
  let filter ←
    match ← package.fromEnvironment environment with
    | some filter => pure filter
    | none =>
        match ← package.fromText settings.level with
        | some filter => pure filter
        | none => package.ofText "info"
  return ⟨filter, settings.format = "json"⟩

end FactStore
