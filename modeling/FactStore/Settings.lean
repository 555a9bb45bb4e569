import FactStore.FileTree
import FactStore.Violation

/-
  This file defines the settings of a program run with their
  defaults, and the sources that they are taken from: files
  and the environment, each over those before it.  How values
  are read, merged and turned into settings is left to a
  package, which is a parameter here.

  Key definitions include:
    * `ProgramSettings`, `LoggingSettings`, `Settings`
    * `ConfigPackage`
    * `Settings.ofText`, `Settings.ofFile`, `Settings.load`
    * `Settings.Refused`
    * `ConfigPackage.SkipsMissing`
-/

namespace FactStore

------------------------------------------------------------
-- Settings
------------------------------------------------------------

/- The settings handed to a program before it runs. -/
structure ProgramSettings where
  inputDirectory : String := "."
  outputDirectory : String := "."
  threads : Nat := 1
  stratum : Option Nat := none
deriving DecidableEq, Repr

/- The settings of the log. -/
structure LoggingSettings where
  level : String := "info"
  format : String := "text"
deriving DecidableEq, Repr

/- All settings. -/
structure Settings where
  program : ProgramSettings := {}
  logging : LoggingSettings := {}
deriving DecidableEq, Repr

------------------------------------------------------------
-- Packages That Read Settings
------------------------------------------------------------

/- The variables of an environment with their texts. -/
abbrev Environment := List (String × String)

/-
  A package that reads settings.  It merges a document, a file
  or the variables whose names have a prefix over what is
  there, and extracts settings from the whole, or says why
  they are refused.  Names of variables are cut at a separator.
  Every step may break a contract.
-/
structure ConfigPackage where
  Merged : Type
  start : Merged
  text : String → Merged → Except Violation Merged
  file : FileTree → String → Merged → Except Violation Merged
  environment :
    String → String → Environment → Merged →
      Except Violation Merged
  extract : Merged → Except Violation (Except String Settings)

namespace Settings

/- The prefix of the variables that are read. -/
def variablePrefix : String := "FACTLAYER_"

/- What stands between the keys in a variable's name. -/
def keySeparator : String := "__"

/- The files that settings are loaded from unless one is given. -/
def defaultFiles : List String :=
  ["factlayer.toml", "factlayer.local.toml"]

variable (package : ConfigPackage)

/- The settings that were merged, if they are not refused. -/
def extract (merged : package.Merged) : Except Failure Settings :=
  match package.extract merged with
  | .error v => .error (.violation v)
  | .ok (.error reason) => .error (.error (.config reason))
  | .ok (.ok settings) => .ok settings

/- The settings of a document without any other source. -/
def ofText (content : String) : Except Failure Settings :=
  match package.text content package.start with
  | .error v => .error (.violation v)
  | .ok merged => extract package merged

/- Files and then the environment, each over those before it. -/
def merge
    (files : FileTree)
    (environment : Environment)
    (paths : List String) : Except Violation package.Merged := do
  let known ←
    paths.foldlM (fun known path => package.file files path known)
      package.start
  package.environment variablePrefix keySeparator environment known

/- The settings of files with the environment over them. -/
def ofSources
    (files : FileTree)
    (environment : Environment)
    (paths : List String) : Except Failure Settings :=
  match merge package files environment paths with
  | .error v => .error (.violation v)
  | .ok merged => extract package merged

/- The settings of a file and the environment over it. -/
def ofFile
    (files : FileTree)
    (environment : Environment)
    (path : String) : Except Failure Settings :=
  ofSources package files environment [path]

/- The settings of the working directory. -/
def load
    (files : FileTree)
    (environment : Environment) : Except Failure Settings :=
  ofSources package files environment defaultFiles

/-
  The settings of a file are refused, with the environment
  over it.  A contract that is broken on the way is no refusal.
-/
def Refused
    (files : FileTree)
    (environment : Environment)
    (path : String) : Prop :=
  ∃ e, ofFile package files environment path = .error (.error e)

end Settings

------------------------------------------------------------
-- Missing Files
------------------------------------------------------------

/-
  A path leads to no file, neither from the working directory
  nor from any of those above it, where a package may go on to
  look for it.
-/
def FileTree.Lacks
    (files : FileTree)
    (path : String) : Prop :=
  ∀ up content,
    files.readFrom (FilePath.ancestor up) path ≠ .ok content

/- To a package that skips them, missing files count as empty. -/
def ConfigPackage.SkipsMissing (package : ConfigPackage) : Prop :=
  ∀ files environment before path after,
    files.Lacks path →
      Settings.ofSources package files environment
          (before ++ path :: after) =
        Settings.ofSources package files environment
          (before ++ after)

end FactStore
