import FactStore.CommandLine.Command
import FactStore.Logging
import FactStore.Program.Factory

/-
  This file defines what the command line does: it lists the
  registered programs, describes one, or runs one over the
  files of the working directory.  The packages that read the
  arguments, the settings and the filter of the log are
  parameters.

  Key definitions include:
    * `Report`
    * `CommandLine.Packages`
    * `CommandLine.Result`
    * `CommandLine.describe`
    * `CommandLine.runProgram`
    * `CommandLine.settingsOf`
    * `CommandLine.execute`
-/

namespace FactStore

------------------------------------------------------------
-- Reports
------------------------------------------------------------

/-
  What is reported when a command fails: what was being done,
  and the causes from the outermost to the innermost.
-/
structure Report where
  subject : String
  causes : List String
deriving DecidableEq, Repr

namespace Report

/- A text whose further lines are moved to the right. -/
def indent
    (width : Nat)
    (text : String) : String :=
  let margin := '\n' :: List.replicate width ' '
  String.ofList
    (text.toList.flatMap fun c => if c = '\n' then margin else [c])

/- Causes with their numbers, each on a line. -/
def numbered : Nat → List String → String
| _, [] => ""
| n, cause :: rest =>
    let mark := toString n
    let space := List.replicate (5 - mark.length) ' '
    String.ofList space ++ mark ++ ": " ++ indent 7 cause ++ "\n" ++
      numbered (n + 1) rest

/- The text of a report. -/
def render (r : Report) : String :=
  "Error: " ++ r.subject ++ "\n" ++
    match r.causes with
    | [] => ""
    | [cause] => "\nCaused by:\n    " ++ indent 4 cause ++ "\n"
    | causes => "\nCaused by:\n" ++ numbered 0 causes

/- The causes of an error: one of input or output has a second. -/
def causesOf (e : AccessError) : List String :=
  match e with
  | .io fault => [e.message, fault.message]
  | _ => [e.message]

end Report

namespace CommandLine

------------------------------------------------------------
-- Results
------------------------------------------------------------

/- The packages that the command line is built on. -/
structure Packages where
  arguments : ArgumentPackage
  config : ConfigPackage
  log : LogPackage

/- How a command ends. -/
inductive Ending where
| success
| failed (r : Report)
| violated (v : Violation)
| exited (code : Nat)

/- The ending, what was printed, and the files afterwards. -/
structure Result where
  ending : Ending
  printed : String
  files : FileTree

/- The exit code of an ending. -/
def Ending.code : Ending → Nat
| success => 0
| failed _ => 1
| violated _ => 101
| exited code => code

/- The ending of what failed. -/
def endingOf
    (subject : String) : Failure → Ending
| .error e => .failed ⟨subject, Report.causesOf e⟩
| .violation v => .violated v

------------------------------------------------------------
-- Descriptions
------------------------------------------------------------

/-
  The class of a relation by its name: whether a relation of
  that name is among the inputs, and among the outputs.
-/
def classOf (isInput isOutput : Bool) : String :=
  match isInput, isOutput with
  | true, true => "input+output"
  | true, false => "input"
  | false, true => "output"
  | false, false => "internal"

/- One relation with its signature, class and columns. -/
def describeRelation
    (c : String)
    (r : Relation) : String :=
  let columns :=
    r.schema.attributes.map fun a => a.name ++ ":" ++ a.type.label
  r.name ++ r.schema.signature ++ " " ++ c ++ " (" ++
    ", ".intercalate columns ++ ")\n"

/- All relations of a program, a line for each. -/
def describe (p : Program) : Action String := do
  let s ← get
  let nameOf := fun id => (s.relation id).name
  let inputs := (p.catalog.view .input).map nameOf
  let outputs := (p.catalog.view .output).map nameOf
  let line := fun id =>
    let r := s.relation id
    describeRelation
      (classOf (inputs.contains r.name) (outputs.contains r.name)) r
  return String.join ((p.catalog.view .all).map line)

------------------------------------------------------------
-- Runs
------------------------------------------------------------

/- Run a program as the options and the settings say. -/
def runProgram
    (settings : ProgramSettings)
    (options : RunOptions)
    (p : Program) : Action Unit :=
  let p := { p with threads := options.threads.getD settings.threads }
  p.runAll
    (options.inputDirectory.getD settings.inputDirectory)
    (options.outputDirectory.getD settings.outputDirectory)
    (options.stratum.or settings.stratum)

/-
  Show the inputs of a program and then its outputs.  What was
  shown before a contract is broken stays.
-/
def dump (p : Program) : Action (Except Violation Unit × String) := do
  match ← p.dumpView .input with
  | (.error v, inputs) => return (.error v, inputs)
  | (.ok _, inputs) =>
      let (outcome, outputs) ← p.dumpView .output
      return (outcome, inputs ++ outputs)

/- Run a program, and show its relations if that is asked for. -/
def runAndDump
    (settings : ProgramSettings)
    (options : RunOptions)
    (p : Program) : Action (Except Violation Unit × String) := do
  runProgram settings options p
  if options.dump then dump p else return (.ok (), "")

------------------------------------------------------------
-- Commands
------------------------------------------------------------

variable {κ : Type}
variable (host : Host κ)

/- The result of a question to the registry. -/
def onRegistry
    {α : Type}
    (files : FileTree)
    (answer : Except Violation α)
    (use : α → Result) : Result :=
  match answer with
  | .error v => ⟨.violated v, "", files⟩
  | .ok a => use a

/- The report that no program has a name. -/
def unregistered
    (names : List String)
    (name : String) : Report :=
  ⟨"no program registered under '" ++ name ++ "' (available: " ++
      ", ".intercalate names ++ ")", []⟩

/- An action on a new program, and what it prints. -/
def onProgram
    (registry : Registry κ)
    (files : FileTree)
    (name : String)
    (subject : String)
    (work : Program → Action (Except Violation Unit × String)) :
    Result :=
  match registry.make? host name (Store.ofFiles files) with
  | (.error f, _, s) => ⟨endingOf subject f, "", s.files⟩
  | (.ok none, registry', s) =>
      onRegistry s.files registry'.names.1 fun names =>
        ⟨.failed (unregistered names name), "", s.files⟩
  | (.ok (some p), _, s) =>
      match (work p).run s with
      | (.error f, s') => ⟨endingOf subject f, "", s'.files⟩
      | (.ok (.error v, printed), s') =>
          ⟨.violated v, printed, s'.files⟩
      | (.ok (.ok _, printed), s') => ⟨.success, printed, s'.files⟩

/- Carry out a command under given settings. -/
def perform
    (registry : Registry κ)
    (settings : Settings)
    (files : FileTree) : Command → Result
| .list =>
    onRegistry files registry.names.1 fun names =>
      ⟨.success, String.join (names.map (· ++ "\n")), files⟩
| .describe name =>
    onProgram host registry files name "" fun p =>
      return (.ok (), ← describe p)
| .run name options =>
    onProgram host registry files name
      ("running program '" ++ name ++ "'")
      (runAndDump settings.program options)

variable (packages : Packages)

/-
  The settings of a command.  A named configuration file must
  be right; without one, settings that are refused give way
  to the defaults.
-/
def settingsOf
    (files : FileTree)
    (environment : Environment) :
    Option String → Except Ending Settings
| none =>
    match Settings.load packages.config files environment with
    | .ok settings => .ok settings
    | .error (.violation v) => .error (.violated v)
    | .error (.error _) => .ok {}
| some path =>
    let subject := "loading configuration from " ++ path
    (Settings.ofFile packages.config files environment path).mapError
      (endingOf subject)

/- Set the log up and carry out a command. -/
def logAndPerform
    (registry : Registry κ)
    (settings : Settings)
    (environment : Environment)
    (files : FileTree)
    (c : Command) : Result :=
  match settings.logging.start packages.log environment with
  | .error v => ⟨.violated v, "", files⟩
  | .ok _ => perform host registry settings files c

/- Read the arguments and carry out what they ask for. -/
def execute
    (registry : Registry κ)
    (arguments : List String)
    (environment : Environment)
    (files : FileTree) : Result :=
  match packages.arguments arguments with
  | .error exit => ⟨.exited exit.code, exit.printed, files⟩
  | .ok invocation =>
      match
        settingsOf packages files environment invocation.config with
      | .error ending => ⟨ending, "", files⟩
      | .ok settings =>
          logAndPerform host packages registry settings environment
            files invocation.command

------------------------------------------------------------
-- Files That a Command Needs
------------------------------------------------------------

/- The configuration files that a command looks at. -/
def configFiles (invocation : Invocation) : List String :=
  match invocation.config with
  | some path => [path]
  | none => Settings.defaultFiles

/- The fact files that a program reads or writes in a run. -/
def programFiles
    (settings : ProgramSettings)
    (options : RunOptions)
    (p : Program) : Action (List String) := do
  let s ← get
  let nameOf := fun id => (s.relation id).name
  let input := options.inputDirectory.getD settings.inputDirectory
  let output := options.outputDirectory.getD settings.outputDirectory
  let read :=
    (p.catalog.view .input).map fun id =>
      FilePath.join input (nameOf id ++ ".facts")
  let written :=
    (p.catalog.view .output).map fun id =>
      FilePath.join output (nameOf id ++ ".csv")
  return read ++ written

/-
  The fact files that a command reads or writes, once its
  configuration files are known.
-/
def factFiles
    (registry : Registry κ)
    (environment : Environment)
    (files : FileTree)
    (invocation : Invocation) : List String :=
  match
    invocation.command,
    settingsOf packages files environment invocation.config with
  | .run name options, .ok settings =>
      match registry.make? host name (Store.ofFiles files) with
      | (.ok (some p), _, s) =>
          match (programFiles settings.program options p).run s with
          | (.ok paths, _) => paths
          | (.error _, _) => []
      | _ => []
  | _, _ => []

end CommandLine

end FactStore
