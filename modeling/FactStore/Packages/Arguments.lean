import FactStore.CommandLine.Command
import FactStore.Number.Integer

/-
  This file defines a package that reads the arguments of the
  command line: options with a short and a long name, flags,
  and the command with its operands.

  Key definitions include:
    * `Arguments.Reading`
    * `Arguments.parse`
    * `Arguments.package`
-/

namespace FactStore

namespace Arguments

/-
  The outcome of reading the arguments: a command with the
  configuration file that was named, one of two texts about
  the program itself, or arguments that make no sense.
-/
inductive Reading where
| command (config : Option String) (c : Command)
| version
| help
| misuse
deriving DecidableEq, Repr

------------------------------------------------------------
-- Options
------------------------------------------------------------

/- The options and flags. -/
inductive Name where
| config
| inputDirectory
| outputDirectory
| threads
| stratum
| dump
| version
| help
deriving DecidableEq, Repr

/- Flags stand alone, options are followed by a value. -/
def Name.takesValue : Name → Bool
| dump => false
| version => false
| help => false
| _ => true

/- The name behind two dashes. -/
def Name.long : Name → String
| config => "config"
| inputDirectory => "input-dir"
| outputDirectory => "output-dir"
| threads => "threads"
| stratum => "stratum"
| dump => "dump"
| version => "version"
| help => "help"

/- The letter behind one dash, if there is one. -/
def Name.short? : Name → Option Char
| config => some 'c'
| inputDirectory => some 'F'
| outputDirectory => some 'D'
| threads => some 'j'
| stratum => none
| dump => none
| version => some 'V'
| help => some 'h'

/- The options that may stand before the command. -/
def topNames : List Name :=
  [.config, .help, .version]

/- The options that may follow the commands without own ones. -/
def plainNames : List Name :=
  [.config, .help]

/- The options that may follow the command to run a program. -/
def runNames : List Name :=
  [.inputDirectory, .outputDirectory, .threads, .stratum,
    .dump, .config, .help]

/- One argument, seen for itself. -/
inductive Argument where
| option (name : Name) (attached : Option String)
| operand (text : String)
| escape
| unknown
deriving DecidableEq, Repr

/- A value behind an equals sign. -/
def attachedLong (cs : List Char) : Option String :=
  match cs.dropWhile (· ≠ '=') with
  | [] => none
  | _ :: value => some (String.ofList value)

/- A value behind an option's letter, with or without a sign. -/
def attachedShort : List Char → Option String
| [] => none
| '=' :: value => some (String.ofList value)
| value => some (String.ofList value)

/- What an argument is where so many options are known. -/
def classify
    (names : List Name)
    (argument : String) : Argument :=
  match argument.toList with
  | ['-', '-'] => .escape
  | '-' :: '-' :: cs =>
      let name := String.ofList (cs.takeWhile (· ≠ '='))
      match names.find? fun n => n.long = name with
      | some n => .option n (attachedLong cs)
      | none => .unknown
  | '-' :: c :: cs =>
      match names.find? fun n => n.short? = some c with
      | some n => .option n (attachedShort cs)
      | none => .unknown
  | _ => .operand argument

------------------------------------------------------------
-- Values
------------------------------------------------------------

/- The values of the options that were given. -/
structure Given where
  config : Option String := none
  options : RunOptions := {}
deriving DecidableEq, Repr

/- A path, which must not be empty. -/
def path? (text : String) : Option String :=
  if text = "" then none else some text

/- A size that fits into a machine word. -/
def size? (text : String) : Option Nat :=
  (Integer.readUnsigned
    (Integer.unsignedMax 64) text.toList).toOption

/- Take a value for what has none yet. -/
def once
    {α : Type}
    (known : Option α)
    (value : Option α) : Option (Option α) :=
  match known, value with
  | none, some v => some (some v)
  | _, _ => none

/- Take the value of an option, which is given only once. -/
def Given.take
    (g : Given)
    (name : Name)
    (value : String) : Option Given :=
  let o := g.options
  match name with
  | .config =>
      (once g.config (path? value)).map fun config =>
        { g with config }
  | .inputDirectory =>
      (once o.inputDirectory (path? value)).map
        fun inputDirectory =>
          { g with options := { o with inputDirectory } }
  | .outputDirectory =>
      (once o.outputDirectory (path? value)).map
        fun outputDirectory =>
          { g with options := { o with outputDirectory } }
  | .threads =>
      (once o.threads (size? value)).map fun threads =>
        { g with options := { o with threads } }
  | .stratum =>
      (once o.stratum (size? value)).map fun stratum =>
        { g with options := { o with stratum } }
  | _ => none

/- Take a flag, which is given only once. -/
def Given.raise
    (g : Given)
    (name : Name) : Option Given :=
  match name with
  | .dump =>
      if g.options.dump then none
      else some { g with options := { g.options with dump := true } }
  | _ => none

------------------------------------------------------------
-- Arguments behind a Command
------------------------------------------------------------

/- What the arguments behind a command come to. -/
inductive Outcome where
| done (given : Given) (operands : List String)
| help
| misuse
deriving DecidableEq, Repr

/-
  The value that follows an option: any argument that does
  not start with a dash, and a dash that stands alone.
-/
def isValue (argument : String) : Bool :=
  argument = "-" || argument.toList.head? ≠ some '-'

/- Whether a flag is wrongly followed by a value. -/
def spoiled
    (argument : String)
    (attached : Option String) : Bool :=
  attached.isSome && argument.toList.take 2 = ['-', '-']

/-
  Read options and operands.  Behind two dashes everything
  is an operand.  An option without its value is misuse, and
  so is an operand for which there is no more room.
-/
def scan
    (names : List Name)
    (room : Nat) :
    List String → Given → List String → Outcome
| [], g, operands => .done g operands
| argument :: rest, g, operands =>
    match classify names argument with
    | .escape => .done g (operands ++ rest)
    | .unknown => .misuse
    | .operand text =>
        if operands.length < room then
          scan names room rest g (operands ++ [text])
        else .misuse
    | .option name attached =>
        if name.takesValue then
          match attached with
          | some value =>
              match g.take name value with
              | some g' => scan names room rest g' operands
              | none => .misuse
          | none =>
              match rest with
              | [] => .misuse
              | value :: rest' =>
                  if isValue value then
                    match g.take name value with
                    | some g' => scan names room rest' g' operands
                    | none => .misuse
                  else .misuse
        else if spoiled argument attached then .misuse
        else if name = .help then .help
        else
          match g.raise name with
          | some g' => scan names room rest g' operands
          | none => .misuse

/- A command with its options and so many operands. -/
def behind
    (config : Option String)
    (names : List Name)
    (room : Nat)
    (command : List String → RunOptions → Command)
    (arguments : List String) : Reading :=
  match scan names room arguments {} [] with
  | .misuse => .misuse
  | .help => .help
  | .done g operands =>
      if operands.length = room then
        .command (g.config.or config) (command operands g.options)
      else .misuse

/- The commands that there is help about. -/
def topics : List String :=
  ["list", "describe", "run", "help"]

/- The help about a command, or about all without one. -/
def helpAbout : List String → Reading
| [] => .help
| [topic] => if topic ∈ topics then .help else .misuse
| _ => .misuse

/- The command of a name, applied to the arguments behind it. -/
def command
    (config : Option String)
    (name : String)
    (arguments : List String) : Reading :=
  if name = "list" then
    behind config plainNames 0 (fun _ _ => .list) arguments
  else if name = "describe" then
    behind config plainNames 1
      (fun operands _ => .describe (operands.headD "")) arguments
  else if name = "run" then
    behind config runNames 1
      (fun operands o => .run (operands.headD "") o) arguments
  else if name = "help" then helpAbout arguments
  else .misuse

------------------------------------------------------------
-- All Arguments
------------------------------------------------------------

/-
  Read all arguments: options first, then a command.  The
  configuration file may be named on either side of the
  command; behind it has the last word.
-/
def parseFrom
    (config : Option String) :
    List String → Reading
| [] => .misuse
| argument :: rest =>
    match classify topNames argument with
    | .operand name => command config name rest
    | .option .config attached =>
        match attached with
        | some value =>
            match once config (path? value) with
            | some config' => parseFrom config' rest
            | none => .misuse
        | none =>
            match rest with
            | [] => .misuse
            | value :: rest' =>
                if isValue value then
                  match once config (path? value) with
                  | some config' => parseFrom config' rest'
                  | none => .misuse
                else .misuse
    | .option name attached =>
        if spoiled argument attached then .misuse
        else if name = .version then .version
        else .help
    | _ => .misuse

/- Read the arguments of the command line. -/
def parse (arguments : List String) : Reading :=
  parseFrom none arguments

/- The name and version of the program. -/
def versionText : String := "factlayer 0.1.0\n"

/- The package that prints a given text about the usage. -/
def package (usage : String) : ArgumentPackage :=
  fun arguments =>
    match parse arguments with
    | .command config c => .ok ⟨config, c⟩
    | .version => .error ⟨0, versionText⟩
    | .help => .error ⟨0, usage⟩
    | .misuse => .error ⟨2, ""⟩

end Arguments

end FactStore
