import FactStore.Packages.Config.Environment

/-
  This file defines a package that reads settings.  Documents
  are tables of keys, and so are the variables; a later table
  goes over an earlier one key by key.  Every key that is
  missing has a default, every key that is not known is passed
  over, and a value of the wrong kind is a fault.  A file is
  looked for in the working directory and in those above it.

  Key definitions include:
    * `Config.Fault`
    * `ProgramSettings.ofValue`, `LoggingSettings.ofValue`
    * `Settings.ofValue`
    * `Config.findFile?`
    * `Config.Merged`
    * `Config.package`
-/

namespace FactStore

------------------------------------------------------------
-- Faults
------------------------------------------------------------

namespace Config

/- What a value is wanted as. -/
inductive Wanted where
| size
| path
| text
| programSettings
| loggingSettings
deriving DecidableEq, Repr

/- How a wanted kind is named in a fault. -/
def Wanted.describe : Wanted → String
| size => "usize"
| path => "path string"
| text => "a string"
| programSettings => "struct ProgramConfig"
| loggingSettings => "struct LoggingConfig"

/-
  Why a configuration is refused: a document breaks the rules
  of its format, files hold no text, or a value is not of the
  wanted kind.
-/
inductive Fault where
| malformed
| notText (sources : List Source)
| mismatch
    (source : Source)
    (key : List String)
    (found : String)
    (outOfRange : Bool)
    (wanted : Wanted)
deriving DecidableEq, Repr

/- The text of a configuration fault. -/
def Fault.message : Fault → String
| malformed => "malformed TOML document"
| notText sources =>
    "\n".intercalate
      (sources.map fun source =>
        IoFault.invalidText.message ++ "\n in " ++ source.describe)
| mismatch source key found outOfRange wanted =>
    (if outOfRange then "invalid value " else "invalid type: found ")
      ++ found ++ ", expected " ++ wanted.describe ++ " for key "
      ++ Text.quoted (source.key key) ++ " in " ++ source.describe

/-
  The fault of two documents at fault.  Files that hold no
  text are told together; a malformed one stands for all.
-/
def Fault.join : Fault → Fault → Fault
| notText first, notText second => .notText (first ++ second)
| _, _ => .malformed

------------------------------------------------------------
-- Values of a Wanted Kind
------------------------------------------------------------

/- The fault of a value under a key. -/
def refuse
    {α : Type}
    (key : List String)
    (wanted : Wanted)
    (v : Value) : Except Fault α :=
  let outOfRange :=
    match v with
    | .scalar _ (.signed n) => wanted = .size && n < 0
    | _ => false
  .error (.mismatch v.source key v.describe outOfRange wanted)

/- A value as a size. -/
def size
    (key : List String) : Value → Except Fault Nat
| .scalar source (.signed n) =>
    if 0 ≤ n then .ok n.toNat
    else refuse key .size (.scalar source (.signed n))
| .scalar _ (.unsigned n) => .ok n
| v => refuse key .size v

/- A value as text. -/
def text
    (wanted : Wanted)
    (key : List String) : Value → Except Fault String
| .scalar _ (.text s) => .ok s
| v => refuse key wanted v

/- A value that may be missing, with the key that names it. -/
def given
    {α : Type}
    (read : List String → Value → Except Fault α)
    (missing : α) :
    List String × Option Value → Except Fault α
| (_, none) => .ok missing
| (key, some v) => read key v

/-
  How the fields of a section are found in its value: by name
  in a table, by place in a list.  Each field is found with
  the key under which a fault names it.
-/
def fieldOf
    (title : String)
    (v : Value)
    (place : Nat)
    (name : String) : List String × Option Value :=
  match v with
  | .table _ entries => ([title, name], entries.lookup name)
  | .list _ items => ([title, toString place], items[place]?)
  | .scalar _ _ => ([title], none)

end Config

------------------------------------------------------------
-- Settings of a Value
------------------------------------------------------------

open Config (Value Fault Source)

/-
  The section of a program.  Its fields are read in the order
  of their places in a list, and of their names in a table.
-/
def ProgramSettings.ofValue
    (v : Value) : Except Fault ProgramSettings :=
  let field := Config.fieldOf "program" v
  let input := Config.given (Config.text .path) "." (field 0 "input_dir")
  let output :=
    Config.given (Config.text .path) "." (field 1 "output_dir")
  let threads := Config.given Config.size 1 (field 2 "num_threads")
  let stratum :=
    Config.given (fun key v => (Config.size key v).map some) none
      (field 3 "stratum")
  match v with
  | .scalar _ _ =>
      Config.refuse ["program"] .programSettings v
  | .list _ _ =>
      return ⟨← input, ← output, ← threads, ← stratum⟩
  | .table _ _ => do
      let input ← input
      let threads ← threads
      return ⟨input, ← output, threads, ← stratum⟩

/-
  The section of the log, read in the same order as that of a
  program.
-/
def LoggingSettings.ofValue
    (v : Value) : Except Fault LoggingSettings :=
  let field := Config.fieldOf "logging" v
  let level := Config.given (Config.text .text) "info" (field 0 "level")
  let format :=
    Config.given (Config.text .text) "text" (field 1 "format")
  match v with
  | .scalar _ _ =>
      Config.refuse ["logging"] .loggingSettings v
  | .list _ _ => return ⟨← level, ← format⟩
  | .table _ _ => do
      let format ← format
      return ⟨← level, format⟩

/-
  The settings of a configuration.  Of several faults that of
  the first key in the order of names is the answer.
-/
def Settings.ofValue (v : Value) : Except Fault Settings := do
  let entries :=
    match v with
    | .table _ entries => entries
    | _ => []
  let log ←
    match entries.lookup "logging" with
    | some v => LoggingSettings.ofValue v
    | none => .ok {}
  let run ←
    match entries.lookup "program" with
    | some v => ProgramSettings.ofValue v
    | none => .ok {}
  return { program := run, logging := log }

namespace Config

------------------------------------------------------------
-- Files
------------------------------------------------------------

/-
  The path of the directory so many steps above the working
  directory, which is given by the names on the way to it.
-/
def ancestorPath
    (directory : List String)
    (up : Nat) : String :=
  "/" ++ "/".intercalate (directory.take (directory.length - up))

/- Whether a path is short enough to be followed from there. -/
def fits
    (directory : List String)
    (up : Nat)
    (path : String) : Bool :=
  (FilePath.join (ancestorPath directory up) path).utf8ByteSize ≤
    FilePath.pathLimit

/-
  The file of a path in the working directory, or else in the
  nearest one above it, with the number of steps up to it.
-/
def findFile?
    (directory : List String)
    (files : FileTree)
    (path : String) : Option (Nat × ByteArray) :=
  (List.range (directory.length + 1)).findSome? fun up =>
    if fits directory up path then
      (files.readFrom (FilePath.ancestor up) path).toOption.map
        fun content => (up, content)
    else none

/- The name of a file that was found so many steps up. -/
def nameOf
    (up : Nat)
    (path : String) : String :=
  String.join (List.replicate up "../") ++ FilePath.shorten path

------------------------------------------------------------
-- Merging Sources
------------------------------------------------------------

/- What sources give: a value, unless one of them is at fault. -/
abbrev Merged := Except Fault Value

/-
  One more source over those before it.  Faults are told
  together.
-/
def Merged.add : Merged → Except Fault Value → Merged
| .ok known, .ok v => .ok (known.merge v)
| .ok _, .error fault => .error fault
| .error fault, .ok _ => .error fault
| .error first, .error second => .error (first.join second)

/- The values of a document. -/
def document
    (source : Source)
    (content : String) : Except Fault Value :=
  match Value.ofDocument? source content with
  | some v => .ok v
  | none => .error .malformed

/- The values of a file that was found. -/
def fileValues
    (source : Source)
    (content : ByteArray) : Except Fault Value :=
  match String.fromUTF8? content with
  | some text => document source text
  | none => .error (.notText [source])

/- A file over the sources before it; a missing one adds nothing. -/
def Merged.addFile
    (directory : List String)
    (files : FileTree)
    (path : String)
    (known : Merged) : Merged :=
  match findFile? directory files path with
  | none => known
  | some (up, content) =>
      known.add (fileValues (.file (nameOf up path)) content)

/-
  The package in a process whose working directory is at the
  end of the given names.
-/
def package (directory : List String) : ConfigPackage where
  Merged := Merged
  start := .ok (.table .text [])
  text := fun content known =>
    .ok (known.add (document .text content))
  file := fun files path known =>
    .ok (known.addFile directory files path)
  environment := fun start separator environment known =>
    (Environment.table start separator environment).map
      fun v => known.add (.ok v)
  extract := fun known =>
    .ok ((known.bind Settings.ofValue).mapError Fault.message)

end Config

end FactStore
