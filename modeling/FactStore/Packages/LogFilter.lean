import FactStore.Logging
import FactStore.Number.BinaryFloat
import FactStore.Packages.LogFilter.Pattern
import FactStore.Text.Cut

/-
  This file defines a package that reads filters of the log:
  directives between commas, each of which names a level, and
  where it holds.  The parts of a directive are found in its
  text without the blanks around it, but are cut from the text
  with them, and so can split a character behind a blank.

  Key definitions include:
    * `LogFilter.Level`, `LogFilter.Level.ofText?`
    * `LogFilter.Directive`
    * `LogFilter.directive`
    * `LogFilter.ofText?`
    * `LogFilter.package`
-/

namespace FactStore

namespace LogFilter

------------------------------------------------------------
-- Levels
------------------------------------------------------------

/- How much is logged. -/
inductive Level where
| off
| error
| warn
| info
| debug
| trace
deriving DecidableEq, Repr

namespace Level

/- The levels in the order of their numbers. -/
def all : List Level :=
  [off, error, warn, info, debug, trace]

/- The name of a level. -/
def name : Level → String
| off => "off"
| error => "error"
| warn => "warn"
| info => "info"
| debug => "debug"
| trace => "trace"

/- A level by its number or by its name in any case. -/
def ofText? (cs : List Char) : Option Level :=
  match Integer.readUnsigned (Integer.unsignedMax 64) cs with
  | .ok n => all[n]?
  | .error _ =>
      all.find? fun l => l.name.toList = cs.map Char.toLower

end Level

------------------------------------------------------------
-- Directives
------------------------------------------------------------

/-
  What a field has to be: its name, and the number, truth
  value or pattern that its value is matched with.
-/
structure Field where
  name : List Char
  value : Option (List Char)
deriving DecidableEq, Repr

/- A level, and the target, span and field it is for. -/
structure Directive where
  level : Level := .trace
  target : Option (List Char) := none
  span : Option (List Char) := none
  field : Option Field := none
deriving DecidableEq, Repr

/-
  Why a directive is not read: it has no form of one, or a
  part that is cut from it splits a character.
-/
inductive Refusal where
| formless
| violated (v : Violation)
deriving DecidableEq, Repr

/- The part of a text from a byte on, up to another if given. -/
def part
    (whole : List Char)
    (start : Nat)
    (stop : Option Nat) : Except Refusal (List Char) :=
  let cut :=
    match stop with
    | none => Text.cutFrom start whole
    | some stop => Text.cut start stop whole
  cut.mapError .violated

/-
  The first of some signs in a text that starts at a byte,
  with its own byte and what stands behind it.
-/
def find?
    (signs : List Char) :
    Nat → List Char → Option (Char × Nat × List Char)
| _, [] => none
| start, c :: cs =>
    if c ∈ signs then some (c, start, cs)
    else find? signs (start + c.utf8Size) cs

------------------------------------------------------------
-- Parts of Directives
------------------------------------------------------------

/- Whether a text can be what a field is matched with. -/
def isValue (cs : List Char) : Bool :=
  (BinaryFormat.double.read cs).toOption.isSome ||
    Pattern.isPattern cs

/-
  A field: a name, and a value behind an equality sign.  Of
  more equality signs the second ends the value.
-/
def field (cs : List Char) : Except Refusal Field :=
  match cs.splitOnP (· = '=') with
  | name :: value :: _ =>
      if isValue value then .ok ⟨name, some value⟩
      else .error .formless
  | _ => if cs.isEmpty then .error .formless else .ok ⟨cs, none⟩

/- The level behind an equality sign; none is the greatest. -/
def level
    (whole : List Char)
    (start : Nat) : Except Refusal Level := do
  let text ← part whole start none
  if text.isEmpty then return .trace
  match Level.ofText? text with
  | some l => return l
  | none => throw .formless

/- The rest of a directive behind a bracket that was closed. -/
def afterSpan
    (whole : List Char)
    (d : Directive)
    (start : Nat) : List Char → Except Refusal Directive
| [] => .ok d
| '=' :: _ =>
    (level whole (start + 1)).map fun l => { d with level := l }
| _ => .error .formless

/- The rest of a directive behind a brace that was opened. -/
def afterBrace
    (whole : List Char)
    (d : Directive)
    (start : Nat)
    (cs : List Char) : Except Refusal Directive := do
  match find? ['\x7d'] start cs with
  | none => throw .formless
  | some (_, stop, rest) =>
      let f ← field (← part whole start (some stop))
      match rest with
      | ']' :: rest =>
          afterSpan whole { d with field := some f } (stop + 2) rest
      | _ => throw .formless

/-
  The rest of a directive behind a bracket that was opened:
  the name of a span, and a field in braces.
-/
def afterBracket
    (whole : List Char)
    (d : Directive)
    (start : Nat)
    (cs : List Char) : Except Refusal Directive := do
  match find? [']', '\x7b'] start cs with
  | none => throw .formless
  | some (sign, stop, rest) =>
      let name ← part whole start (some stop)
      if sign = ']' then
        afterSpan whole { d with span := some name } (stop + 1) rest
      else
        let span := if name.isEmpty then none else some name
        afterBrace whole { d with span := span } (stop + 1) rest

------------------------------------------------------------
-- Whole Directives
------------------------------------------------------------

/- Whether a character can start a level or a target. -/
def isStart (c : Char) : Bool :=
  c = '-' || c = ':' || c = '_' || Text.isWordChar c

/- A directive that is only a level, or only a target. -/
def ofName (name : List Char) : Directive :=
  match Level.ofText? name with
  | some l => { level := l }
  | none => { target := some name }

/-
  A directive: a level, or a target, a span and a field with
  their level.  There is no comma in its text.
-/
def directive (whole : List Char) : Except Refusal Directive := do
  match Text.trim whole with
  | [] => throw .formless
  | '[' :: cs => afterBracket whole {} 1 cs
  | c :: cs =>
      if !isStart c then throw .formless
      match find? ['=', '['] 0 (c :: cs) with
      | none => return ofName whole
      | some (sign, stop, rest) =>
          let target ← part whole 0 (some stop)
          let d := { target := some target }
          if sign = '=' then
            return { d with level := ← level whole (stop + 1) }
          else
            afterBracket whole d (stop + 1) rest

------------------------------------------------------------
-- Filters
------------------------------------------------------------

/- The texts of the directives of a filter. -/
def texts (filter : String) : List (List Char) :=
  (filter.toList.splitOnP (· = ',')).filter fun t => !t.isEmpty

/- The directives of a text, if each of them has the form of one. -/
def ofText?
    (text : String) :
    Except Violation (Option (List Directive)) :=
  match (texts text).mapM directive with
  | .ok directives => .ok (some directives)
  | .error .formless => .ok none
  | .error (.violated v) => .error v

/- Directives one by one; those without the form are left out. -/
def ofTexts :
    List (List Char) → Except Violation (List Directive)
| [] => .ok []
| text :: rest =>
    match directive text with
    | .ok d => (ofTexts rest).map (d :: ·)
    | .error .formless => ofTexts rest
    | .error (.violated v) => .error v

/- The variable whose text is a filter. -/
def variableName : String := "RUST_LOG"

/- The package that reads filters of directives. -/
def package : LogPackage where
  Filter := List Directive
  fromEnvironment := fun environment =>
    match environment.lookup variableName with
    | none => .ok none
    | some text => ofText? text
  fromText := ofText?
  ofText := fun text => ofTexts (texts text)

end LogFilter

end FactStore
