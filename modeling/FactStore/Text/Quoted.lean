import FactStore.Text.Blank
import FactStore.Text.Invisible

/-
  This file defines quoted text: a text between double
  quotes in which every character can be seen.

  Key definitions include:
    * `Text.escape`
    * `Text.quoted`
-/

namespace FactStore

namespace Text

------------------------------------------------------------
-- Escapes
------------------------------------------------------------

/- The escape that names a character by its number. -/
def numbered (c : Char) : List Char :=
  ['\\', 'u', '\x7b'] ++ Nat.toDigits 16 c.toNat ++ ['\x7d']

/-
  The form of one character in quoted text: quotes,
  backslashes and four controls have an escape of their own,
  other characters that cannot be seen are numbered.
-/
def escape (c : Char) : List Char :=
  if c = '\x00' then ['\\', '0']
  else if c = '\t' then ['\\', 't']
  else if c = '\n' then ['\\', 'n']
  else if c = '\r' then ['\\', 'r']
  else if c = '\\' then ['\\', '\\']
  else if c = '"' then ['\\', '"']
  else if 0x20 ≤ c.toNat ∧ c.toNat < 0x7F then [c]
  else if inRanges extendingRanges c.toNat then numbered c
  else if inRanges invisibleRanges c.toNat then numbered c
  else [c]

/- A text between double quotes, with all escapes written out. -/
def quoted (s : String) : String :=
  String.ofList ('"' :: (s.toList.flatMap escape ++ ['"']))

end Text

end FactStore
