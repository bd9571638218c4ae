import BlockPilot.Text.Lowercase
import BlockPilot.Text.Quoted.Table

/-!
# Quoted text

A text between double quotes, as messages show it: quotes, backslashes and the usual controls are
written with a backslash, and a character that is not shown by itself by its code point.
-/

namespace BlockPilot.Text

/-- The digits of `n` in base 16, in lower case. -/
def hexText (n : Nat) : List Char :=
  Nat.toDigits 16 n

/-- The characters by which quoted text shows one character. -/
def quoteChar (c : Char) : List Char :=
  if c = '"' then ['\\', '"']
  else if c = '\\' then ['\\', '\\']
  else if c = '\n' then ['\\', 'n']
  else if c = '\r' then ['\\', 'r']
  else if c = '\t' then ['\\', 't']
  else if c = '\x00' then ['\\', '0']
  else if inRanges hiddenRanges c.toNat then
    ['\\', 'u', '\x7b'] ++ hexText c.toNat ++ ['\x7d']
  else [c]

/-- The text between double quotes. -/
def quoted (s : String) : String :=
  String.ofList ('"' :: s.toList.flatMap quoteChar ++ ['"'])

end BlockPilot.Text
