/-
  Quoted text, as settings are shown in messages.

  A quoted text stands between double quotes.  Quotes and backslashes get a backslash, the four
  common controls a letter, and every other character without a printed shape of its own its code
  point in lower-case hexadecimal between braces.
-/

import SourceWeaver.Text.Word
import SourceWeaver.Text.UnprintedTable

namespace SourceWeaver.Text

/-- Whether a character stands for itself in quoted text. -/
def isPrinted (c : Char) : Bool :=
  0x20 ≤ c.toNat && !inRanges unprintedRanges c.toNat

/-- The escape for a character that is not shown as itself. -/
def codePointEscape (c : Char) : List Char :=
  ['\\', 'u', '\x7b'] ++ Nat.toDigits 16 c.toNat ++ ['\x7d']

/-- One character of quoted text. -/
def quoteChar (c : Char) : List Char :=
  if c = '\x00' then ['\\', '0']
  else if c = '\t' then ['\\', 't']
  else if c = '\r' then ['\\', 'r']
  else if c = '\n' then ['\\', 'n']
  else if c = '"' then ['\\', '"']
  else if c = '\\' then ['\\', '\\']
  else if isPrinted c then [c]
  else codePointEscape c

/-- A text between double quotes, with everything escaped that would not show. -/
def quote (s : String) : String :=
  String.ofList ('"' :: s.toList.flatMap quoteChar ++ ['"'])

end SourceWeaver.Text
