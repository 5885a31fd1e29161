/-
  Words: which characters belong to them and where one ends.

  A word boundary lies between a word character and anything that is none, the ends of the line
  included.  `startsWithWord` asks for a keyword at the beginning of a line with a boundary right
  behind it, so a keyword that itself ends in a non-word character needs a word character next.
-/

import SourceWeaver.Text.WordTable

namespace SourceWeaver.Text

/-- Whether a code point lies in one of the ranges of an increasing table. -/
def inRanges : List (Nat × Nat) → Nat → Bool
  | [], _ => false
  | (low, high) :: rest, n => if n < low then false else n ≤ high || inRanges rest n

/-- Letters, marks, decimal digits, connecting punctuation and joiners. -/
def isWordChar (c : Char) : Bool :=
  if c.toNat < 0x80 then c.isAlphanum || c == '_' else inRanges wordRanges c.toNat

/-- Whether the end of a text, if it has one, is a word character. -/
def endsInWord (cs : List Char) : Bool :=
  cs.getLast?.any isWordChar

/-- Whether the beginning of a text, if it has one, is a word character. -/
def beginsInWord (cs : List Char) : Bool :=
  cs.head?.any isWordChar

/-- Whether a line begins with a keyword that a word boundary follows. -/
def startsWithWord (line keyword : String) : Bool :=
  match keyword.toList.isPrefixOf? line.toList with
  | some rest => endsInWord keyword.toList != beginsInWord rest
  | none => false

end SourceWeaver.Text
