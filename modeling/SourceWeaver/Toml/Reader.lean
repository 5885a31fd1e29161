/-
  Readers: partial functions that take something off the beginning of a text.

  A reader answers what it has read and the rest of the text, or nothing; `<|>` tries a second
  reader on the same text.  Repetition is bounded by the characters of the text, of which each
  reading is to take at least one.
-/

namespace SourceWeaver.Toml

/-- Takes a value off the beginning of a text. -/
abbrev Reader := StateT (List Char) Option

namespace Reader

/-- One character with some property. -/
def satisfying (p : Char → Bool) : Reader Char
  | c :: rest => if p c then some (c, rest) else none
  | [] => none

/-- One given character. -/
def char (c : Char) : Reader Unit :=
  discard (satisfying (· == c))

/-- A given text. -/
def word (w : String) : Reader Unit := fun s =>
  (w.toList.isPrefixOf? s).map ((), ·)

/-- All characters up to the first without some property. -/
def takingWhile (p : Char → Bool) : Reader (List Char) := fun s =>
  some (s.takeWhile p, s.dropWhile p)

/-- At least one character, up to the first without some property. -/
def takingWhile1 (p : Char → Bool) : Reader (List Char) := do
  let cs ← takingWhile p
  if cs.isEmpty then failure else pure cs

/-- Exactly `n` characters with some property. -/
def exactly (n : Nat) (p : Char → Bool) : Reader (List Char) := fun s =>
  let cs := s.take n
  if cs.length == n && cs.all p then some (cs, s.drop n) else none

/-- Repetitions of a reader, at most as many as a text has characters. -/
def manyWithin (r : Reader α) : List Char → Reader (List α)
  | [] => pure []
  | _ :: bound => fun s =>
    match r s with
    | none => some ([], s)
    | some (a, rest) => (manyWithin r bound rest).map fun (as, last) => (a :: as, last)

/-- All repetitions of a reader that takes at least one character. -/
def many (r : Reader α) : Reader (List α) := fun s =>
  manyWithin r s s

/-- One or more readings with a separating character between them. -/
def separated (r : Reader α) (separator : Char) : Reader (List α) := do
  let first ← r
  let rest ← many (char separator *> r)
  pure (first :: rest)

/-- The end of the text. -/
def atEnd : Reader Unit
  | [] => some ((), [])
  | _ => none

end Reader

/-! ## Layout -/

open Reader

/-- White space within a line. -/
def isLineSpace (c : Char) : Bool :=
  c == ' ' || c == '\t'

/-- Characters that may stand in comments. -/
def isCommentChar (c : Char) : Bool :=
  c == '\t' || (' ' ≤ c && c != '\x7f')

/-- White space within a line. -/
def lineSpace : Reader Unit :=
  discard (takingWhile isLineSpace)

/-- The end of a line: a line feed, or a carriage return and a line feed. -/
def newline : Reader Unit :=
  char '\n' <|> word "\r\n"

/-- A comment, up to the end of its line. -/
def comment : Reader Unit :=
  char '#' *> discard (takingWhile isCommentChar)

/-- What may follow a statement on its line, and the end of the line or of the text. -/
def lineEnd : Reader Unit := do
  lineSpace
  discard (optional comment)
  newline <|> atEnd

/-- White space, comments and line ends between the elements of an array. -/
def layout : Reader Unit := do
  lineSpace
  discard (many (optional comment *> newline *> lineSpace))

end SourceWeaver.Toml
