/-
  The lexemes of TOML: strings, numbers, dates and keys.

  Only values that settings can hold are kept: texts, integers and truth values.  Floats and dates
  are checked and forgotten.
-/

import SourceWeaver.Text.Numeral
import SourceWeaver.Toml.Reader

namespace SourceWeaver.Toml

open Reader Text

/-! ## Strings -/

/-- Characters that may stand in a string as they are, apart from its delimiters. -/
def isPlain (c : Char) : Bool :=
  isCommentChar c

/-- A character given by exactly `n` hexadecimal digits. -/
def codePoint (n : Nat) : Reader Char := do
  let digits ← exactly n fun c => (digitValue? 16 c).isSome
  match digitsValue? 16 digits with
  | some code => if code.isValidChar then pure (Char.ofNat code) else failure
  | none => failure

/-- The character that an escape stands for, from behind its backslash. -/
def escape : Reader Char := do
  match ← satisfying fun _ => true with
  | 'b' => pure '\x08'
  | 'f' => pure '\x0c'
  | 'n' => pure '\n'
  | 'r' => pure '\r'
  | 't' => pure '\t'
  | '"' => pure '"'
  | '\\' => pure '\\'
  | 'u' => codePoint 4
  | 'U' => codePoint 8
  | _ => failure

/-- A character of a quoted string on one line. -/
def basicChar : Reader Char :=
  satisfying (fun c => isPlain c && c != '"' && c != '\\') <|> (char '\\' *> escape)

/-- A quoted string on one line. -/
def basicString : Reader String := do
  char '"'
  let cs ← many basicChar
  char '"'
  pure (String.ofList cs)

/-- A string without escapes on one line. -/
def literalString : Reader String := do
  char '\''
  let cs ← takingWhile fun c => isPlain c && c != '\''
  char '\''
  pure (String.ofList cs)

/-- A line end inside a string, which always reads as a line feed. -/
def innerNewline : Reader Char :=
  newline *> pure '\n'

/-- A backslash at the end of a line, with all white space up to the next character. -/
def foldedLine : Reader Unit := do
  char '\\'
  lineSpace
  newline
  discard (many (discard (satisfying isLineSpace) <|> newline))

/-- One piece of a quoted string over several lines. -/
def multilineBasicPiece : Reader (List Char) :=
  ((fun c => [c]) <$> satisfying fun c => isPlain c && c != '"' && c != '\\')
    <|> (foldedLine *> pure [])
    <|> ((fun c => [c]) <$> (char '\\' *> escape))
    <|> ((fun c => [c]) <$> innerNewline)

/-- One piece of a string without escapes over several lines. -/
def multilineLiteralPiece : Reader (List Char) :=
  (fun c => [c]) <$> (satisfying (fun c => isPlain c && c != '\'') <|> innerNewline)

/-- Three quotes, which delimit a string over several lines. -/
def threeQuotes (q : Char) : Reader Unit :=
  discard (exactly 3 (· == q))

/-- The closing delimiter of a string over several lines, with up to two more quotes, which belong
    to the string. -/
def closingQuotes (q : Char) : Reader (List Char) := do
  threeQuotes q
  let more ← takingWhile (· == q)
  if more.length ≤ 2 then pure more else failure

/-- A piece of a string over several lines, or a quote that does not begin the delimiter. -/
def innerPiece (q : Char) (piece : Reader (List Char)) : Reader (List Char) := fun s =>
  match threeQuotes q s with
  | some _ => none
  | none => (piece <|> ((fun c => [c]) <$> satisfying (· == q))) s

/-- A string over several lines between three quotes; a line end right behind the opening
    delimiter does not count. -/
def multilineString (q : Char) (piece : Reader (List Char)) : Reader String := do
  threeQuotes q
  discard (optional newline)
  let pieces ← many (innerPiece q piece)
  let last ← closingQuotes q
  pure (String.ofList (pieces.flatten ++ last))

/-- A string of any kind. -/
def string : Reader String :=
  multilineString '"' multilineBasicPiece <|> basicString
    <|> multilineString '\'' multilineLiteralPiece <|> literalString

/-! ## Numbers -/

/-- A decimal digit. -/
def isDigit (c : Char) : Bool :=
  '0' ≤ c && c ≤ '9'

/-- Digits with single underscores between them. -/
def digitRun (digit : Char → Bool) : Reader (List Char) := do
  let first ← satisfying digit
  let rest ← many (optional (char '_') *> satisfying digit)
  pure (first :: rest)

/-- A sign, and whether it is a minus. -/
def sign : Reader Bool :=
  (char '-' *> pure true) <|> (char '+' *> pure false)

/-- A decimal integer without leading zeros, as its sign and digits. -/
def decimal : Reader (Bool × List Char) := do
  let negative ← (·.getD false) <$> optional sign
  match ← satisfying isDigit with
  | '0' => pure (negative, ['0'])
  | first =>
    let rest ← many (optional (char '_') *> satisfying isDigit)
    pure (negative, first :: rest)

/-- The least integer that signed words of 64 bits hold is the negation of this number. -/
def integerBound : Nat := Nat.pow 2 63

/-- An integer that a signed word of 64 bits holds. -/
def boundedInteger (negative : Bool) (magnitude : Option Nat) : Reader Int :=
  match magnitude with
  | none => failure
  | some m =>
    if negative then if m ≤ integerBound then pure (-(m : Int)) else failure
    else if m < integerBound then pure m else failure

/-- An integer in another base, behind the mark of the base; it has no sign. -/
def basedInteger (mark : String) (base : Nat) : Reader Int := do
  word mark
  let digits ← digitRun fun c => (digitValue? base c).isSome
  boundedInteger false (digitsValue? base digits)

/-- An integer of any kind. -/
def integer : Reader Int :=
  basedInteger "0x" 16 <|> basedInteger "0o" 8 <|> basedInteger "0b" 2 <|> do
    let (negative, digits) ← decimal
    boundedInteger negative (digitsValue? 10 digits)

/-- The least number that rounds to no finite double. -/
def doubleBound : Nat := Nat.pow 2 1024 - Nat.pow 2 970

/-- Whether `m` times ten to the power `e` is too large for a double.  The number of digits
    decides unless the two are close. -/
def overflowsDouble (m : Nat) (e : Int) : Bool :=
  let scale := (toString m).length + e
  if m == 0 || scale < 309 then false
  else if 310 < scale then true
  else if 0 ≤ e then doubleBound ≤ m * Nat.pow 10 e.toNat
  else doubleBound * Nat.pow 10 (-e).toNat ≤ m

/-- The power of ten of a float. -/
def exponent : Reader Int := do
  discard (satisfying fun c => c == 'e' || c == 'E')
  let negative ← (·.getD false) <$> optional sign
  let digits ← digitRun isDigit
  let magnitude : Int := (digitsValue? 10 digits).getD 0
  pure (if negative then -magnitude else magnitude)

/-- A float; a positive one must not be too large. -/
def float : Reader Unit :=
  (do
    let (negative, whole) ← decimal
    let fraction ← optional (char '.' *> digitRun isDigit)
    let power ← optional exponent
    if fraction.isNone && power.isNone then failure
    let digits := fraction.getD []
    let mantissa := (digitsValue? 10 (whole ++ digits)).getD 0
    if !negative && overflowsDouble mantissa (power.getD 0 - digits.length) then failure)
  <|> (optional sign *> (word "inf" <|> word "nan"))

/-! ## Dates and times -/

/-- A number of exactly `n` digits within bounds. -/
def digitsBetween (n low high : Nat) : Reader Nat := do
  let digits ← exactly n isDigit
  match digitsValue? 10 digits with
  | some value => if low ≤ value && value ≤ high then pure value else failure
  | none => failure

/-- The number of days of a month. -/
def daysInMonth (year month : Nat) : Nat :=
  if month == 2 then
    if year % 4 == 0 && (year % 100 != 0 || year % 400 == 0) then 29 else 28
  else if month == 4 || month == 6 || month == 9 || month == 11 then 30
  else 31

/-- A date of the calendar. -/
def date : Reader Unit := do
  let year ← digitsBetween 4 0 9999
  char '-'
  let month ← digitsBetween 2 1 12
  char '-'
  discard (digitsBetween 2 1 (daysInMonth year month))

/-- A time of day, which may be a leap second. -/
def time : Reader Unit := do
  discard (digitsBetween 2 0 23)
  char ':'
  discard (digitsBetween 2 0 59)
  char ':'
  discard (digitsBetween 2 0 60)
  discard (optional (char '.' *> takingWhile1 isDigit))

/-- The offset of a time zone. -/
def zone : Reader Unit :=
  discard (satisfying fun c => c == 'Z' || c == 'z')
  <|> (do
    discard sign
    discard (digitsBetween 2 0 23)
    char ':'
    discard (digitsBetween 2 0 59))

/-- A date, a date with a time, or a time. -/
def dateTime : Reader Unit :=
  (do
    date
    discard (optional (do
      discard (satisfying fun c => c == 'T' || c == 't' || c == ' ')
      time
      discard (optional zone))))
  <|> time

/-! ## Keys -/

/-- Characters of keys that need no quotes. -/
def isBareKeyChar (c : Char) : Bool :=
  c.isAlphanum || c == '-' || c == '_'

/-- One part of a key. -/
def simpleKey : Reader String :=
  basicString <|> literalString <|> String.ofList <$> takingWhile1 isBareKeyChar

/-- The deepest nesting of arrays, inline tables and the parts of a key. -/
def maxNesting : Nat := 79

/-- A key: its parts in order. -/
def dottedKey : Reader (List String) := do
  let parts ← separated (lineSpace *> simpleKey <* lineSpace) '.'
  if parts.length ≤ maxNesting then pure parts else failure

end SourceWeaver.Toml
