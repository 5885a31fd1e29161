/-
  TOML documents: from text to statements, and from statements to one table.
-/

import SourceWeaver.Toml.Item
import SourceWeaver.Toml.Lexeme

namespace SourceWeaver.Toml

open Reader

/-! ## Values -/

/-- A value without parts. -/
def scalar : Reader Item :=
  (.string <$> string)
    <|> (dateTime *> pure .dateTime)
    <|> (float *> pure .float)
    <|> (.integer <$> integer)
    <|> (word "true" *> pure (.boolean true))
    <|> (word "false" *> pure (.boolean false))

/-- An array, given how to read its elements. -/
def array (value : Reader Item) : Reader Item := do
  char '['
  let elements ← (separated (layout *> value <* layout) ',' <* optional (char ',')) <|> pure []
  layout
  char ']'
  pure (.array elements)

/-- A key and its value, given how to read the value. -/
def keyValue (value : Reader Item) : Reader (List String × Item) := do
  let key ← dottedKey
  char '='
  lineSpace
  let item ← value
  pure (key, item)

/-- Sets a key of several parts, all but the last of which lead through tables. -/
def assignDotted (es : Entries) (key : List String) (item : Item) : Option Entries :=
  match key.getLast? with
  | some last => es.assign last item key.dropLast
  | none => none

/-- A table between braces, given how to read its values. -/
def inlineTable (value : Reader Item) : Reader Item := do
  char '\x7b'
  let pairs ← separated (keyValue value <* lineSpace) ',' <|> pure []
  lineSpace
  char '\x7d'
  match pairs.foldlM (fun es (key, item) => assignDotted es key item) ([] : Entries) with
  | some entries => pure (.inlineTable entries)
  | none => failure

/-- A value in which at most so many arrays and inline tables are nested. -/
def valueUpTo : Nat → Reader Item
  | 0 => scalar
  | n + 1 => scalar <|> array (valueUpTo n) <|> inlineTable (valueUpTo n)

/-- A value. -/
def value : Reader Item :=
  valueUpTo maxNesting

/-! ## Statements -/

/-- A line of a document that says something. -/
inductive Statement where
  /-- Sets a key of the current table. -/
  | assign (key : List String) (item : Item)
  /-- Makes a table current. -/
  | table (path : List String)
  /-- Begins another of several tables and makes it current. -/
  | element (path : List String)

/-- A statement, up to the end of its line. -/
def statement : Reader Statement :=
  (.element <$> (word "[[" *> dottedKey <* word "]]" <* lineEnd))
    <|> (.table <$> (char '[' *> dottedKey <* char ']' <* lineEnd))
    <|> ((fun (key, item) => .assign key item) <$> (keyValue value <* lineEnd))

/-- A line of a document, which may say nothing. -/
def line : Reader (Option Statement) :=
  (newline *> pure none)
    <|> ((comment *> (newline <|> atEnd)) *> pure none)
    <|> (some <$> statement)

/-- The statements of a whole document, which may begin with a byte-order mark. -/
def statements : Reader (List Statement) := do
  discard (optional (char '\ufeff'))
  lineSpace
  let found ← many (line <* lineSpace)
  atEnd
  pure (found.filterMap id)

/-! ## Documents -/

/-- The entries of a document so far, and the path of the current table. -/
structure Progress where
  entries : Entries := []
  current : List String := []

/-- Makes the table of a path current, after a change to its last part. -/
def Progress.enter (p : Progress) (path : List String)
    (change : String → Entries → Option Entries) : Option Progress := do
  let last ← path.getLast?
  let entries ← Entries.within (change last) path.dropLast p.entries
  pure { entries, current := path }

/-- Carries out a statement. -/
def Progress.follow (p : Progress) : Statement → Option Progress
  | .assign key item =>
    (Entries.within (assignDotted · key item) p.current p.entries).map ({ p with entries := · })
  | .table path => p.enter path Entries.define
  | .element path => p.enter path Entries.addElement

/-- The entries of a document, `none` if it is not well-formed or sets something twice. -/
def parse? (text : String) : Option Entries := do
  let (found, _) ← statements text.toList
  let last ← found.foldlM Progress.follow ({} : Progress)
  pure last.entries

end SourceWeaver.Toml
