/-
  What a line of annotated source is, by its shape alone.

  Apart from `isLineComment`, which looks at a line as it stands in the file, all predicates are
  meant for trimmed lines.
-/

import SourceWeaver.Settings.Basic
import SourceWeaver.Text.Blank
import SourceWeaver.Text.Word

namespace SourceWeaver

open Text

/-! ## Shapes that do not depend on settings -/

/-- A clause label of a multi-way branch ends in a colon. -/
def isLabel (line : String) : Bool :=
  endsWith line ":"

/-- A line that opens a block ends in an opening brace. -/
def opensBlock (line : String) : Bool :=
  endsWith line "\x7b"

/-- A line that closes a block begins with a closing brace. -/
def closesBlock (line : String) : Bool :=
  startsWith line "\x7d"

/-- A line that closes a multi-way branch ends in a closing brace. -/
def endsInBrace (line : String) : Bool :=
  endsWith line "\x7d"

namespace Settings

/-! ## Shapes that settings describe -/

/-- One of the two lines of the entry-point wrapper. -/
def isEntryPoint (s : Settings) (line : String) : Bool :=
  line == s.entryOpen || line == s.entryClose

/-- A line that includes another file. -/
def isInclude (s : Settings) (line : String) : Bool :=
  startsWith line s.includeMarker

/-- A line that begins a block comment. -/
def opensComment (s : Settings) (line : String) : Bool :=
  startsWith line s.commentOpen

/-- A line that ends a block comment. -/
def closesComment (s : Settings) (line : String) : Bool :=
  endsWith line s.commentClose

/-- A one-line comment, which starts at the very beginning of the line. -/
def isLineComment (s : Settings) (raw : String) : Bool :=
  startsWith raw s.lineComment

/-- A line of prose that becomes a heading. -/
def isExample (s : Settings) (line : String) : Bool :=
  startsWith line s.exampleWord

/-- A line that opens a multi-way branch. -/
def startsSwitch (s : Settings) (line : String) : Bool :=
  startsWithWord line s.switchWord

/-! ## Rendering -/

/-- The white space in front of a line of code at some level. -/
def indent (s : Settings) (level : Nat) : String :=
  String.ofList (List.replicate (s.indentWidth * level) ' ')

/-- The line that opens a code block. -/
def fenceOpen (s : Settings) : String :=
  s.fence ++ s.fenceInfo

theorem toList_indent (s : Settings) (level : Nat) :
    (s.indent level).toList = List.replicate (s.indentWidth * level) ' ' :=
  String.toList_ofList

end Settings

end SourceWeaver
