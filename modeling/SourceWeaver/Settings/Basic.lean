/-
  The settings of a conversion: the markers that it recognises and how it renders Markdown.

  The markers are the texts that stand alone on, begin or end a line of annotated source.
  `Marker` names them for messages and for settings files, `Settings.marker` looks one up.
-/

namespace SourceWeaver

/-- What a conversion recognises in annotated source, and how it renders the Markdown. -/
structure Settings where
  /-- Whether the entry-point wrapper stays in the code. -/
  keepEntryPoint : Bool := false
  /-- The line that opens the entry point. -/
  entryOpen : String := "int main(void) \x7b"
  /-- The line that ends the entry point. -/
  entryClose : String := "return 0;"
  /-- How the include lines begin that are dropped at the start of a code block. -/
  includeMarker : String := "#include"
  /-- How a line begins that opens a block comment. -/
  commentOpen : String := "/*"
  /-- How a line ends that closes a block comment. -/
  commentClose : String := "*/"
  /-- How a one-line comment begins. -/
  lineComment : String := "//"
  /-- How a line of prose begins that becomes a heading. -/
  exampleWord : String := "Example"
  /-- The keyword that opens a multi-way branch. -/
  switchWord : String := "switch"
  /-- Spaces per level of indentation. -/
  indentWidth : Nat := 4
  /-- The line that delimits a code block. -/
  fence : String := "```"
  /-- What follows the delimiter where a code block opens. -/
  fenceInfo : String := ""
deriving DecidableEq, Repr, Inhabited

/-- The markers of the settings, in the order in which they are checked. -/
inductive Marker where
  | entryOpen
  | entryClose
  | includeLine
  | commentOpen
  | commentClose
  | lineComment
  | exampleWord
  | switchWord
deriving DecidableEq, Repr

namespace Marker

/-- All markers, in the order in which they are checked. -/
def all : List Marker :=
  [entryOpen, entryClose, includeLine, commentOpen, commentClose, lineComment, exampleWord,
    switchWord]

/-- The name of a marker in settings files and messages. -/
def key : Marker → String
  | entryOpen => "entry_point_open"
  | entryClose => "entry_point_close"
  | includeLine => "include_prefix"
  | commentOpen => "comment_open"
  | commentClose => "comment_close"
  | lineComment => "line_comment"
  | exampleWord => "example_prefix"
  | switchWord => "switch_keyword"

theorem mem_all (m : Marker) : m ∈ all := by
  cases m <;> decide

end Marker

namespace Settings

/-- The text of a marker. -/
def marker (s : Settings) : Marker → String
  | .entryOpen => s.entryOpen
  | .entryClose => s.entryClose
  | .includeLine => s.includeMarker
  | .commentOpen => s.commentOpen
  | .commentClose => s.commentClose
  | .lineComment => s.lineComment
  | .exampleWord => s.exampleWord
  | .switchWord => s.switchWord

end Settings

end SourceWeaver
