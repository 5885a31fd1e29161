/-
  Markdown documents as sequences of lines.

  A document only grows at its end.  Its text form ends every line with a line feed.
-/

import SourceWeaver.Text.Lines

namespace SourceWeaver

/-- The lines of a Markdown document. -/
structure Document where
  lines : List String := []
deriving DecidableEq, Repr, Inhabited

namespace Document

/-- Adds one line at the end. -/
def push (d : Document) (line : String) : Document :=
  ⟨d.lines ++ [line]⟩

/-- Adds several lines at the end. -/
def extend (d : Document) (more : List String) : Document :=
  ⟨d.lines ++ more⟩

/-- The number of lines. -/
def size (d : Document) : Nat :=
  d.lines.length

/-- Whether there are no lines. -/
def isEmpty (d : Document) : Bool :=
  d.lines.isEmpty

/-- The document as text. -/
def markdown (d : Document) : String :=
  Text.unlines d.lines

theorem lines_push (d : Document) (line : String) : (d.push line).lines = d.lines ++ [line] :=
  rfl

theorem lines_extend (d : Document) (more : List String) :
    (d.extend more).lines = d.lines ++ more :=
  rfl

theorem size_push (d : Document) (line : String) : (d.push line).size = d.size + 1 := by
  rw [size, lines_push, List.length_append, List.length_singleton, size]

theorem size_extend (d : Document) (more : List String) :
    (d.extend more).size = d.size + more.length := by
  rw [size, lines_extend, List.length_append, size]

/-- Lines that are added bit by bit are added as a whole. -/
theorem extend_extend (d : Document) (a b : List String) :
    (d.extend a).extend b = d.extend (a ++ b) := by
  simp [extend]

end Document

end SourceWeaver
