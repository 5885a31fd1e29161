/-
  Blank lines of code that are held back.

  A blank line of code is kept until a line with text follows.  Held lines that turn out to be the
  last of their block are forgotten, so no block ends in blank lines.
-/

namespace SourceWeaver.Scan

/-- The number of blank lines held back. -/
structure Blanks where
  held : Nat := 0
deriving DecidableEq, Repr, Inhabited

namespace Blanks

/-- Holds back one more line. -/
def push (b : Blanks) : Blanks :=
  ⟨b.held + 1⟩

/-- Forgets the held lines. -/
def clear (_ : Blanks) : Blanks :=
  ⟨0⟩

/-- Whether no line is held back. -/
def isEmpty (b : Blanks) : Bool :=
  b.held == 0

/-- The held lines. -/
def lines (b : Blanks) : List String :=
  List.replicate b.held ""

/-- Moves the held lines to the end of `out`. -/
def flush (b : Blanks) (out : List String) : Blanks × List String :=
  (b.clear, out ++ b.lines)

theorem isEmpty_iff {b : Blanks} : b.isEmpty = true ↔ b.held = 0 :=
  beq_iff_eq

theorem length_lines (b : Blanks) : b.lines.length = b.held :=
  List.length_replicate

theorem lines_push (b : Blanks) : b.push.lines = b.lines ++ [""] := by
  simp [lines, push, List.replicate_succ']

theorem lines_of_none {b : Blanks} (h : b.held = 0) : b.lines = [] := by
  rw [lines, h, List.replicate_zero]

theorem eq_empty_of_mem_lines {b : Blanks} {line : String} (h : line ∈ b.lines) : line = "" :=
  List.eq_of_mem_replicate h

end Blanks

end SourceWeaver.Scan
