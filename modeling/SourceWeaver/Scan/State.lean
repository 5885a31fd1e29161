/-
  What a scan of annotated source carries from one line to the next.
-/

import SourceWeaver.Scan.Blanks

namespace SourceWeaver.Scan

/-- What the lines of a source are read as. -/
inductive Mode where
  | comment
  | code
  | switch
deriving DecidableEq, Repr

/-- What a scan carries from one line to the next. -/
structure State where
  /-- The index of the next line. -/
  index : Nat := 0
  /-- Inside a block comment. -/
  inComment : Bool := false
  /-- A code block has been opened and not closed. -/
  blockOpen : Bool := false
  /-- The nesting of braces in the current code block. -/
  depth : Nat := 0
  /-- Inside a multi-way branch. -/
  inSwitch : Bool := false
  /-- Extra levels for statements under a clause label. -/
  clauseLevels : Nat := 0
  /-- A closing brace was elided, and a bare opening brace right after it goes with it. -/
  pendingOpener : Bool := false
  /-- A comment has just closed, and blank lines and include lines are dropped. -/
  skipping : Bool := false
  /-- The blank lines of code that are held back. -/
  blanks : Blanks := {}
deriving DecidableEq, Repr, Inhabited

namespace State

/-- What the next line is read as. -/
def mode (s : State) : Mode :=
  if s.inComment then .comment else if s.inSwitch then .switch else .code

/-- The state after one more line has been counted. -/
def next (s : State) : State :=
  { s with index := s.index + 1 }

theorem mode_eq_comment_iff {s : State} : s.mode = .comment ↔ s.inComment = true := by
  unfold mode
  cases s.inComment <;> cases s.inSwitch <;> decide

end State

end SourceWeaver.Scan
