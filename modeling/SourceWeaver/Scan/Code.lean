/-
  Lines of code: elision of braces, and indentation from the nesting of braces.

  A line that begins with a closing brace and meets no open block is elided, and so is a bare
  opening brace that follows it: together they end one scope and begin the next.  Every other line
  is rendered at the level of its block.  A multi-way branch is rendered flat: its closing brace
  does not count, its labels stand at the level of the keyword, and the statements below a label
  one level deeper.
-/

import SourceWeaver.Markers
import SourceWeaver.Scan.State

namespace SourceWeaver.Scan

/-! ## Elision -/

/-- Why a line of code is left out. -/
inductive Elision where
  | opener
  | closer
deriving DecidableEq, Repr

/-- Whether a trimmed line of code is left out. -/
def elision? (s : State) (line : String) : Option Elision :=
  if s.pendingOpener && line == "\x7b" then some .opener
  else if closesBlock line && !s.inSwitch && s.depth == 0 then some .closer
  else none

/-! ## Levels -/

/-- The state in which a line is rendered: closing braces and labels act before the line. -/
def State.beforeLine (s : State) (line : String) : State :=
  { s with
    pendingOpener := s.pendingOpener && line == ""
    -- the line that starts a branch does not count as an opener, so the brace that ends the branch
    -- does not count either
    depth := if closesBlock line && !s.inSwitch then s.depth - 1 else s.depth
    inSwitch := s.inSwitch && (isLabel line || !endsInBrace line)
    clauseLevels :=
      if s.inSwitch then
        if isLabel line then 1 else if endsInBrace line then 0 else s.clauseLevels
      else s.clauseLevels }

/-- The state after a line has been rendered: opening braces act behind the line. -/
def State.afterLine (s : State) (cfg : Settings) (line : String) : State :=
  { s with
    inSwitch := s.inSwitch || cfg.startsSwitch line
    depth := if !cfg.startsSwitch line && opensBlock line then s.depth + 1 else s.depth }

/-- The level at which a line is rendered. -/
def State.levelOf (s : State) (line : String) : Nat :=
  s.depth + if isLabel line then 0 else s.clauseLevels

/-! ## A line of code -/

/-- The state after a trimmed line of code, and the lines that come out. -/
def codeLine (cfg : Settings) (s : State) (line : String) : State × List String :=
  match elision? s line with
  | some .opener => ({ s with pendingOpener := false }, [])
  | some .closer => ({ s with pendingOpener := true }, [])
  | none =>
    let before := s.beforeLine line
    let after := before.afterLine cfg line
    -- a blank line waits for a line with text behind it
    if line = "" then ({ after with blanks := s.blanks.push }, [])
    else
      let (blanks, held) := s.blanks.flush []
      ({ after with blanks }, held ++ [cfg.indent (before.levelOf line) ++ line])

theorem codeLine_opener {cfg : Settings} {s : State} {line : String}
    (h : elision? s line = some .opener) :
    codeLine cfg s line = ({ s with pendingOpener := false }, []) := by
  simp [codeLine, h]

theorem codeLine_closer {cfg : Settings} {s : State} {line : String}
    (h : elision? s line = some .closer) :
    codeLine cfg s line = ({ s with pendingOpener := true }, []) := by
  simp [codeLine, h]

theorem codeLine_blank {cfg : Settings} {s : State} (h : elision? s "" = none) :
    codeLine cfg s "" =
      ({ (s.beforeLine "").afterLine cfg "" with blanks := s.blanks.push }, []) := by
  simp [codeLine, h]

theorem codeLine_text {cfg : Settings} {s : State} {line : String} (h : elision? s line = none)
    (hline : line ≠ "") :
    codeLine cfg s line =
      ({ (s.beforeLine line).afterLine cfg line with blanks := {} },
        s.blanks.lines ++ [cfg.indent ((s.beforeLine line).levelOf line) ++ line]) := by
  simp [codeLine, h, hline, Blanks.flush, Blanks.clear]

end SourceWeaver.Scan
