/-
  One line of a scan.

  `role` says what a trimmed line is in a given state; the first role that fits is taken.  `step`
  does what the role asks for.  What comes out is a list of pieces: the two kinds of fences are
  kept apart from text, so that a line of prose that looks like a fence is no fence.
-/

import SourceWeaver.Scan.Code

namespace SourceWeaver.Scan

open Text

/-! ## Pieces of a document -/

/-- A line of a document by its role: a fence that opens or closes a code block, or text. -/
inductive Piece where
  | opening
  | closing
  | text (line : String)
deriving DecidableEq, Repr

/-- The line that a piece is written as. -/
def Piece.render (cfg : Settings) : Piece → String
  | .opening => cfg.fenceOpen
  | .closing => cfg.fence
  | .text line => line

/-! ## Roles of lines -/

/-- What a trimmed line is to the scan. -/
inductive Role where
  /-- A line of the entry-point wrapper that is left out. -/
  | wrapper
  /-- A blank line or an include line right behind a comment. -/
  | skipped
  /-- The end of a block comment. -/
  | closer
  /-- A line inside a block comment. -/
  | prose
  /-- The beginning of a block comment. -/
  | opener
  /-- A line of code. -/
  | code
deriving DecidableEq, Repr

/-- The role of a trimmed line in a state. -/
def role (cfg : Settings) (s : State) (line : String) : Role :=
  if !cfg.keepEntryPoint && cfg.isEntryPoint line then .wrapper
  else if s.skipping && (line == "" || cfg.isInclude line) then .skipped
  else if cfg.closesComment line then .closer
  else if s.inComment then .prose
  else if cfg.opensComment line then .opener
  else .code

/-! ## Steps -/

/-- What a trimmed line inside a block comment comes out as: an example becomes a heading with a
    blank line below it. -/
def prosePieces (cfg : Settings) (line : String) : List Piece :=
  if cfg.isExample line then [.text ("#### " ++ line), .text ""] else [.text line]

/-- The state behind the end of a block comment. -/
def State.closeComment (s : State) : State :=
  { s with
    inComment := false, blockOpen := true, skipping := true, blanks := s.blanks.clear, depth := 0 }

/-- The state behind the beginning of a block comment. -/
def State.openComment (s : State) : State :=
  { s with inComment := true, blockOpen := false, skipping := false }

/-- The state after a line as it stands in the source, and the pieces that come out. -/
def step (cfg : Settings) (s : State) (raw : String) : State × List Piece :=
  let line := trim raw
  match role cfg s line with
  | .wrapper | .skipped => (s.next, [])
  | .closer => (s.next.closeComment, [.text "", .opening])
  | .prose => ({ s.next with skipping := false }, prosePieces cfg line)
  | .opener => (s.next.openComment, if s.index = 0 then [] else [.closing, .text ""])
  | .code =>
    let (next, out) := codeLine cfg { s.next with skipping := false } line
    (next, out.map .text)

/-- The state after several lines, and all pieces that come out. -/
def run (cfg : Settings) (s : State) : List String → State × List Piece
  | [] => (s, [])
  | raw :: rest =>
    let (next, out) := step cfg s raw
    let (last, more) := run cfg next rest
    (last, out ++ more)

/-- The pieces that end a document: a code block that is still open is closed. -/
def finish (s : State) : List Piece :=
  if s.blockOpen then [.closing, .text ""] else []

/-! ## What a scan reports -/

/-- The elision that a step makes, if any. -/
def stepElision? (cfg : Settings) (s : State) (raw : String) : Option Elision :=
  let line := trim raw
  if role cfg s line = .code then elision? s line else none

/-- The elisions of a scan, each with the number of its line. -/
def elisions (cfg : Settings) (s : State) : List String → List (Nat × Elision)
  | [] => []
  | raw :: rest =>
    let found := (stepElision? cfg s raw).toList.map (s.index + 1, ·)
    found ++ elisions cfg (step cfg s raw).1 rest

/-! ## Small laws -/

theorem run_nil (cfg : Settings) (s : State) : run cfg s [] = (s, []) := rfl

theorem run_cons (cfg : Settings) (s : State) (raw : String) (rest : List String) :
    run cfg s (raw :: rest) =
      ((run cfg (step cfg s raw).1 rest).1,
        (step cfg s raw).2 ++ (run cfg (step cfg s raw).1 rest).2) := rfl

theorem run_append (cfg : Settings) (s : State) (a b : List String) :
    run cfg s (a ++ b) =
      ((run cfg (run cfg s a).1 b).1, (run cfg s a).2 ++ (run cfg (run cfg s a).1 b).2) := by
  induction a generalizing s with
  | nil => rfl
  | cons raw rest ih => simp [run_cons, ih, List.append_assoc]

end SourceWeaver.Scan
