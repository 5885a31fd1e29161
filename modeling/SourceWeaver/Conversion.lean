/-
  Converting annotated source to Markdown.

  The second line decides how a source opens.  If it is a one-line comment the source opens in
  code, and the first line becomes the fence that opens the block; otherwise the source opens with
  a block comment, whose second line is the title and becomes a heading.  The lines are then
  scanned one by one, and a block that is open at the end is closed.

  A conversion fails only on bytes that are no text and on sources of fewer than two lines.
-/

import SourceWeaver.Document
import SourceWeaver.Scan.Step
import SourceWeaver.Text.Reading

namespace SourceWeaver

open Text Scan

/-! ## How a source opens -/

/-- How a source opens. -/
inductive Opening where
  | comment
  | code
deriving DecidableEq, Repr

/-- A source that is too short to tell how it opens, with the number of its lines. -/
structure TooShort where
  lineCount : Nat
deriving DecidableEq, Repr

/-- What is said about a source that is too short. -/
def TooShort.message (e : TooShort) : String :=
  "input has " ++ toString e.lineCount
    ++ " line(s); at least two are needed to detect the header"

/-- How some lines open, and the lines with the first two rewritten accordingly. -/
def primeHeader (cfg : Settings) : List String → Except TooShort (Opening × List String)
  | first :: second :: rest =>
    if cfg.isLineComment second then .ok (.code, cfg.fenceOpen :: second :: rest)
    else .ok (.comment, first :: ("### " ++ trim second) :: rest)
  | short => .error ⟨short.length⟩

/-- The state in which a scan starts. -/
def Opening.start (o : Opening) : State :=
  { blockOpen := o == .code }

/-! ## Conversions -/

/-- The pieces of the document for primed lines. -/
def weave (cfg : Settings) (opening : Opening) (primed : List String) : List Piece :=
  let (last, pieces) := run cfg opening.start primed
  pieces ++ finish last

/-- The document for the lines of a source. -/
def convert (cfg : Settings) (lines : List String) : Except TooShort Document := do
  let (opening, primed) ← primeHeader cfg lines
  return ⟨(weave cfg opening primed).map (Piece.render cfg)⟩

/-! ## Sources -/

/-- Why a source cannot be converted. -/
inductive SourceError where
  | notText
  | tooShort (e : TooShort)
deriving DecidableEq, Repr

/-- The lines of a source given as bytes; bytes that are not valid UTF-8 are no source. -/
def sourceLines? (bytes : ByteArray) : Option (List String) :=
  readLines? bytes

/-- The document for the lines of a source, if it has any. -/
def convertLines (cfg : Settings) : Option (List String) → Except SourceError Document
  | none => .error .notText
  | some ls => (convert cfg ls).mapError .tooShort

/-- Work that may fail and writes text to the end of an output. -/
abbrev Writing := ExceptT SourceError (StateM String)

/-- Writes lines one by one, each with a line feed. -/
def writeLines (ls : List String) : Writing Unit :=
  ls.forM fun line => modify (· ++ line ++ "\n")

/-- Converts a source and writes the lines of its document. -/
def convertInto (cfg : Settings) (bytes : ByteArray) : Writing Unit := do
  let document ← ExceptT.mk (pure (convertLines cfg (sourceLines? bytes)))
  writeLines document.lines

/-- What a conversion writes to an empty output. -/
def convertBytes (cfg : Settings) (bytes : ByteArray) : Except SourceError String :=
  let (result, written) := (convertInto cfg bytes).run.run ""
  result.map fun _ => written

/-- The Markdown of a source that is given as text. -/
def convertText (cfg : Settings) (source : String) : Except SourceError String :=
  convertBytes cfg source.toUTF8

theorem sourceLines?_eq (bytes : ByteArray) :
    sourceLines? bytes = (String.fromUTF8? bytes).map lines :=
  readLines?_eq bytes

theorem primeHeader_of_lineComment {cfg : Settings} {first second : String} {rest : List String}
    (h : cfg.isLineComment second = true) :
    primeHeader cfg (first :: second :: rest) = .ok (.code, cfg.fenceOpen :: second :: rest) := by
  simp [primeHeader, h]

theorem primeHeader_of_title {cfg : Settings} {first second : String} {rest : List String}
    (h : cfg.isLineComment second = false) :
    primeHeader cfg (first :: second :: rest)
      = .ok (.comment, first :: ("### " ++ trim second) :: rest) := by
  simp [primeHeader, h]

theorem convert_of_primed {cfg : Settings} {lines primed : List String} {opening : Opening}
    (h : primeHeader cfg lines = .ok (opening, primed)) :
    convert cfg lines = .ok ⟨(weave cfg opening primed).map (Piece.render cfg)⟩ := by
  simp [convert, h, bind, Except.bind, pure, Except.pure]

/-- Lines written one by one are written as a whole. -/
theorem run_writeLines (ls : List String) (out : String) :
    (writeLines ls).run.run out = (.ok (), out ++ unlines ls) := by
  induction ls generalizing out with
  | nil => exact congrArg (Prod.mk _) String.append_empty.symm
  | cons line rest ih =>
    rw [unlines_cons, ← String.append_assoc, ← String.append_assoc]
    exact ih _

/-- A source that cannot be converted leaves the output as it is. -/
theorem run_convertInto (cfg : Settings) (bytes : ByteArray) (out : String) :
    (convertInto cfg bytes).run.run out =
      match convertLines cfg (sourceLines? bytes) with
      | .error e => (.error e, out)
      | .ok document => (.ok (), out ++ document.markdown) := by
  unfold convertInto
  cases convertLines cfg (sourceLines? bytes) with
  | error e => rfl
  | ok document => exact run_writeLines document.lines out

theorem convertBytes_eq (cfg : Settings) (bytes : ByteArray) :
    convertBytes cfg bytes = (convertLines cfg (sourceLines? bytes)).map Document.markdown := by
  unfold convertBytes
  rw [run_convertInto]
  cases convertLines cfg (sourceLines? bytes) with
  | error e => rfl
  | ok document =>
    show Except.ok ("" ++ document.markdown) = .ok document.markdown
    rw [String.empty_append]

/-- Two lines are enough to tell how a source opens. -/
theorem exists_primed (cfg : Settings) {lines : List String} (h : 2 ≤ lines.length) :
    ∃ opening first rest, primeHeader cfg lines = .ok (opening, first :: rest) ∧
      (opening = .code → first = cfg.fenceOpen) := by
  match lines, h with
  | first :: second :: rest, _ =>
    cases hsecond : cfg.isLineComment second with
    | true => exact ⟨_, _, _, primeHeader_of_lineComment hsecond, fun _ => rfl⟩
    | false => exact ⟨_, _, _, primeHeader_of_title hsecond, fun h => absurd h (by decide)⟩

end SourceWeaver
