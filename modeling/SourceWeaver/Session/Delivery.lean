/-
  Converting one source, and where its Markdown goes.

  The Markdown of a file is printed, written to another file, or takes the place of the file itself;
  that of the standard input is printed.  A conversion that fails leaves all files as they are and
  prints nothing.
-/

import SourceWeaver.CommandLine.Options
import SourceWeaver.Failure
import SourceWeaver.Files.Workspace
import SourceWeaver.Session.Log

namespace SourceWeaver.Session

open CommandLine (Arguments)
open Files Text

/-! ## Outcomes -/

/-- What some work leaves behind: the files, what it prints and logs, and why it failed if it
    did. -/
structure Outcome where
  workspace : Workspace
  printed : String := ""
  log : List Entry := []
  failure : Option Failure := none

/-- An outcome with something logged before. -/
def Outcome.after (o : Outcome) (log : List Entry) : Outcome :=
  { o with log := log ++ o.log }

/-! ## Sources -/

/-- The most bytes of a source. -/
def maxSourceSize : Nat := 100 * 1024 * 1024

/-- A size in whole megabytes, rounded down. -/
def megabytes (size : Nat) : String :=
  toString (size / (1024 * 1024)) ++ " MB"

/-- What is said about a size beyond the limit. -/
def excess (size : Nat) : String :=
  "(" ++ megabytes size ++ " exceeds limit of " ++ megabytes maxSourceSize ++ ")"

/-- The lines of a file, if it is text.  Zeros are no line endings, so a hole has at most one. -/
def contentLines? : Content → Option (List String)
  | .bytes data => sourceLines? data
  | .hole n => some (if n = 0 then [] else ["".pushn '\x00' n])

/-- The lines of a file are those of its text. -/
theorem contentLines?_eq (c : Content) : contentLines? c = c.text?.map lines := by
  cases c with
  | bytes data => exact sourceLines?_eq data
  | hole n =>
    have hfeed : '\n' ∉ ("".pushn '\x00' n).toList := by
      rw [Content.toList_zeros]
      simp [List.mem_replicate]
    have hempty : "".pushn '\x00' n = "" ↔ n = 0 := by
      rw [← String.toList_inj, Content.toList_zeros]
      simp
    simp only [contentLines?, Content.text?, Option.map_some, lines_of_no_feed _ hfeed, hempty]

/-! ## Notes on conversions -/

/-- The note on how a source opens. -/
def openingNote : Opening → String
  | .comment => "file opens with a block comment"
  | .code => "file opens with code"

/-- The note on a line that is left out. -/
def elisionNote (number : Nat) : Scan.Elision → String
  | .closer => "line " ++ toString number ++ ": unmatched closing brace elided"
  | .opener => "line " ++ toString number ++ ": scope-only block opener elided"

/-- The notes on the conversion of the lines of some source. -/
def notes (cfg : Settings) (name : String) (ls : List String) : List String :=
  match primeHeader cfg ls with
  | .error _ => []
  | .ok (opening, primed) =>
    let elided := Scan.elisions cfg opening.start primed
    let openAtEnd := (Scan.run cfg opening.start primed).1.blockOpen
    let size := (weave cfg opening primed).length
    openingNote opening :: elided.map (fun (number, elision) => elisionNote number elision)
      ++ (if openAtEnd then [] else ["no code block open at end of input"])
      ++ [name ++ ": " ++ toString ls.length ++ " source lines -> " ++ toString size
        ++ " markdown lines"]

/-- The entries about the conversion of a source. -/
def notesLog (cfg : Settings) (name : String) (ls : Option (List String)) : List Entry :=
  match ls with
  | some ls => entries .debug (notes cfg name ls)
  | none => []

/-! ## Destinations -/

/-- Where the Markdown of a file goes. -/
inductive Destination where
  | print
  | write (target : Path)
  | replace
deriving DecidableEq, Repr

/-- The destination that a command line asks for. -/
def destinationOf (a : Arguments) : Destination :=
  if a.stdout then .print
  else match a.output with
    | some target => .write target
    | none => .replace

/-- Hands the Markdown of the file at `p`, whose mode is `mode`, to its destination. -/
def deliver (w : Workspace) (d : Destination) (p : Path) (mode : Nat) (markdown : String) :
    Outcome :=
  match d with
  | .print => { workspace := w, printed := markdown }
  | .write target =>
    match w.write target (.ofText markdown) with
    | .ok written => { workspace := written }
    | .error e =>
      { workspace := w, failure := some ⟨"failed to write " ++ target.text, some e.message⟩ }
  | .replace =>
    -- the file beside the source is renamed over it with the mode of the source
    match w.replace p (.ofText markdown) mode with
    | .ok replaced => { workspace := replaced }
    | .error e =>
      let place := (Workspace.directoryOf p).text
      { workspace := w
        failure := some ⟨"failed to create a temporary file in " ++ place, some e.message⟩ }

/-! ## Conversions -/

/-- Converts the lines of a source and hands the Markdown on. -/
def convertSource (w : Workspace) (cfg : Settings) (name : String) (ls : Option (List String))
    (handOn : String → Outcome) : Outcome :=
  let outcome : Outcome := match convertLines cfg ls with
    | .error e => { workspace := w, failure := some (e.failure name) }
    | .ok document => handOn document.markdown
  outcome.after (notesLog cfg name ls)

/-- Converts a file and delivers the result.  A file beyond the limit is skipped. -/
def convertFile (w : Workspace) (d : Destination) (cfg : Settings) (p : Path) : Outcome :=
  match w.read p with
  | .error e =>
    { workspace := w, failure := some ⟨"failed to inspect " ++ p.text, some e.message⟩ }
  | .ok (content, mode) =>
    if maxSourceSize < content.size then
      { workspace := w
        log := entries .warn ["Skipping " ++ p.text ++ " " ++ excess content.size] }
    else
      let announced := if d = .print then [] else entries .info ["Converting: " ++ p.text]
      (convertSource w cfg p.text (contentLines? content) (deliver w d p mode)).after announced

/-- What messages call the standard input. -/
def inputName : String := "stdin"

/-- Converts the standard input and prints the result. -/
def convertInput (w : Workspace) (cfg : Settings) (input : ByteArray) : Outcome :=
  if maxSourceSize < input.size then
    { workspace := w
      failure := some { message := inputName ++ " input too large " ++ excess input.size } }
  else
    convertSource w cfg inputName (sourceLines? input) fun markdown =>
      { workspace := w, printed := markdown }

end SourceWeaver.Session
