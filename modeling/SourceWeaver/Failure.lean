/-
  Failures as they are shown: what went wrong, and why.
-/

import SourceWeaver.Conversion

namespace SourceWeaver

/-- Something that went wrong, with the cause if it is known. -/
structure Failure where
  message : String
  cause : Option String := none
deriving DecidableEq, Repr, Inhabited

namespace Failure

/-- A failure in one line, with its cause behind a colon. -/
def summary (f : Failure) : String :=
  match f.cause with
  | none => f.message
  | some cause => f.message ++ ": " ++ cause

/-- The lines that report a failure at the end of a run. -/
def report (f : Failure) : String :=
  "Error: " ++ f.message ++ "\n" ++
    match f.cause with
    | none => ""
    | some cause => "\nCaused by:\n    " ++ cause ++ "\n"

end Failure

/-- The failure to convert a source, under the name that the source goes by. -/
def SourceError.failure (name : String) : SourceError → Failure
  | .notText => ⟨"failed to read lines of " ++ name, some "stream did not contain valid UTF-8"⟩
  | .tooShort e => ⟨"cannot convert " ++ name, some e.message⟩

end SourceWeaver
