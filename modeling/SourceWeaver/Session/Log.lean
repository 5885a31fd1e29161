/-
  The log of a run.

  Whatever a run does, it records everything worth saying together with a level.  Only entries of
  some level or above are shown.
-/

import SourceWeaver.Text.Lines

namespace SourceWeaver.Session

/-- How much a log entry matters. -/
inductive Level where
  | debug
  | info
  | warn
  | error
deriving DecidableEq, Repr

namespace Level

/-- The name of a level in the log. -/
def label : Level → String
  | debug => "DEBUG"
  | info => "INFO"
  | warn => "WARN"
  | error => "ERROR"

/-- The place of a level, details first. -/
def rank : Level → Nat
  | debug => 0
  | info => 1
  | warn => 2
  | error => 3

end Level

/-- An entry of the log. -/
structure Entry where
  level : Level
  text : String
deriving DecidableEq, Repr

/-- An entry as a line of the log. -/
def Entry.line (e : Entry) : String :=
  "[" ++ e.level.label ++ "] " ++ e.text

/-- Entries of one level. -/
def entries (level : Level) (texts : List String) : List Entry :=
  texts.map (Entry.mk level)

/-- The entries that a threshold lets through. -/
def shown (threshold : Level) (log : List Entry) : List Entry :=
  log.filter fun e => threshold.rank ≤ e.level.rank

/-- The log as it is shown, with one line for each entry. -/
def logText (threshold : Level) (log : List Entry) : String :=
  Text.unlines ((shown threshold log).map Entry.line)

end SourceWeaver.Session
