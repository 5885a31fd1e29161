/-
  A whole run: from a command line and some files to an exit status, two texts and the files
  afterwards.
-/

import SourceWeaver.CommandLine.Help
import SourceWeaver.Session.Batch

namespace SourceWeaver.Session

open CommandLine (Arguments)
open Files

/-! ## What a run works on -/

/-- The input that stands for the standard input. -/
def inputMark : String := "-"

/-- Converts the standard input. -/
def runInput (w : Workspace) (v : HomeVariables) (a : Arguments) (input : ByteArray) : Outcome :=
  let log := settingsLog w v a none
  match settingsFor w v a none with
  | .error f => { workspace := w, log, failure := some f }
  | .ok cfg => (convertInput w cfg input).after log

section RunInput

variable {w : Workspace} {v : HomeVariables} {a : Arguments} (input : ByteArray)

theorem runInput_of_settings {cfg : Settings} (h : settingsFor w v a none = .ok cfg) :
    runInput w v a input = (convertInput w cfg input).after (settingsLog w v a none) := by
  unfold runInput
  dsimp only
  rw [h]

theorem runInput_of_fault {f : Failure} (h : settingsFor w v a none = .error f) :
    runInput w v a input = { workspace := w, log := settingsLog w v a none, failure := some f } := by
  unfold runInput
  dsimp only
  rw [h]

end RunInput

/-- Does what a command line asks for. -/
def perform (w : Workspace) (v : HomeVariables) (input : ByteArray) (a : Arguments) : Outcome :=
  if a.input.text = inputMark then runInput w v a input
  else if w.isFile a.input then runFile w v a none a.input
  else if !w.isDirectory a.input then
    { workspace := w
      failure := some { message := a.input.text ++ " is neither a file nor a directory" } }
  else if a.output.isSome then
    let message := "--output needs a single input file, but " ++ a.input.text ++ " is a directory"
    { workspace := w, failure := some { message } }
  else runDirectory w v a

/-! ## How a run ends -/

/-- The end of a run. -/
structure Exit where
  status : Nat
  stdout : String := ""
  stderr : String := ""
  workspace : Workspace

/-- The lowest level of log entries that a command line lets through. -/
def thresholdOf (a : Arguments) : Level :=
  if a.debug then .debug else if a.silent then .warn else .info

/-- How a run ends that leaves an outcome: a failure decides the status, and is reported behind the
    log. -/
def Outcome.exit (o : Outcome) (threshold : Level) : Exit :=
  let log := logText threshold o.log
  match o.failure with
  | none => { status := 0, stdout := o.printed, stderr := log, workspace := o.workspace }
  | some f =>
    { status := 1, stdout := o.printed, stderr := log ++ f.report, workspace := o.workspace }

/-- Runs a command line. -/
def run (w : Workspace) (v : HomeVariables) (input : ByteArray) (arguments : List String) : Exit :=
  match CommandLine.parse arguments with
  | .error .help => { status := 0, stdout := CommandLine.helpText, workspace := w }
  | .error .version => { status := 0, stdout := CommandLine.versionText, workspace := w }
  | .error (.refused e) => { status := 2, stderr := e.report, workspace := w }
  | .ok a => (perform w v input a).exit (thresholdOf a)

theorem status_exit_eq_zero_iff {o : Outcome} {threshold : Level} :
    (o.exit threshold).status = 0 ↔ o.failure = none := by
  unfold Outcome.exit
  cases o.failure <;> simp

theorem workspace_exit (o : Outcome) (threshold : Level) :
    (o.exit threshold).workspace = o.workspace := by
  unfold Outcome.exit
  cases o.failure <;> rfl

theorem stdout_exit (o : Outcome) (threshold : Level) :
    (o.exit threshold).stdout = o.printed := by
  unfold Outcome.exit
  cases o.failure <;> rfl

end SourceWeaver.Session
