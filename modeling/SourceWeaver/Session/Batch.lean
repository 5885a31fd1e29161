/-
  Converting several files, one after the other.

  Each file is converted with settings of its own, unless the whole batch has settings in common.
  A file that fails is reported and does not keep the others from being converted.
-/

import SourceWeaver.Collection
import SourceWeaver.Session.Configuration
import SourceWeaver.Session.Delivery

namespace SourceWeaver.Session

open CommandLine (Arguments)
open Files

/-! ## One file -/

/-- Converts a file with the settings that its batch has in common, or else with its own. -/
def runFile (w : Workspace) (v : HomeVariables) (a : Arguments) (common : Option Settings)
    (p : Path) : Outcome :=
  match common with
  | some cfg => convertFile w (destinationOf a) cfg p
  | none =>
    let log := settingsLog w v a (some p)
    match settingsFor w v a (some p) with
    | .error f => { workspace := w, log, failure := some f }
    | .ok cfg => (convertFile w (destinationOf a) cfg p).after log

/-! ## All files -/

/-- What a batch leaves behind: the files, what it prints and logs, and the number of files that
    failed. -/
structure BatchOutcome where
  workspace : Workspace
  printed : String := ""
  log : List Entry := []
  failures : Nat := 0

/-- The report on a file of a batch that may have failed. -/
def failureLog (p : Path) : Option Failure → List Entry
  | some f => entries .error ["Error converting " ++ p.text ++ ": " ++ f.summary]
  | none => []

/-- Converts files in the given order. -/
def batch (w : Workspace) (v : HomeVariables) (a : Arguments) (common : Option Settings) :
    List Path → BatchOutcome
  | [] => { workspace := w }
  | p :: rest =>
    -- what one file leaves behind is what the next one meets, settings files included
    let one := runFile w v a common p
    let others := batch one.workspace v a common rest
    { workspace := others.workspace
      printed := one.printed ++ others.printed
      log := one.log ++ failureLog p one.failure ++ others.log
      failures := (if one.failure.isSome then 1 else 0) + others.failures }

/-! ## Directories -/

/-- The settings that all files of a directory have in common: those of the settings file that the
    command line names, if it names one. -/
def commonSettings (w : Workspace) (v : HomeVariables) (a : Arguments) :
    Except Failure (Option Settings) :=
  if a.config.isSome then (settingsFor w v a none).map some else .ok none

/-- What is logged about common settings. -/
def commonLog (w : Workspace) (v : HomeVariables) (a : Arguments) : List Entry :=
  if a.config.isSome then settingsLog w v a none else []

/-- The files of a directory that a command line asks for.  Patterns that cannot be read leave
    nothing out. -/
def selectionOf (a : Arguments) : Selection :=
  { recursive := a.recursive
    extensions := a.extensions
    excluded := a.exclude.filterMap fun text => (Wildcard.parse text).toOption }

/-- The warnings about patterns that cannot be read. -/
def patternLog (a : Arguments) : List Entry :=
  entries .warn <| a.exclude.filterMap fun text =>
    match Wildcard.parse text with
    | .ok _ => none
    | .error e =>
      some ("ignoring invalid exclude pattern " ++ Text.quote text ++ ": " ++ e.message)

/-- The summary of a batch; none is given where the outcomes of the files show in their order. -/
def summaryLog (a : Arguments) (total failures : Nat) : List Entry :=
  if a.stdout || a.jobs == some 1 then []
  else if failures = 0 then
    entries .info ["Converted " ++ toString total ++ " files successfully."]
  else
    entries .info ["Converted " ++ toString (total - failures) ++ " files, "
      ++ toString failures ++ " errors."]

/-- The failure of a batch, if any of its files failed. -/
def batchFailure (total failures : Nat) : Option Failure :=
  if failures = 0 then none
  else
    let message := toString failures ++ " of " ++ toString total ++ " files failed to convert"
    some { message }

/-- Converts files in the given order and sums up. -/
def runFiles (w : Workspace) (v : HomeVariables) (a : Arguments) (common : Option Settings)
    (files : List Path) : Outcome :=
  if files.isEmpty then
    { workspace := w, log := entries .info ["No source files found in " ++ a.input.text] }
  else
    let b := batch w v a common files
    { workspace := b.workspace
      printed := b.printed
      log := b.log ++ summaryLog a files.length b.failures
      failure := batchFailure files.length b.failures }

/-- Converts the wanted files of a directory. -/
def runDirectory (w : Workspace) (v : HomeVariables) (a : Arguments) : Outcome :=
  match commonSettings w v a with
  | .error f => { workspace := w, log := commonLog w v a, failure := some f }
  | .ok common =>
    (runFiles w v a common ((selectionOf a).files w a.input)).after
      (commonLog w v a ++ patternLog a)

/-! ## Small laws -/

theorem runFile_of_settings {w : Workspace} {v : HomeVariables} {a : Arguments} {p : Path}
    {cfg : Settings} (h : settingsFor w v a (some p) = .ok cfg) :
    runFile w v a none p =
      (convertFile w (destinationOf a) cfg p).after (settingsLog w v a (some p)) := by
  unfold runFile
  dsimp only
  rw [h]

theorem runFile_of_fault {w : Workspace} {v : HomeVariables} {a : Arguments} {p : Path}
    {f : Failure} (h : settingsFor w v a (some p) = .error f) :
    runFile w v a none p =
      { workspace := w, log := settingsLog w v a (some p), failure := some f } := by
  unfold runFile
  dsimp only
  rw [h]

theorem commonSettings_of_no_config {w : Workspace} {v : HomeVariables} {a : Arguments}
    (h : a.config = none) : commonSettings w v a = .ok none := by
  rw [commonSettings, h]
  rfl

theorem batch_nil (w : Workspace) (v : HomeVariables) (a : Arguments) (common : Option Settings) :
    batch w v a common [] = { workspace := w } := rfl

theorem workspace_batch_cons (w : Workspace) (v : HomeVariables) (a : Arguments)
    (common : Option Settings) (p : Path) (rest : List Path) :
    (batch w v a common (p :: rest)).workspace =
      (batch (runFile w v a common p).workspace v a common rest).workspace := rfl

theorem printed_batch_cons (w : Workspace) (v : HomeVariables) (a : Arguments)
    (common : Option Settings) (p : Path) (rest : List Path) :
    (batch w v a common (p :: rest)).printed =
      (runFile w v a common p).printed ++
        (batch (runFile w v a common p).workspace v a common rest).printed := rfl

theorem failures_batch_cons (w : Workspace) (v : HomeVariables) (a : Arguments)
    (common : Option Settings) (p : Path) (rest : List Path) :
    (batch w v a common (p :: rest)).failures =
      (if (runFile w v a common p).failure.isSome then 1 else 0) +
        (batch (runFile w v a common p).workspace v a common rest).failures := rfl

theorem batchFailure_eq_none_iff {total failures : Nat} :
    batchFailure total failures = none ↔ failures = 0 := by
  unfold batchFailure
  split <;> simp [*]

end SourceWeaver.Session
