/-
  The settings that a run converts with.

  They come from the settings file that the command line names or else from those that are found,
  changed by what the command line says itself.  Settings with a problem are not used
  (`valid_of_settingsFor`).
-/

import SourceWeaver.CommandLine.Options
import SourceWeaver.Discovery
import SourceWeaver.Failure
import SourceWeaver.Session.Log
import SourceWeaver.Settings.Problem

namespace SourceWeaver

open Files Text

/-- The settings with those of the command line on top. -/
def CommandLine.Arguments.adjust (a : CommandLine.Arguments) (s : Settings) : Settings :=
  { s with
    keepEntryPoint := s.keepEntryPoint || a.keepEntryPoint
    indentWidth := a.indentWidth.getD s.indentWidth
    fenceInfo := a.fenceInfo.getD s.fenceInfo }

/-- The settings as they are listed in the log. -/
def Settings.description (s : Settings) : List String :=
  ["Configuration:",
    "  keep_entry_point: " ++ (if s.keepEntryPoint then "true" else "false"),
    "  entry_point_open: " ++ quote s.entryOpen,
    "  entry_point_close: " ++ quote s.entryClose,
    "  include_prefix: " ++ quote s.includeMarker,
    "  comments: " ++ quote s.commentOpen ++ " ... " ++ quote s.commentClose ++ ", line comment "
      ++ quote s.lineComment,
    "  example_prefix: " ++ quote s.exampleWord,
    "  switch_keyword: " ++ quote s.switchWord,
    "  indent_width: " ++ toString s.indentWidth,
    "  fence: " ++ quote s.fence ++ " info " ++ quote s.fenceInfo]

namespace Session

open CommandLine (Arguments)

/-- Where the search for settings files starts: at the file to convert, or else in the working
    directory. -/
def searchStart (w : Workspace) (file : Option Path) : Path :=
  file.getD w.herePath

/-- The settings of files, for a file to convert or for the standard input. -/
def fileSettings (w : Workspace) (v : HomeVariables) (a : Arguments) (file : Option Path) :
    Except Failure Settings :=
  match a.config with
  | some p =>
    (Discovery.ofFile w p).mapError fun fault =>
      ⟨"failed to load config " ++ p.text, some fault.message⟩
  | none => .ok (Discovery.settings w v (searchStart w file))

/-- Settings, unless they have a problem. -/
def checked (s : Settings) : Except Failure Settings :=
  match s.problem? with
  | some problem => .error { message := "Invalid configuration: " ++ problem.message }
  | none => .ok s

/-- The settings to convert with. -/
def settingsFor (w : Workspace) (v : HomeVariables) (a : Arguments) (file : Option Path) :
    Except Failure Settings :=
  match fileSettings w v a file with
  | .error f => .error f
  | .ok s => checked (a.adjust s)

/-- What is logged about the search for settings files. -/
def searchLog (w : Workspace) (v : HomeVariables) (a : Arguments) (file : Option Path) :
    List Entry :=
  match a.config with
  | some p => entries .debug ["Using explicit config file: " ++ p.text]
  | none =>
    let start := searchStart w file
    let found := Discovery.files w v start
    let findings :=
      if found.isEmpty then ["No config files discovered for " ++ start.text]
      else ("Discovered config files for " ++ start.text ++ ":")
        :: found.map fun p => "  - " ++ p.text
    entries .debug findings ++ entries .warn (Discovery.warnings w found)

/-- What is logged about the settings to convert with. -/
def settingsLog (w : Workspace) (v : HomeVariables) (a : Arguments) (file : Option Path) :
    List Entry :=
  searchLog w v a file ++
    match fileSettings w v a file with
    | .error _ => []
    | .ok s => entries .debug (a.adjust s).description

theorem checked_eq_ok_iff {s t : Settings} : checked s = .ok t ↔ s = t ∧ s.Valid := by
  unfold checked Settings.Valid
  cases h : s.problem? <;> simp

/-- Settings that are used have no problem. -/
theorem valid_of_settingsFor {w : Workspace} {v : HomeVariables} {a : Arguments}
    {file : Option Path} {s : Settings} (h : settingsFor w v a file = .ok s) : s.Valid := by
  unfold settingsFor at h
  cases hf : fileSettings w v a file with
  | error f => simp [hf] at h
  | ok base =>
    simp only [hf] at h
    obtain ⟨rfl, hv⟩ := checked_eq_ok_iff.1 h
    exact hv

end Session

end SourceWeaver
