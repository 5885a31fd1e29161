/-
  Finding settings files.

  The settings of the home directory come first, then those of the directories that the start lies
  in, from the outermost to the innermost; each sets what it mentions, so the last one wins.  A
  file that cannot be read or is no settings file contributes nothing.
-/

import SourceWeaver.Files.Workspace
import SourceWeaver.Settings.Toml

namespace SourceWeaver

open Files

/-- The name of settings files that are found without being named. -/
def settingsFileName : String := "code2md.toml"

/-- The variables that name a home directory; the first that is set counts. -/
structure HomeVariables where
  home : Option String := none
  userProfile : Option String := none
deriving DecidableEq, Repr, Inhabited

/-- The home directory, if a variable names one. -/
def HomeVariables.directory? (v : HomeVariables) : Option Path :=
  (v.home <|> v.userProfile).map Path.mk

namespace Discovery

/-! ## Where settings files are -/

/-- The settings file of the home directory, if there is one. -/
def homeFile? (w : Workspace) (v : HomeVariables) : Option Path :=
  (v.directory?.map (·.join settingsFileName)).filter w.isFile

/-- The directory in which a search starts: that of a file, a directory itself, and for anything
    else the working directory. -/
def startDirectory? (w : Workspace) (start : Path) : Option Path :=
  if w.isFile start then start.parent?
  else if w.isDirectory start then some start
  else some w.herePath

/-- The paths at which a search looks below the home directory's file, outermost first. -/
def candidates (w : Workspace) (start : Path) : List Path :=
  match startDirectory? w start with
  | some directory => directory.ancestors.reverse.map (·.join settingsFileName)
  | none => []

/-- The files found so far and one more, unless it is no file or is there already. -/
def addFile (w : Workspace) (found : List Path) (p : Path) : List Path :=
  if w.isFile p && !found.any (·.same p) then found ++ [p] else found

/-- The settings files for a start, in the order in which they apply. -/
def files (w : Workspace) (v : HomeVariables) (start : Path) : List Path :=
  (candidates w start).foldl (addFile w) (homeFile? w v).toList

/-! ## What settings files say -/

/-- Why a settings file contributes nothing. -/
inductive Fault where
  | unreadable (e : FileError)
  | malformed
deriving DecidableEq, Repr

/-- What a settings file that is no TOML, or sets something to a value of the wrong kind, is
    reported as. -/
def malformedMessage : String := "invalid settings"

/-- The warning about a settings file. -/
def Fault.warning (p : Path) : Fault → String
  | unreadable e => "failed to read " ++ p.text ++ ": " ++ e.message
  | malformed => "failed to parse " ++ p.text ++ ": " ++ malformedMessage

/-- The layer of a settings file. -/
def layer (w : Workspace) (p : Path) : Except Fault Layer :=
  match w.readText p with
  | .error e => .error (.unreadable e)
  | .ok text =>
    match Layer.ofToml? text with
    | some l => .ok l
    | none => .error .malformed

/-- Settings with those of one more file on top. -/
def applyFile (w : Workspace) (s : Settings) (p : Path) : Settings :=
  match layer w p with
  | .ok l => l.apply s
  | .error _ => s

/-- The settings that several files describe together. -/
def merged (w : Workspace) (ps : List Path) : Settings :=
  ps.foldl (applyFile w) {}

/-- The settings for a start. -/
def settings (w : Workspace) (v : HomeVariables) (start : Path) : Settings :=
  merged w (files w v start)

/-- The warnings about settings files. -/
def warnings (w : Workspace) (ps : List Path) : List String :=
  ps.filterMap fun p =>
    match layer w p with
    | .ok _ => none
    | .error fault => some (fault.warning p)

/-- The settings that one file describes by itself. -/
def ofFile (w : Workspace) (p : Path) : Except Fault Settings :=
  (layer w p).map (·.apply {})

/-- Why a file that was asked for is no settings file. -/
def Fault.message : Fault → String
  | unreadable e => e.message
  | malformed => malformedMessage

end Discovery

end SourceWeaver
