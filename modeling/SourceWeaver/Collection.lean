/-
  The source files of a directory.

  A file is a source if its extension is a usual one, whatever the case of its letters, or one that
  was asked for.  It is left out if a pattern matches its whole path or one of the names in it.  The
  sources are put in the order of their paths.
-/

import SourceWeaver.Files.Walk
import SourceWeaver.Wildcard

namespace SourceWeaver

open Files

/-- Which files of a directory are wanted. -/
structure Selection where
  /-- Whether files in subdirectories are. -/
  recursive : Bool := false
  /-- Extensions of sources beside the usual ones, each possibly with a dot in front. -/
  extensions : List String := []
  /-- What is left out. -/
  excluded : List Wildcard.Pattern := []
deriving DecidableEq, Repr, Inhabited

namespace Selection

/-! ## Sources -/

/-- The extensions of source files, in lower case and without a dot. -/
def usualExtensions : List String :=
  ["c", "h", "cc", "cpp", "cxx", "hh", "hpp"]

/-- An extension without the dot that may stand in front of it. -/
def withoutDot (extension : String) : String :=
  match extension.toList with
  | '.' :: rest => String.ofList rest
  | _ => extension

/-- Whether files with an extension are sources. -/
def admits (s : Selection) (extension : String) : Bool :=
  usualExtensions.contains extension.toLower || s.extensions.any (withoutDot · == extension)

/-- Whether a path has an extension of source files. -/
def isSource (s : Selection) (p : Path) : Bool :=
  p.extension?.any s.admits

/-! ## Exclusion -/

/-- The names among the components of a path, against which patterns are matched one by one. -/
def namesOf (p : Path) : List String :=
  p.components.filterMap fun
    | .name text => some text
    | _ => none

/-- Whether a path is left out. -/
def isExcluded (s : Selection) (p : Path) : Bool :=
  s.excluded.any fun pattern => pattern.matches p.text || (namesOf p).any pattern.matches

/-! ## The files of a directory -/

/-- How many levels a search through subdirectories goes down. -/
def maxDepth : Nat := 256

/-- How many levels the files may lie below the directory. -/
def depth (s : Selection) : Nat :=
  if s.recursive then maxDepth else 1

/-- Whether a path leads to a file that is wanted. -/
def selects (s : Selection) (w : Workspace) (p : Path) : Bool :=
  w.isFile p && s.isSource p && !s.isExcluded p

/-- The wanted files of a directory, in the order of their paths. -/
def files (s : Selection) (w : Workspace) (directory : Path) : List Path :=
  ((w.filesBelow s.depth directory).filter (s.selects w)).mergeSort Path.le

theorem mem_files {s : Selection} {w : Workspace} {directory p : Path} :
    p ∈ s.files w directory ↔ p ∈ w.filesBelow s.depth directory ∧ s.selects w p = true := by
  simp [files, List.mem_filter]

end Selection

end SourceWeaver
