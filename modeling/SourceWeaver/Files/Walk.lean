/-
  The files below a directory.

  A walk goes into directories and through symbolic links to directories, to a given depth.  A link
  that leads back to a directory that the walk is in is left out, and so is one that leads nowhere.
-/

import SourceWeaver.Files.Workspace

namespace SourceWeaver.Files.Workspace

/-- The names in the directory at a location, in the order of its entries. -/
def namesAt (w : Workspace) (l : Location) : List String :=
  match w.root.at? l with
  | some n => n.entries.map (·.1)
  | none => []

/-- The directory that a node is or leads to: its location, unless a link leads back to one of the
    directories `above`. -/
def enter? (w : Workspace) (above : List Location) (p : Path) (l : Location) : Option Location :=
  match w.root.at? l with
  | some (.directory _) => some l
  -- only a link can lead back to where the walk has come through
  | some (.link _) =>
    match w.locate p with
    | .ok target => if w.isDirectory p && !above.contains target then some target else none
    | .error _ => none
  | _ => none

/-- The paths of all files at most `depth` levels below a directory; `above` holds the locations of
    the directory and of those that the walk came through. -/
def walk (w : Workspace) : Nat → List Location → Path → Location → List Path
  | 0, _, _, _ => []
  | depth + 1, above, p, l =>
    (w.namesAt l).flatMap fun name =>
      let below := p.join name
      match w.enter? above below (l ++ [name]) with
      | some target => walk w depth (target :: above) below target
      | none => if w.isFile below then [below] else []

/-- The paths of the files at most `depth` levels below the directory of a path. -/
def filesBelow (w : Workspace) (depth : Nat) (p : Path) : List Path :=
  match w.locate p with
  | .ok l => w.walk depth [l] p l
  | .error _ => []

end SourceWeaver.Files.Workspace
