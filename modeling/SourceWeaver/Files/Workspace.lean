/-
  A file tree with a working directory: how paths lead to nodes, and reading and writing.

  A path is followed name by name from the root or the working directory.  A symbolic link on the
  way is replaced by its target, at most `maxLinks` times; a trailing separator asks for a
  directory, and so refuses a file that is to be created.
-/

import SourceWeaver.Files.Tree
import SourceWeaver.Path

namespace SourceWeaver.Files

/-! ## Errors -/

/-- Why a file cannot be reached or read. -/
inductive FileError where
  | zeroByte
  | notFound
  | notDirectory
  | isDirectory
  | nameTooLong
  | tooManyLinks
  | notText
deriving DecidableEq, Repr

/-- An error in the words of the system, with the system's number for it. -/
def FileError.message : FileError → String
  | zeroByte => "file name contained an unexpected NUL byte"
  | notFound => "No such file or directory (os error 2)"
  | notDirectory => "Not a directory (os error 20)"
  | isDirectory => "Is a directory (os error 21)"
  | nameTooLong => "File name too long (os error 36)"
  | tooManyLinks => "Too many levels of symbolic links (os error 40)"
  | notText => "stream did not contain valid UTF-8"

/-! ## Following paths -/

/-- The most symbolic links that one path may pass through. -/
def maxLinks : Nat := 40

/-- The most bytes of a name. -/
def maxNameSize : Nat := 255

/-- The most bytes of a path. -/
def maxPathSize : Nat := 4095

/-- Whether a path asks for a directory by a separator at its end. -/
def endsInSeparator (text : String) : Bool :=
  text.toList.getLast? == some '/'

/-- The names to follow for a path.  A separator at the end counts as a last, empty name. -/
def hops (text : String) : List String :=
  ((Path.partsOf text.toList).filter (· ≠ [])).map String.ofList
    ++ if endsInSeparator text then [""] else []

/-- Whether a name stays in the directory it is followed from. -/
def stays (hop : String) : Bool :=
  hop = "" || hop = "."

/-- Where the target of a link starts, if the link stands in the directory `here`. -/
def startOf (text : String) (here : Location) : Location :=
  if text.toList.head? == some '/' then [] else here

/-- Where names lead from the directory `here` if there are no links on the way. -/
def descend (here : Location) (names : List String) : Location :=
  names.foldl
    (fun here hop =>
      if stays hop then here else if hop = ".." then here.dropLast else here ++ [hop])
    here

/-- Follows names from the directory `here`; a link on the way is left to `onLink`.  If a file may
    be created, the last name need not be there, and a last name with a separator behind it is
    refused before it is looked up. -/
def advance (root : Node) (creating : Bool)
    (onLink : Location → List String → Except FileError Location) (here : Location) :
    List String → Except FileError Location
  | [] => .ok here
  | hop :: rest =>
    if stays hop then advance root creating onLink here rest
    else if hop = ".." then advance root creating onLink here.dropLast rest
    -- a separator behind the last name asks for a directory, which is not made
    else if creating && rest = [""] then .error .isDirectory
    else if maxNameSize < hop.utf8ByteSize then .error .nameTooLong
    else match root.at? (here ++ [hop]) with
      | none => if creating && rest.isEmpty then .ok (here ++ [hop]) else .error .notFound
      | some (.file _ _) => if rest.isEmpty then .ok (here ++ [hop]) else .error .notDirectory
      | some (.directory _) => advance root creating onLink (here ++ [hop]) rest
      | some (.link target) => onLink (startOf target here) (hops target ++ rest)

/-- Follows names from a directory through less than `n` links. -/
def follow (root : Node) (creating : Bool) :
    Nat → Location → List String → Except FileError Location
  | 0, _, _ => .error .tooManyLinks
  | n + 1, here, names => advance root creating (follow root creating n) here names

/-! ## Workspaces -/

/-- A file tree and the directory in which relative paths start. -/
structure Workspace where
  root : Node
  here : Location
deriving Inhabited

namespace Workspace

/-- Where a path leads if a file may be created or not. -/
def locateFor (w : Workspace) (creating : Bool) (p : Path) : Except FileError Location :=
  if p.text.toList.contains '\x00' then .error .zeroByte
  else if p.text = "" then .error .notFound
  else if maxPathSize < p.text.utf8ByteSize then .error .nameTooLong
  else follow w.root creating (maxLinks + 1) (startOf p.text w.here) (hops p.text)

/-- Where a path leads. -/
def locate (w : Workspace) (p : Path) : Except FileError Location :=
  w.locateFor false p

/-- Where a path leads if there are no links. -/
def placeOf (w : Workspace) (p : Path) : Location :=
  descend (startOf p.text w.here) (hops p.text)

/-- The node that a path leads to, if it leads to one. -/
def node? (w : Workspace) (p : Path) : Option Node :=
  match w.locate p with
  | .ok l => w.root.at? l
  | .error _ => none

/-- Whether a path leads to a file. -/
def isFile (w : Workspace) (p : Path) : Bool :=
  match w.node? p with
  | some (.file _ _) => true
  | _ => false

/-- Whether a path leads to a directory. -/
def isDirectory (w : Workspace) (p : Path) : Bool :=
  match w.node? p with
  | some (.directory _) => true
  | _ => false

/-- The path of the working directory. -/
def herePath (w : Workspace) : Path :=
  ⟨"/" ++ "/".intercalate w.here⟩

/-! ## Reading -/

/-- The content and the mode of the file that a path leads to. -/
def read (w : Workspace) (p : Path) : Except FileError (Content × Nat) :=
  match w.locate p with
  | .error e => .error e
  | .ok l =>
    match w.root.at? l with
    | some (.file content mode) => .ok (content, mode)
    | some (.directory _) => .error .isDirectory
    | _ => .error .notFound

/-- The content of a file as text; bytes that are not valid UTF-8 are no text. -/
def readText (w : Workspace) (p : Path) : Except FileError String :=
  match w.read p with
  | .error e => .error e
  | .ok (content, _) =>
    match content.text? with
    | some text => .ok text
    | none => .error .notText

/-! ## Writing -/

/-- The mode of a file that is created by writing to it. -/
def newFileMode : Nat := 0o644

/-- Where a file is written that may have to be created. -/
def locateForWriting (w : Workspace) (p : Path) : Except FileError Location :=
  match w.locateFor true p with
  | .error e => .error e
  | .ok l =>
    match w.root.at? l with
    | some (.directory _) => .error .isDirectory
    | _ => .ok l

/-- The workspace after a file has been written through links; a file that is there keeps its
    mode. -/
def write (w : Workspace) (p : Path) (content : Content) : Except FileError Workspace :=
  match w.locateForWriting p with
  | .error e => .error e
  | .ok l =>
    let mode := match w.root.at? l with
      | some (.file _ mode) => mode
      | _ => newFileMode
    .ok { w with root := w.root.put (.file content mode) l }

/-- The directory in which a file is replaced. -/
def directoryOf (p : Path) : Path :=
  match p.parent? with
  | some above => if above.text = "" then ⟨"."⟩ else above
  | none => ⟨"."⟩

/-- A name such as temporary files have, one for each number. -/
def temporaryName (n : Nat) : String :=
  ".tmp" ++ toString (100000 + n)

/-- The first name for a temporary file that is not taken. -/
def freshName (taken : List String) : String :=
  (((List.range (taken.length + 1)).map temporaryName).find? (!taken.contains ·)).getD
    (temporaryName 0)

/-- The full path of a temporary file beside a path. -/
def temporaryPath (w : Workspace) (p : Path) : Path :=
  (w.herePath.join (directoryOf p).text).join (temporaryName 0)

/-- The mode of a file that nobody else may use. -/
def privateMode : Nat := 0o600

/-- The tree after a new file has been moved to a name in a directory, over what is there: first it
    is a temporary file, which is made for its owner alone, filled, and given its mode. -/
def placeFile (root : Node) (directory : Location) (taken : List String) (name : String)
    (content : Content) (mode : Nat) : Node :=
  let temporary := directory ++ [freshName taken]
  let made := root.put (.file (.bytes .empty) privateMode) temporary
  let filled := made.put (.file content privateMode) temporary
  let permitted := filled.put (.file content mode) temporary
  permitted.move temporary (directory ++ [name])

/-- The workspace after a path has come to name a new file; a link of that name gives way, and a
    directory does not.  The path of the temporary file must not be too long either. -/
def replace (w : Workspace) (p : Path) (content : Content) (mode : Nat) :
    Except FileError Workspace :=
  if maxPathSize < (w.temporaryPath p).text.utf8ByteSize then .error .nameTooLong
  else match w.locate (directoryOf p) with
    | .error e => .error e
    | .ok l =>
      match w.root.at? l, p.fileName? with
      | some (.directory es), some name =>
        match w.root.at? (l ++ [name]) with
        | some (.directory _) => .error .isDirectory
        | _ => .ok { w with root := placeFile w.root l (es.map (·.1)) name content mode }
      | some (.directory _), none => .error .isDirectory
      | _, _ => .error .notDirectory

end Workspace

end SourceWeaver.Files
