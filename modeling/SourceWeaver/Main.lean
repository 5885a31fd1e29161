/-
  The program: looks at what a command line names, runs the command line on it, and writes what has
  changed.

  A run sees the input, the file to write, the settings files that count for them, and the
  directories on the way there.  Directories are not listed, so a directory as the input is
  refused.
-/

import SourceWeaver.Session.Run

namespace SourceWeaver.Program

open Files

/-! ## Looking at files -/

/-- The number of the system's error for reading a directory as a file. -/
def directoryErrorNumber : UInt32 := 21

/-- What stands at a path, as far as reading it as a file tells: a directory is seen without its
    entries. -/
def lookAt (p : Path) : IO (Option Node) := do
  match ← (IO.FS.readBinFile p.text).toBaseIO with
  | .ok data => return some (.file (.bytes data) Workspace.newFileMode)
  | .error (.inappropriateType _ number _) =>
    return if number == directoryErrorNumber then some (.directory []) else none
  | .error _ => return none

/-- A workspace with what is at a path and at those above it. -/
def explore (w : Workspace) (p : Path) : IO Workspace :=
  p.ancestors.reverse.foldlM
    (fun w q => do
      if (w.node? q).isSome then return w
      match ← lookAt q with
      | some n => return { w with root := w.root.put n (w.placeOf q) }
      | none => return w)
    w

/-- A workspace in which nothing has been seen but the way to the working directory. -/
def emptyWorkspace (here : Path) : Workspace :=
  let location := Workspace.placeOf ⟨.directory [], []⟩ here
  ⟨(Node.directory []).put (.directory []) location, location⟩

/-! ## Running -/

/-- The paths that a command line names, and those of the settings files that may count. -/
def pathsToSee (w : Workspace) (v : HomeVariables) (a : CommandLine.Arguments) : List Path :=
  a.output.toList ++ a.config.toList
    ++ (v.directory?.map (·.join settingsFileName)).toList
    ++ Discovery.candidates w a.input

/-- The bytes of a stream up to its end. -/
partial def readAll (stream : IO.FS.Stream) (read : ByteArray) : IO ByteArray := do
  let more ← stream.read 65536
  if more.isEmpty then return read else readAll stream (read ++ more)

/-- Writes a file that a run has changed. -/
def save (before after : Workspace) (p : Path) : IO Unit := do
  match after.read p with
  | .ok (.bytes new, _) =>
    if (before.read p).toOption.map (·.1) ≠ some (.bytes new) then
      IO.FS.writeBinFile p.text new
  | _ => return

/-- Shows how a run ends. -/
def conclude (e : Session.Exit) : IO UInt32 := do
  IO.print e.stdout
  IO.eprint e.stderr
  return e.status.toUInt32

/-- Runs a command line. -/
def start (arguments : List String) : IO UInt32 := do
  let here := emptyWorkspace ⟨toString (← IO.currentDir)⟩
  let v : HomeVariables := ⟨← IO.getEnv "HOME", ← IO.getEnv "USERPROFILE"⟩
  match CommandLine.parse arguments with
  | .error _ => conclude (Session.run here v .empty arguments)
  | .ok a =>
    let input ← if a.input.text = Session.inputMark then readAll (← IO.getStdin) .empty
      else pure .empty
    let seen ← explore here a.input
    let w ← (pathsToSee seen v a).foldlM explore seen
    if a.input.text ≠ Session.inputMark && w.isDirectory a.input then
      IO.eprintln ("Error: " ++ a.input.text ++ " is a directory, and directories are not listed")
      return 1
    let e := Session.run w v input arguments
    (a.input :: a.output.toList).forM (save w e.workspace)
    conclude e

end SourceWeaver.Program

/-- The entry point of the program. -/
def main (arguments : List String) : IO UInt32 :=
  SourceWeaver.Program.start arguments
