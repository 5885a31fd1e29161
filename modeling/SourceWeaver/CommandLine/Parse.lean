/-
  Reading a command line.

  Arguments are read from left to right.  An option without an attached value waits for the next
  argument, and what has been read is checked when the next thing comes: so an unknown option is
  reported before a bad value right in front of it, and everything else in the order of the
  arguments.  Options that exclude each other and a missing input are noticed at the end.
-/

import SourceWeaver.CommandLine.Options
import SourceWeaver.Text.Numeral

namespace SourceWeaver.CommandLine

open Text

/-! ## Outcomes -/

/-- Why a command line is refused. -/
inductive UsageError where
  | missingInput
  | unknownArgument (argument : String)
  | repeated (option : Opt)
  | exclusive (a b : Opt)
  | badNumber (field : Field) (value : String)
  | missingValue (field : Field)
  | emptyPath
  | unneededValue (flag : Flag) (value : String)
deriving DecidableEq, Repr

/-- Why reading a command line stops without arguments to run with. -/
inductive Stop where
  | refused (e : UsageError)
  | help
  | version
deriving DecidableEq, Repr

/-! ## What has been read -/

/-- The values and flags that have been read and checked. -/
structure Taken where
  input : Option Path := none
  extra : Bool := false
  flags : List Flag := []
  output : Option Path := none
  indentWidth : Option Nat := none
  fenceInfo : Option String := none
  config : Option Path := none
  exclude : List String := []
  extensions : List String := []
  jobs : Option Nat := none
deriving DecidableEq, Repr

/-- What has been read and not been checked yet. -/
inductive Pending where
  | input (value : String)
  | extra
  | field (f : Field) (value : Option String)
deriving DecidableEq, Repr

/-- How far reading has come. -/
structure Progress where
  taken : Taken := {}
  pending : Option Pending := none
  /-- The number of positional arguments so far. -/
  positionals : Nat := 0
  /-- Whether only positional arguments follow. -/
  onlyPositionals : Bool := false
deriving DecidableEq, Repr

namespace Taken

/-- A path must not be empty. -/
def checkPath (value : String) : Except Stop Path :=
  if value = "" then .error (.refused .emptyPath) else .ok ⟨value⟩

/-- A count must be a numeral. -/
def checkCount (f : Field) (value : String) : Except Stop Nat :=
  match word? value with
  | some n => .ok n
  | none => .error (.refused (.badNumber f value))

/-- An option that may stand once must not have a value yet. -/
def once (f : Field) (current : Option α) (check : Except Stop α) : Except Stop (Option α) :=
  if current.isSome then .error (.refused (.repeated (.field f))) else some <$> check

/-- Takes the value of a field.  Patterns and extensions add up, any other field stands once. -/
def takeField (t : Taken) (f : Field) (value : String) : Except Stop Taken :=
  match f with
  | .output => (once f t.output (checkPath value)).map fun v => { t with output := v }
  | .indentWidth =>
    (once f t.indentWidth (checkCount f value)).map fun v => { t with indentWidth := v }
  | .fenceInfo => (once f t.fenceInfo (.ok value)).map fun v => { t with fenceInfo := v }
  | .config => (once f t.config (checkPath value)).map fun v => { t with config := v }
  | .exclude => .ok { t with exclude := t.exclude ++ [value] }
  | .extension => .ok { t with extensions := t.extensions ++ [value] }
  | .jobs => (once f t.jobs (checkCount f value)).map fun v => { t with jobs := v }

/-- Takes a flag.  A request for help or the version ends the reading at once. -/
def takeFlag (t : Taken) (f : Flag) : Except Stop Taken :=
  match f with
  | .help => .error .help
  | .version => .error .version
  | f =>
    if t.flags.contains f then .error (.refused (.repeated (.flag f)))
    else .ok { t with flags := t.flags ++ [f] }

/-- Takes what was left pending, now that all of it has been read. -/
def takePending (t : Taken) : Pending → Except Stop Taken
  | .input value => (checkPath value).map fun p => { t with input := some p }
  | .extra => .ok { t with extra := true }
  | .field f (some value) => t.takeField f value
  | .field f none => .error (.refused (.missingValue f))

end Taken

namespace Progress

/-- Checks what is pending. -/
def settle (p : Progress) : Except Stop Progress :=
  match p.pending with
  | none => .ok p
  | some pending =>
    (p.taken.takePending pending).map fun t => { p with taken := t, pending := none }

/-! ## Arguments -/

/-- Reads a positional argument: the first is the input, any second keeps the wrapper. -/
def readPositional (p : Progress) (argument : String) : Except Stop Progress :=
  match p.positionals with
  | 0 => p.settle.map fun p => { p with pending := some (.input argument), positionals := 1 }
  | 1 => p.settle.map fun p => { p with pending := some .extra, positionals := 2 }
  | _ => .error (.refused (.unknownArgument argument))

/-- Reads an option that takes a value. -/
def readField (p : Progress) (f : Field) (attached : Option String) : Except Stop Progress := do
  let p ← p.settle
  match attached with
  | some value => (p.taken.takeField f value).map fun t => { p with taken := t }
  | none => return { p with pending := some (.field f none) }

/-- Reads an option that stands alone. -/
def readFlag (p : Progress) (f : Flag) : Except Stop Progress := do
  let p ← p.settle
  (p.taken.takeFlag f).map fun t => { p with taken := t }

/-- Reads a long option, from behind its dashes. -/
def readLong (p : Progress) (text : List Char) : Except Stop Progress :=
  let name := String.ofList (text.takeWhile (· != '='))
  let attached := match text.dropWhile (· != '=') with
    | _ :: value => some (String.ofList value)
    | [] => none
  match Opt.ofLongName? name, attached with
  | none, _ => .error (.refused (.unknownArgument ("--" ++ String.ofList text)))
  | some (.field f), attached => p.readField f attached
  | some (.flag f), none => p.readFlag f
  | some (.flag f), some value => .error (.refused (.unneededValue f value))

/-- Reads letters behind one dash: flags, and at the end possibly a field, whose value may follow
    at once or behind an equals sign. -/
def readLetters (p : Progress) : List Char → Except Stop Progress
  | [] => .ok p
  | c :: rest =>
    match Opt.ofLetter? c with
    | none => .error (.refused (.unknownArgument (String.ofList ['-', c])))
    | some (.flag f) =>
      match p.readFlag f with
      | .ok p => p.readLetters rest
      | .error e => .error e
    | some (.field f) =>
      -- all that follows is the value, with or without an equals sign in front
      p.readField f <| match rest with
        | [] => none
        | '=' :: value => some (String.ofList value)
        | value => some (String.ofList value)

/-- Reads an argument that is no option: the value of a waiting field or a positional. -/
def readPlain (p : Progress) (argument : String) : Except Stop Progress :=
  -- behind a double dash a waiting field gets nothing, so this is not asked there
  match p.pending with
  | some (.field f none) => .ok { p with pending := some (.field f (some argument)) }
  | _ => p.readPositional argument

/-- Reads one argument of a command line. -/
def read (p : Progress) (argument : String) : Except Stop Progress :=
  if p.onlyPositionals then p.readPositional argument
  else match argument.toList with
    | ['-', '-'] => .ok { p with onlyPositionals := true }
    | '-' :: '-' :: rest => p.readLong rest
    | '-' :: c :: rest => p.readLetters (c :: rest)
    | _ => p.readPlain argument

end Progress

/-! ## Command lines -/

/-- Options of which only one may stand. -/
def exclusivePair? (t : Taken) : Option (Opt × Opt) :=
  if t.output.isSome && t.flags.contains .stdout then some (.field .output, .flag .stdout)
  else if t.flags.contains .silent && t.flags.contains .debug then
    some (.flag .silent, .flag .debug)
  else none

/-- The arguments to run with, from everything that has been read. -/
def Taken.arguments (t : Taken) : Except Stop Arguments :=
  match exclusivePair? t, t.input with
  | some (a, b), _ => .error (.refused (.exclusive a b))
  | none, none => .error (.refused .missingInput)
  | none, some input => .ok {
      input
      keepEntryPoint := t.extra || t.flags.contains .keepEntryPoint
      output := t.output
      stdout := t.flags.contains .stdout
      indentWidth := t.indentWidth
      fenceInfo := t.fenceInfo
      config := t.config
      recursive := t.flags.contains .recursive
      exclude := t.exclude
      extensions := t.extensions
      jobs := t.jobs
      silent := t.flags.contains .silent
      debug := t.flags.contains .debug }

/-- Reads a command line. -/
def parse (arguments : List String) : Except Stop Arguments := do
  let read ← arguments.foldlM Progress.read {}
  let settled ← read.settle
  settled.taken.arguments

end SourceWeaver.CommandLine
