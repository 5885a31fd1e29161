/-
  The options of the command line.

  A flag stands alone, a field takes a value.  Each has a long name, most have a letter, and all
  appear in the help text in the order of `Opt.all`.
-/

import SourceWeaver.Path

namespace SourceWeaver.CommandLine

/-! ## Options -/

/-- Options that stand alone. -/
inductive Flag where
  | keepEntryPoint
  | stdout
  | recursive
  | silent
  | debug
  | help
  | version
deriving DecidableEq, Repr

/-- Options that take a value. -/
inductive Field where
  | output
  | indentWidth
  | fenceInfo
  | config
  | exclude
  | extension
  | jobs
deriving DecidableEq, Repr

/-- An option of either sort. -/
inductive Opt where
  | flag (f : Flag)
  | field (f : Field)
deriving DecidableEq, Repr

namespace Opt

/-- All options, in the order of the help text. -/
def all : List Opt :=
  [flag .keepEntryPoint, field .output, flag .stdout, field .indentWidth, field .fenceInfo,
    field .config, flag .recursive, field .exclude, field .extension, field .jobs, flag .silent,
    flag .debug, flag .help, flag .version]

/-- The letter that stands for an option behind one dash, if it has one. -/
def letter? : Opt → Option Char
  | flag .keepEntryPoint => 'k'
  | flag .stdout => 's'
  | flag .recursive => 'r'
  | flag .silent => 'S'
  | flag .debug => 'D'
  | flag .help => 'h'
  | flag .version => 'V'
  | field .output => 'o'
  | field .indentWidth => 'i'
  | field .fenceInfo => none
  | field .config => 'c'
  | field .exclude => 'e'
  | field .extension => 'x'
  | field .jobs => 'j'

/-- The name of an option behind two dashes. -/
def longName : Opt → String
  | flag .keepEntryPoint => "keep-entry-point"
  | flag .stdout => "stdout"
  | flag .recursive => "recursive"
  | flag .silent => "silent"
  | flag .debug => "debug"
  | flag .help => "help"
  | flag .version => "version"
  | field .output => "output"
  | field .indentWidth => "indent-width"
  | field .fenceInfo => "fence-info"
  | field .config => "config"
  | field .exclude => "exclude"
  | field .extension => "extension"
  | field .jobs => "jobs"

/-- The option that a letter stands for. -/
def ofLetter? (c : Char) : Option Opt :=
  all.find? fun o => o.letter? == some c

/-- The option of a name; names are not shortened. -/
def ofLongName? (name : String) : Option Opt :=
  all.find? fun o => o.longName == name

end Opt

/-! ## What a command line asks for -/

/-- What a command line asks for. -/
structure Arguments where
  /-- The source file or directory; a single dash stands for the standard input. -/
  input : Path
  /-- Whether the entry-point wrapper stays. -/
  keepEntryPoint : Bool := false
  /-- The file to write instead of the input. -/
  output : Option Path := none
  /-- Whether to print instead of writing. -/
  stdout : Bool := false
  /-- Spaces per level of indentation. -/
  indentWidth : Option Nat := none
  /-- What follows the fence where a code block opens. -/
  fenceInfo : Option String := none
  /-- The settings file to use instead of those that are found. -/
  config : Option Path := none
  /-- Whether to go into subdirectories. -/
  recursive : Bool := false
  /-- Patterns of files and directories to leave out. -/
  exclude : List String := []
  /-- Extensions of source files beside the usual ones. -/
  extensions : List String := []
  /-- How many files to convert at a time. -/
  jobs : Option Nat := none
  /-- Whether to report only warnings and errors. -/
  silent : Bool := false
  /-- Whether to report details. -/
  debug : Bool := false
deriving DecidableEq, Repr, Inhabited

end SourceWeaver.CommandLine
