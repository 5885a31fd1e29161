/-
  The texts of the command line: help, version and usage errors.
-/

import SourceWeaver.CommandLine.Parse
import SourceWeaver.Text.Lines

namespace SourceWeaver.CommandLine

/-! ## Names and descriptions -/

/-- The name of the program in its help text. -/
def programName : String := "code2md"

/-- The version that the program reports. -/
def programVersion : String := "0.1.0"

namespace Opt

/-- What the help text calls the value of an option, if it takes one. -/
def valueName? : Opt → Option String
  | field .output | field .config => some "FILE"
  | field .indentWidth | field .jobs => some "NUM"
  | field .fenceInfo => some "TAG"
  | field .exclude => some "PATTERN"
  | field .extension => some "EXT"
  | flag _ => none

/-- What an option does. -/
def description : Opt → String
  | flag .keepEntryPoint => "Keep the entry-point wrapper and its trivial return"
  | flag .stdout => "Write Markdown to stdout instead of rewriting the input"
  | flag .recursive => "Descend into subdirectories when PATH is a directory"
  | flag .silent => "Only report warnings and errors"
  | flag .debug => "Enable debug output"
  | flag .help => "Print help"
  | flag .version => "Print version"
  | field .output => "Write Markdown to FILE instead of rewriting the input"
  | field .indentWidth => "Number of spaces per indent level [default: 4]"
  | field .fenceInfo => "Info string for opening code fences, e.g. `c` [default: none]"
  | field .config => "Config file path (overrides auto-discovery)"
  | field .exclude => "Exclude files/dirs matching glob pattern (repeatable)"
  | field .extension => "Additional source extension for directory scans (repeatable)"
  | field .jobs => "Parallel jobs (0=auto, 1=sequential)"

/-- How an option is written. -/
def label (o : Opt) : String :=
  let letter := match o.letter? with
    | some c => String.ofList ['-', c, ',', ' ']
    | none => "    "
  let value := match o.valueName? with
    | some name => " <" ++ name ++ ">"
    | none => ""
  letter ++ "--" ++ o.longName ++ value

end Opt

/-! ## Help -/

/-- A text filled up with spaces to some length. -/
def padded (length : Nat) (text : String) : String :=
  text ++ String.ofList (List.replicate (length - text.length) ' ')

/-- Labels and descriptions in two columns. -/
def table (rows : List (String × String)) : String :=
  let width := rows.foldl (fun w row => max w row.1.length) 0
  Text.unlines <| rows.map fun (label, description) =>
    "  " ++ padded width label ++ "  " ++ description

/-- The text that a request for help prints. -/
def helpText : String :=
  "Convert annotated C sources (code interleaved with block comments) into Markdown\n\n"
    ++ "Usage: " ++ programName ++ " [OPTIONS] <PATH> [KEEP_ENTRY_POINT]\n\n"
    ++ "Arguments:\n"
    ++ table [
      ("<PATH>", "Source file or directory to convert (`-` reads stdin)"),
      ("[KEEP_ENTRY_POINT]", "Any value keeps the entry-point wrapper")]
    ++ "\nOptions:\n"
    ++ table (Opt.all.map fun o => (o.label, o.description))
    ++ "\nThe input file is rewritten in place unless --stdout or --output is given.\n"
    ++ "Any second positional argument keeps the `int main(void) \x7b` wrapper.\n"

/-- The text that a request for the version prints. -/
def versionText : String :=
  programName ++ " " ++ programVersion ++ "\n"

/-! ## Errors -/

/-- What is wrong with a command line, in words. -/
def UsageError.message : UsageError → String
  | missingInput => "the argument <PATH> is missing"
  | unknownArgument a => "unexpected argument " ++ a
  | repeated o => "the option " ++ o.label ++ " cannot be used more than once"
  | exclusive a b => "the option " ++ a.label ++ " cannot be used with " ++ b.label
  | badNumber f value => "invalid number " ++ value ++ " for " ++ (Opt.field f).label
  | missingValue f => "a value is missing for " ++ (Opt.field f).label
  | emptyPath => "a path must not be empty"
  | unneededValue f value => "unexpected value " ++ value ++ " for " ++ (Opt.flag f).label

/-- What is printed about a usage error. -/
def UsageError.report (e : UsageError) : String :=
  "error: " ++ e.message ++ "\n\nFor more information, try '--help'.\n"

end SourceWeaver.CommandLine
