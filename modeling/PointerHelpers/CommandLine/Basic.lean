import PointerHelpers.CommandLine.Request
import PointerHelpers.Document.Generation
import PointerHelpers.Report.Basic
import PointerHelpers.Text.Terminal

namespace PointerHelpers.CommandLine

open Document Files Text

structure Outcome where
  code : Nat
  stdout : String
  stderr : String
  deriving DecidableEq

def helpText : String := String.join <| [
  "Generate Go pointer helper functions for built-in scalar types",
  "",
  "Usage: ptrgen",
  "",
  "Options:",
  "  -h, --help     Print help",
  "  -V, --version  Print version",
  "",
  "OUTPUT:",
  "  to_ptr.go     value -> pointer helpers (String, StringSlice, StringMap, ...)",
  "  from_ptr.go   pointer -> value helpers (ToString, ToStringSlice, ...)",
  "",
  "Both files are written to the current directory. Set RUST_LOG to change",
  "log verbosity (default: info)."].map (· ++ "\n")

def versionText : String := "ptrgen 0.1.0\n"

def Flag.answer : Flag → String
  | .help => helpText
  | .version => versionText

def usageError (message : String) (flag : Option Flag) : String :=
  "error: " ++ message ++ "\n\nUsage: ptrgen" ++ flag.elim "" (" " ++ ·.option) ++
    "\n\nFor more information, try '--help'.\n"

def unexpectedArgument (argument : String) (similar : Option Flag) : String :=
  let tip (flag : Flag) := "\n\n  tip: a similar argument exists: '" ++ flag.option ++ "'"
  usageError ("unexpected argument '" ++ withoutSequences argument ++ "' found" ++
    similar.elim "" tip) similar

def unexpectedValue (flag : Flag) (value : String) : String :=
  usageError ("unexpected value '" ++ withoutSequences value ++ "' for '" ++ flag.option ++
    "' found; no more were expected") flag

def failureText : GenerationError → String
  | .templates error => "error: failed to parse templates\n" ++ Report.render false error
  | error => "error: " ++ error.message ++ "\n"

def Outcome.ofGeneration : Except GenerationError (List Path) → Outcome
  | .ok _ => ⟨0, "", ""⟩
  | .error error => ⟨1, "", failureText error⟩

def generateStandard (system : FileSystem) : FileSystem × Outcome :=
  let generation := generate Catalogue.standard Config.default system
  (generation.1, .ofGeneration generation.2)

def run (arguments : List String) (system : FileSystem) : FileSystem × Outcome :=
  match Request.ofArguments arguments with
  | .generate => generateStandard system
  | .answer flag => (system, ⟨0, flag.answer, ""⟩)
  | .unexpected argument similar => (system, ⟨2, "", unexpectedArgument argument similar⟩)
  | .unexpectedValue flag value => (system, ⟨2, "", unexpectedValue flag value⟩)

end PointerHelpers.CommandLine
