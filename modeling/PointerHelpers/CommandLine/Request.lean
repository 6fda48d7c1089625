import PointerHelpers.Text.Similarity

namespace PointerHelpers.CommandLine

open Text

inductive Flag where
  | help
  | version
  deriving DecidableEq

namespace Flag

def all : List Flag := [.help, .version]

def name : Flag → String
  | .help => "help"
  | .version => "version"

def option (flag : Flag) : String := "--" ++ flag.name

/-- The flag whose name is the most similar to a text, if one is similar enough; of two that are
equally similar, the later. -/
def similar? (text : List Char) : Option Flag :=
  let similarity (flag : Flag) := similarity text flag.name.toList
  (all.reverse.filter (0.7 < similarity ·)).maxOn? similarity

end Flag

inductive Request where
  | generate
  | answer (flag : Flag)
  | unexpected (argument : String) (similar : Option Flag)
  | unexpectedValue (flag : Flag) (value : String)
  deriving DecidableEq

namespace Request

/-- What a long option asks for. Its value begins after the first equals sign; no flag takes one. -/
def ofLong (option : List Char) : Request :=
  let name := option.takeWhile (· != '=')
  match Flag.all.find? (·.name.toList == name), option.dropWhile (· != '=') with
  | some flag, [] => .answer flag
  | some flag, _ :: value => .unexpectedValue flag (.ofList value)
  | none, _ => .unexpected (.ofList ('-' :: '-' :: name)) (Flag.similar? name)

/-- What an argument before a `--` asks for. Short options may stand in a cluster, of which the
first decides. -/
def ofArgument (argument : String) : Request :=
  match argument.toList with
  | '-' :: '-' :: option => ofLong option
  | '-' :: 'h' :: _ => .answer .help
  | '-' :: 'V' :: _ => .answer .version
  | '-' :: option :: _ => .unexpected (.ofList ['-', option]) none
  | _ => .unexpected argument none

/-- The first argument decides, except that a `--` only makes the next one a plain argument. There
are no plain arguments, so that any is unexpected. -/
def ofArguments : List String → Request
  | [] => .generate
  | "--" :: [] => .generate
  | "--" :: argument :: _ => .unexpected argument none
  | argument :: _ => ofArgument argument

end Request

end PointerHelpers.CommandLine
