import SearchFilter.CommandLine.Arguments
import SearchFilter.CommandLine.Report
/-!
# The command

The command reads a schema file, applies parameters to one entity and prints the compiled filter. What it does is a function of its arguments, the schema file and the standard input. The first thing that fails ends it: the file, the schema, the entity, the parameters, their application, and the text of a bound point in time, in this order.
-/

namespace SearchFilter

namespace CommandLine

inductive ReadError where
  | notFound
  | denied
  | notDirectory
  | isDirectory
  | nameTooLong
  | notText
deriving DecidableEq, Repr

def ReadError.message : ReadError → String
  | notFound => "No such file or directory (os error 2)"
  | denied => "Permission denied (os error 13)"
  | notDirectory => "Not a directory (os error 20)"
  | isDirectory => "Is a directory (os error 21)"
  | nameTooLong => "File name too long (os error 36)"
  | notText => "stream did not contain valid UTF-8"

inductive Failure where
  | readingSchema (path : String) (error : ReadError)
  | loadingSchema (path : String) (error : ConfigurationError)
  | readingInput (error : ReadError)
  | noInput
  | parsing (error : ParamsError)
  | condition (error : ConditionError)
  | bind (error : Timestamp.TextError)
deriving DecidableEq, Repr

namespace Failure

/-- What was being done, or what went wrong where nothing more is known. -/
def message : Failure → String
  | readingSchema path _ => "reading schema " ++ path
  | loadingSchema path _ => "loading schema " ++ path
  | readingInput _ => "reading params from stdin"
  | noInput => "no params on stdin"
  | parsing _ => "parsing params"
  | condition error => error.message
  | bind error => error.message

def cause? : Failure → Option String
  | readingSchema _ error => some error.message
  | loadingSchema _ error => some error.message
  | readingInput error => some error.message
  | parsing error => some error.message
  | noInput | condition _ | bind _ => none

/-- The cause with each of its lines indented. -/
def indented (cause : String) : String :=
  "\n".intercalate ((cause.toList.splitOn '\n').map fun line => "    " ++ String.ofList line)

/-- The text on the standard error stream. -/
def text (failure : Failure) : String :=
  match failure.cause? with
  | none => "Error: " ++ failure.message ++ "\n"
  | some cause => "Error: " ++ failure.message ++ "\n\nCaused by:\n" ++ indented cause ++ "\n"

end Failure

structure Outcome where
  code : Nat
  stdout : String
  stderr : String
deriving DecidableEq, Repr

/-- Gives the error of a step as a failure. -/
def orFail {ε α : Type} (failure : ε → Failure) : Except ε α → Except Failure α
  | .ok a => .ok a
  | .error e => .error (failure e)

namespace Arguments

def readsInput (arguments : Arguments) : Bool := arguments.params == "-" && !arguments.names

def paramsText (arguments : Arguments) (input : Except ReadError String) : Except Failure String :=
  if arguments.params = "-" then do
    let text ← orFail .readingInput input
    if text.toList.all Text.isBlank then .error .noInput else .ok text
  else .ok arguments.params

/-- The report that is asked for, given the contents of the schema file and of the standard input. -/
def report (arguments : Arguments) (file input : Except ReadError String) : Except Failure Json := do
  let source ← orFail (.readingSchema arguments.schema) file
  let catalog ← orFail (.loadingSchema arguments.schema) (Catalog.ofToml .standard source)
  let tree ← orFail .condition (ConditionTree.forEntity catalog arguments.entity arguments.isProtected)
  if arguments.names then return namesReport tree
  else do
    let text ← arguments.paramsText input
    let params ← orFail .parsing (Params.ofText text)
    let tree ← orFail .condition (tree.apply catalog params)
    orFail .bind (filterReport tree)

def run (arguments : Arguments) (file input : Except ReadError String) : Outcome :=
  match arguments.report file input with
  | .ok report => ⟨0, (if arguments.pretty then report.pretty else report.compact) ++ "\n", ""⟩
  | .error failure => ⟨1, "", failure.text⟩

end Arguments

def helpText : String :=
  "\n".intercalate
    ["Compile search params to a parameterized SQL fragment",
      "",
      "Usage: mik-search [OPTIONS] --schema <SCHEMA> --entity <ENTITY>",
      "",
      "Options:",
      "  -s, --schema <SCHEMA>  Schema file (TOML)",
      "  -e, --entity <ENTITY>  Entity to filter",
      "  -p, --params <PARAMS>  JSON params; `-` reads them from stdin [default: \x7b\x7d]",
      "      --protected        Treat params as untrusted input",
      "      --names            List the entity's condition names instead of compiling",
      "      --pretty           Pretty-print the JSON output",
      "  -h, --help             Print help",
      "  -V, --version          Print version",
      ""]

def versionText : String := "mik-search 0.1.0\n"

def usageText : String :=
  "\n".intercalate
    ["error: the arguments are not understood",
      "",
      "Usage: mik-search [OPTIONS] --schema <SCHEMA> --entity <ENTITY>",
      "",
      "For more information, try '--help'.",
      ""]

end CommandLine

end SearchFilter
