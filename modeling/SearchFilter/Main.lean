import SearchFilter.CommandLine
/-!
# The program

Reads the arguments, the schema file and, if asked to, the standard input, and prints what the command leaves behind.
-/

namespace SearchFilter

namespace CommandLine

/-- The number of a system error, which may be reported with a negative sign. -/
def systemErrorNumber (code : UInt32) : UInt32 := if code < 0x80000000 then code else -code

/-- The cause of a failed read. -/
def ReadError.ofIO : IO.Error → ReadError
  | .permissionDenied .. => .denied
  | .inappropriateType _ code _ => if systemErrorNumber code = 20 then .notDirectory else .isDirectory
  | .invalidArgument _ code _ => if systemErrorNumber code = 36 then .nameTooLong else .notFound
  | _ => .notFound

def textOf (bytes : ByteArray) : Except ReadError String :=
  match String.fromUTF8? bytes with
  | some text => .ok text
  | none => .error .notText

def readFile (path : String) : IO (Except ReadError String) := do
  match ← (IO.FS.readBinFile path).toBaseIO with
  | .ok bytes => return textOf bytes
  | .error e => return .error (.ofIO e)

def readInput : IO (Except ReadError String) := do
  return textOf (← (← IO.getStdin).readBinToEnd)

end CommandLine

end SearchFilter

open SearchFilter CommandLine in
def main (arguments : List String) : IO UInt32 := do
  match Command.ofArguments arguments with
  | .help => IO.print helpText; return 0
  | .version => IO.print versionText; return 0
  | .invalid => IO.eprint usageText; return 2
  | .run arguments =>
    let file ← readFile arguments.schema
    let input ← if arguments.readsInput then readInput else pure (.ok "")
    let outcome := arguments.run file input
    IO.print outcome.stdout
    IO.eprint outcome.stderr
    return outcome.code.toUInt32
