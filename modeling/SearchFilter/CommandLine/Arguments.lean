/-!
# Arguments

The command takes a schema file, an entity, parameters and three flags. An option has a long and a short name. Its value is the next argument, which may not begin with a hyphen unless it is one, or it is attached: to the long name with an equals sign, to the short name with or without. Every option and flag may be given once. Arguments that are none of these are refused, and so is an empty file name.
-/

namespace SearchFilter

namespace CommandLine

structure Arguments where
  schema : String
  entity : String
  /-- JSON text, or a hyphen for the standard input. -/
  params : String
  /-- The parameters are not trusted. -/
  isProtected : Bool
  /-- The names of the entity are asked for instead of a filter. -/
  names : Bool
  pretty : Bool
deriving DecidableEq, Repr

inductive Command where
  | run (arguments : Arguments)
  | help
  | version
  /-- The arguments are not understood. -/
  | invalid
deriving DecidableEq, Repr

/-! ### The forms of an argument -/

inductive OptionName where
  | schema
  | entity
  | params
deriving DecidableEq, Repr

inductive FlagName where
  | isProtected
  | names
  | pretty
deriving DecidableEq, Repr

/-- What one argument is by itself. -/
inductive Argument where
  /-- An option with its value, if the value is attached. -/
  | option (name : OptionName) (value : Option String)
  | flag (name : FlagName)
  | help
  | version
  /-- Two hyphens, behind which no options stand. -/
  | endOfOptions
  | unknown
deriving DecidableEq, Repr

/-- The parts of a text in front of the first equals sign and behind it. -/
def splitEquals : List Char → List Char × Option String
  | [] => ([], none)
  | c :: rest =>
    if c = '=' then ([], some (String.ofList rest))
    else
      let (name, value) := splitEquals rest
      (c :: name, value)

def longArgument (name : String) (value : Option String) : Argument :=
  match name, value with
  | "schema", value => .option .schema value
  | "entity", value => .option .entity value
  | "params", value => .option .params value
  | "protected", none => .flag .isProtected
  | "names", none => .flag .names
  | "pretty", none => .flag .pretty
  | "help", none => .help
  | "version", none => .version
  | _, _ => .unknown

/-- A value behind a short name, with or without an equals sign. -/
def attachedValue : List Char → Option String
  | [] => none
  | '=' :: rest => some (String.ofList rest)
  | rest => some (String.ofList rest)

def shortArgument : List Char → Argument
  | 's' :: rest => .option .schema (attachedValue rest)
  | 'e' :: rest => .option .entity (attachedValue rest)
  | 'p' :: rest => .option .params (attachedValue rest)
  | 'h' :: _ => .help
  | 'V' :: _ => .version
  | _ => .unknown

def Argument.ofChars : List Char → Argument
  | ['-', '-'] => .endOfOptions
  | '-' :: '-' :: rest =>
    let (name, value) := splitEquals rest
    longArgument (String.ofList name) value
  | '-' :: rest => shortArgument rest
  | _ => .unknown

/-- The text may be the value of the option in front of it. -/
def isSeparateValue (s : String) : Bool := s.toList.head? != some '-' || s == "-"

/-! ### Collecting the arguments -/

structure Given where
  schema : Option String := none
  entity : Option String := none
  params : Option String := none
  isProtected : Bool := false
  names : Bool := false
  pretty : Bool := false
deriving DecidableEq, Repr

namespace Given

def option? (given : Given) (name : OptionName) (value : String) : Option Given :=
  match name with
  | .schema => if given.schema.isSome || value.isEmpty then none else some { given with schema := some value }
  | .entity => if given.entity.isSome then none else some { given with entity := some value }
  | .params => if given.params.isSome then none else some { given with params := some value }

def flag? (given : Given) (name : FlagName) : Option Given :=
  match name with
  | .isProtected => if given.isProtected then none else some { given with isProtected := true }
  | .names => if given.names then none else some { given with names := true }
  | .pretty => if given.pretty then none else some { given with pretty := true }

/-- The command once all arguments are given. Schema and entity have to be among them. -/
def command (given : Given) : Command :=
  match given.schema, given.entity with
  | some schema, some entity =>
    .run
      { schema
        entity
        params := given.params.getD "\x7b\x7d"
        isProtected := given.isProtected
        names := given.names
        pretty := given.pretty }
  | _, _ => .invalid

def collect (given : Given) : List String → Command
  | [] => given.command
  | argument :: rest =>
    match Argument.ofChars argument.toList with
    | .option name (some value) =>
      match given.option? name value with
      | some given => collect given rest
      | none => .invalid
    | .option name none =>
      match rest with
      | [] => .invalid
      | value :: rest =>
        if isSeparateValue value then
          match given.option? name value with
          | some given => collect given rest
          | none => .invalid
        else .invalid
    | .flag name =>
      match given.flag? name with
      | some given => collect given rest
      | none => .invalid
    | .help => .help
    | .version => .version
    | .endOfOptions => if rest.isEmpty then given.command else .invalid
    | .unknown => .invalid

end Given

def Command.ofArguments (arguments : List String) : Command := Given.collect {} arguments

end CommandLine

end SearchFilter
