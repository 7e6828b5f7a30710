import ClassDocs.Text.Blank

/-!
# Command-line arguments

Options can be written with one dash and a letter, several letters together, or with two dashes and
a name; the value of an option follows it, directly or after an equals sign, or is the next
argument. Everything after two dashes alone is no option. An option can be given once.

## Main definitions

* `OptionSpec`, `CommandShape`: the options and arguments of a command.
* `Given`: what has been given.
* `CommandShape.read`: reading arguments.
-/

namespace ClassDocs

/-- Why arguments name no command: help is asked for, or they are mistaken. -/
inductive Usage where
  | help
  | mistake
  deriving DecidableEq, Repr

/-- What a value may be: any text, or a path, which cannot be empty. -/
inductive ValueKind where
  | text
  | path
  deriving DecidableEq, Repr

/-- Whether a value is one of a kind. -/
def ValueKind.accepts : ValueKind → String → Bool
  | .text, _ => true
  | .path, value => value != ""

/-- What an option does. -/
inductive OptionKind where
  /-- It is there or not. -/
  | flag
  /-- It has a value. -/
  | value (kind : ValueKind)
  /-- It asks for help. -/
  | help
  deriving DecidableEq, Repr

/-- An option. -/
structure OptionSpec where
  name : String
  letter : Char
  kind : OptionKind
  deriving DecidableEq, Repr

/-- The options and arguments of a command. -/
structure CommandShape where
  options : List OptionSpec
  /-- The arguments that can be given once each. -/
  single : List ValueKind := []
  /-- The arguments after those, of which there can be any number. -/
  further : Option ValueKind := none
  /-- The names of commands below this one. -/
  subcommands : List String := []

/-- What has been given. -/
structure Given where
  /-- The options by name, last first; a flag has no text. -/
  options : List (String × String) := []
  /-- The other arguments, last first. -/
  arguments : List String := []

namespace Given

/-- The value of an option. -/
def value? (given : Given) (name : String) : Option String :=
  given.options.lookup name

/-- Whether an option is given. -/
def has (given : Given) (name : String) : Bool :=
  (given.value? name).isSome

/-- The other arguments in order. -/
def argumentList (given : Given) : List String :=
  given.arguments.reverse

/-- Adds an option, which must not be given before. -/
def addOption (given : Given) (name value : String) : Except Usage Given :=
  if given.has name then .error .mistake
  else .ok { given with options := (name, value) :: given.options }

end Given

/-- Whether an argument is written like an option. -/
def startsLikeOption (arg : String) : Bool :=
  arg.toList.head? == some '-' && arg != "-"

namespace CommandShape

/-- Adds an argument that is no option. -/
def addArgument (shape : CommandShape) (given : Given) (arg : String) : Except Usage Given :=
  let kind := (shape.single[given.arguments.length]?) <|> shape.further
  match kind with
  | some kind =>
    if kind.accepts arg then .ok { given with arguments := arg :: given.arguments }
    else .error .mistake
  | none => .error .mistake

/-- Adds arguments that are no options. -/
def addArguments (shape : CommandShape) (given : Given) (args : List String) :
    Except Usage Given :=
  args.foldlM shape.addArgument given

/-- Adds an option with its value. -/
def addValue (given : Given) (spec : OptionSpec) (kind : ValueKind) (value : String) :
    Except Usage Given :=
  if kind.accepts value then given.addOption spec.name value else .error .mistake

/-- Reads the name of an option and, after an equals sign, its value. The result has the option
whose value is still to come, if there is one. -/
def readLong (shape : CommandShape) (given : Given) (text : List Char) :
    Except Usage (Given × Option (OptionSpec × ValueKind)) := do
  let name := String.ofList (text.takeWhile (· != '='))
  let attached := match text.dropWhile (· != '=') with
    | [] => none
    | _ :: value => some (String.ofList value)
  match shape.options.find? (·.name == name), attached with
  | none, _ => .error .mistake
  | some spec, none =>
    match spec.kind with
    | .help => .error .help
    | .flag => return (← given.addOption name "", none)
    | .value kind => return (given, some (spec, kind))
  | some spec, some value =>
    match spec.kind with
    | .value kind => return (← addValue given spec kind value, none)
    | _ => .error .mistake

/-- Reads letters of options, the last of which can have its value after it. The result has the
option whose value is still to come, if there is one. -/
def readLetters (shape : CommandShape) :
    (given : Given) → List Char → Except Usage (Given × Option (OptionSpec × ValueKind))
  | given, [] => .ok (given, none)
  | given, c :: rest =>
    match shape.options.find? (·.letter == c) with
    | none => .error .mistake
    | some spec =>
      match spec.kind with
      | .help => .error .help
      | .flag =>
        match given.addOption spec.name "" with
        | .ok given => readLetters shape given rest
        | .error e => .error e
      | .value kind =>
        match rest with
        | [] => .ok (given, some (spec, kind))
        | c :: value =>
          let value := if c == '=' then value else c :: value
          (addValue given spec kind (String.ofList value)).map (·, none)

/-- Reads an argument that is written like an option. -/
def readOption (shape : CommandShape) (given : Given) (arg : String) :
    Except Usage (Given × Option (OptionSpec × ValueKind)) :=
  match arg.toList with
  | '-' :: '-' :: name => shape.readLong given name
  | '-' :: letters => shape.readLetters given letters
  | _ => .error .mistake

/-- Reads arguments up to the name of a command below this one; the result has that name and the
arguments after it. -/
def read (shape : CommandShape) :
    (given : Given) → List String → Except Usage (Given × Option (String × List String))
  | given, [] => .ok (given, none)
  | given, arg :: rest =>
    if shape.subcommands.contains arg then .ok (given, some (arg, rest))
    else if arg == "--" then (shape.addArguments given rest).map (·, none)
    else if startsLikeOption arg then
      match shape.readOption given arg with
      | .error e => .error e
      | .ok (given, none) => read shape given rest
      | .ok (given, some (spec, kind)) =>
        match rest with
        | [] => .error .mistake
        | value :: rest =>
          if startsLikeOption value then .error .mistake
          else
            match addValue given spec kind value with
            | .ok given => read shape given rest
            | .error e => .error e
    else
      match shape.addArgument given arg with
      | .ok given => read shape given rest
      | .error e => .error e

end CommandShape

end ClassDocs
