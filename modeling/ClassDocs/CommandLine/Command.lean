import ClassDocs.CommandLine.Arguments

/-!
# Commands

## Main definitions

* `Command`: what the program is asked to do.
* `Invocation`: a command with the options that all commands have.
* `Invocation.ofArguments`: the invocation that arguments spell.
-/

namespace ClassDocs

/-- The class that a command is about. -/
structure ClassQuery where
  name : String
  manifest : String
  format : String
  deriving DecidableEq, Repr

/-- What the program is asked to do. -/
inductive Command where
  /-- List the namespaces that hold files. -/
  | namespaces (filter : Option String) (paths : List String)
  /-- List the classes of a namespace. -/
  | classes (parent : Option String) (paths : List String) (recursive : Bool)
      (query : Option String)
  /-- Show what a comment documents. -/
  | parse (file : Option String) (format : String)
  /-- Show who owns the methods of a class. -/
  | inheritance (query : ClassQuery)
  /-- Show a documented class. -/
  | classReport (query : ClassQuery)
  deriving DecidableEq, Repr

/-- Whether a command reads the standard input. -/
def Command.readsInput : Command → Bool
  | .parse file _ => file.all (· == "-")
  | _ => false

/-- A command with the options that all commands have. -/
structure Invocation where
  /-- The file with the configuration. -/
  config : Option String
  verbose : Bool
  command : Command
  deriving DecidableEq, Repr

/-- The kinds of command by the names that they are called by. -/
inductive CommandName where
  | namespaces
  | classes
  | parse
  | inheritance
  | classReport
  deriving DecidableEq, Repr

namespace CommandName

/-- The names that commands are called by. -/
def names : List (String × CommandName) :=
  [("namespaces", .namespaces), ("classes", .classes), ("parse", .parse),
    ("inherit", .inheritance), ("ownership", .inheritance), ("class", .classReport)]

/-- The options that all commands have. -/
def commonOptions : List OptionSpec :=
  [⟨"config", 'c', .value .path⟩, ⟨"verbose", 'v', .flag⟩, ⟨"help", 'h', .help⟩]

/-- The option for the form of the output. -/
def formatOption : OptionSpec :=
  ⟨"format", 'f', .value .text⟩

/-- The options and arguments of a command. -/
def shape : CommandName → CommandShape
  | .namespaces =>
    { options := ⟨"namespace", 'n', .value .text⟩ :: commonOptions, further := some .path }
  | .classes =>
    { options := [⟨"recursive", 'r', .flag⟩, ⟨"query", 'q', .value .text⟩] ++ commonOptions
      single := [.text]
      further := some .path }
  | .parse => { options := formatOption :: commonOptions, single := [.path] }
  | _ =>
    { options := [⟨"manifest", 'm', .value .path⟩, formatOption] ++ commonOptions
      single := [.text] }

/-- The class that a command is about; it needs a name and a manifest. -/
def classQuery (given : Given) : Except Usage ClassQuery :=
  match given.argumentList, given.value? "manifest" with
  | [name], some manifest => .ok { name, manifest, format := (given.value? "format").getD "pretty" }
  | _, _ => .error .mistake

/-- The command that has been given. -/
def command (given : Given) : CommandName → Except Usage Command
  | .namespaces => .ok (.namespaces (given.value? "namespace") given.argumentList)
  | .classes =>
    .ok (.classes given.argumentList.head? given.argumentList.tail (given.has "recursive")
      (given.value? "query"))
  | .parse => .ok (.parse given.argumentList.head? ((given.value? "format").getD "pretty"))
  | .inheritance => .inheritance <$> classQuery given
  | .classReport => .classReport <$> classQuery given

end CommandName

namespace Invocation

/-- The name of the command that shows help. -/
def helpName : String := "help"

/-- The options and commands of the program. -/
def shape : CommandShape where
  options := ⟨"version", 'V', .help⟩ :: CommandName.commonOptions
  subcommands := helpName :: CommandName.names.map (·.1)

/-- The answer to a call for help on commands. -/
def helpOn : List String → Usage
  | [] => .help
  | [name] => if shape.subcommands.contains name then .help else .mistake
  | _ => .mistake

/-- The invocation that arguments spell. Options that all commands have can stand before the command
or after it; the later ones count. -/
def ofArguments (args : List String) : Except Usage Invocation := do
  match ← shape.read {} args with
  | (_, none) => .error .mistake
  | (outer, some (name, rest)) =>
    match CommandName.names.lookup name with
    | none => .error (helpOn rest)
    | some kind =>
      let (given, _) ← kind.shape.read {} rest
      return {
        config := given.value? "config" <|> outer.value? "config"
        verbose := given.has "verbose" || outer.has "verbose"
        command := ← kind.command given }

end Invocation

end ClassDocs
