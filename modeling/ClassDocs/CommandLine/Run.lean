import ClassDocs.Class.ManifestText
import ClassDocs.CommandLine.Command
import ClassDocs.Config
import ClassDocs.Report.Pretty

/-!
# Running commands

What a command prints, given the files and the standard input.

## Main definitions

* `World`: what a command can see.
* `RunError`: why a command fails.
* `Outcome`: what a run leaves behind.
* `run`: runs the command that arguments spell.
-/

namespace ClassDocs

/-- What a command can see. -/
structure World where
  tree : FileTree
  stdin : ByteArray := .empty
  /-- Whether output has styles. -/
  color : Bool := false
  /-- The files that may hold the configuration, in the order in which they are tried. -/
  configFiles : List String := []

/-- Why a command fails. -/
inductive RunError where
  | invalidConfig (cause : ConfigError)
  | config (cause : ConfigError)
  | invalidFormat (format : String)
  | unreadableFile (path : String) (cause : FileError)
  | unreadableInput (cause : FileError)
  | manifest (path : String) (cause : Manifest.LoadError)
  | lookup (cause : ClassError)
  deriving DecidableEq, Repr

/-- The wording of a failure. -/
def RunError.message : RunError → String
  | .invalidConfig cause => "invalid config: " ++ cause.message
  | .config cause => cause.message
  | .invalidFormat format =>
    "invalid format " ++ Text.quoted format ++ ", must be 'pretty' or 'json'"
  | .unreadableFile path cause => "cannot read " ++ path ++ ": " ++ cause.message
  | .unreadableInput cause => cause.message
  | .manifest path cause => "parsing manifest " ++ path ++ ": " ++ cause.message
  | .lookup cause => cause.message

/-- What a run leaves behind. -/
inductive Outcome where
  /-- Help is shown, or how the program is used. -/
  | usage (exitCode : Nat)
  /-- A command has been run. -/
  | ran (exitCode : Nat) (stdout stderr : String)
  /-- The program has ended because arithmetic on line numbers has left its range. -/
  | overflow
  deriving DecidableEq, Repr

/-- The names of the files that may hold the configuration. -/
def configNames : List String := ["apidoc.yaml", ".apidoc.yaml"]

/-- The directory for the configuration of a user: the given one if its path is absolute, otherwise
one in the home directory. -/
def userConfigDirectory? (given home : Option String) : Option String :=
  given.filter Path.isAbsolute <|> (home.filter (· != "")).map (Path.join · ".config")

/-- The files that may hold the configuration, in the order in which they are tried. -/
def configCandidates (given home : Option String) : List String :=
  configNames ++ ((userConfigDirectory? given home).map (Path.join · "apidoc/apidoc.yaml")).toList

namespace World

/-- Whether a form of output is JSON. -/
def isJson (format : String) : Except RunError Bool :=
  if format = "json" then .ok true
  else if format = "pretty" then .ok false
  else .error (.invalidFormat format)

/-- The namespaces that hold files, one a line. -/
def runNamespaces (world : World) (config : Config) (filter : Option String)
    (paths : List String) : Except RunError String := do
  let catalog ← (config.catalog paths).mapError .config
  return unlines (catalog.namespaces world.tree filter)

/-- The keys of the classes of a namespace, one a line. -/
def runClasses (world : World) (config : Config) (parent : Option String) (paths : List String)
    (recursive : Bool) (query : Option String) : Except RunError String := do
  let catalog ← (config.catalog paths).mapError .config
  return unlines (catalog.classes world.tree (parent.getD "") recursive query).keys

/-- The text of the standard input. -/
def readInput (world : World) : Except RunError String :=
  match String.fromUTF8? world.stdin with
  | some text => .ok text
  | none => .error (.unreadableInput .notText)

/-- The comment in a file; without a file, or with a dash for one, the standard input. -/
def readComment (world : World) (file : Option String) : Except RunError String :=
  match file with
  | none => world.readInput
  | some path =>
    if path = "-" then world.readInput
    else (world.tree.readText path).mapError (.unreadableFile path)

/-- What a comment documents. -/
def runParse (world : World) (config : Config) (file : Option String) (format : String) :
    Except RunError String := do
  let json ← isJson format
  let comment ← world.readComment file
  let registry ← config.registry.mapError .config
  let record := registry.parse comment
  return if json then record.toJson.pretty ++ "\n" else record.pretty world.color

/-- The view of the class that a command is about. -/
def loadView (world : World) (config : Config) (query : ClassQuery) : Except RunError View := do
  let manifest ← (Manifest.load world.tree query.manifest).mapError (.manifest query.manifest)
  let registry ← config.registry.mapError .config
  (View.load registry manifest (qualifiedClass query.name)).mapError .lookup

/-- Who owns the methods of a class. -/
def runInheritance (world : World) (config : Config) (query : ClassQuery) :
    Except RunError String := do
  let json ← isJson query.format
  let view ← world.loadView config query
  let report ← view.inheritanceReport.mapError .lookup
  return if json then report.toJson.pretty ++ "\n" else report.pretty world.color

/-- A documented class. -/
def runClassReport (world : World) (config : Config) (query : ClassQuery) :
    Except (Fault RunError) String := do
  let json ← (isJson query.format).mapError .failure
  let view ← (world.loadView config query).mapError .failure
  let report ← (view.classReport world.tree).2.mapError (.map .lookup)
  return if json then report.toJson.pretty ++ "\n" else report.pretty world.color

/-- What a command prints. -/
def runCommand (world : World) (config : Config) : Command → Except (Fault RunError) String
  | .namespaces filter paths => (world.runNamespaces config filter paths).mapError .failure
  | .classes parent paths recursive query =>
    (world.runClasses config parent paths recursive query).mapError .failure
  | .parse file format => (world.runParse config file format).mapError .failure
  | .inheritance query => (world.runInheritance config query).mapError .failure
  | .classReport query => world.runClassReport config query

/-- What an invocation prints. -/
def runInvocation (world : World) (invocation : Invocation) :
    Except (Fault RunError) String := do
  let config ← (Config.load world.tree world.configFiles invocation.config).mapError
    fun cause => .failure (.invalidConfig cause)
  world.runCommand config invocation.command

/-- Runs the command that arguments spell. -/
def run (world : World) (args : List String) : Outcome :=
  match Invocation.ofArguments args with
  | .error .help => .usage 0
  | .error .mistake => .usage 2
  | .ok invocation =>
    match world.runInvocation invocation with
    | .ok output => .ran 0 output ""
    | .error (.failure e) => .ran 2 "" ("Error: " ++ e.message ++ "\n")
    | .error .overflow => .overflow

end World

end ClassDocs
