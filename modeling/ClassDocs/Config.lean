import ClassDocs.Catalog.Basic
import ClassDocs.Doc.Registry
import ClassDocs.Glob.Match
import ClassDocs.Glob.Reader
import ClassDocs.Json
import ClassDocs.Yaml.Decode

/-!
# Configuration

Include paths, extensions, excluded paths and changes to the tags.

## Main definitions

* `Config`: a configuration.
* `Config.registry`, `Config.exclusions`, `Config.catalog`: what it sets up.
* `Config.validate`: whether it can be used.
* `Config.ofText?`, `Config.load`: reading it.
-/

namespace ClassDocs

/-- Changes to the tags known from the start. -/
structure TagSettings where
  /-- Tags that are taken away. -/
  disabled : List String := []
  /-- Further tag names with the kind of tag that each acts like. -/
  aliases : SortedMap String := .empty
  deriving DecidableEq

/-- A configuration. -/
structure Config where
  includePaths : List String := []
  /-- The extensions of source files; without any the usual ones. -/
  sourceExtensions : List String := []
  /-- Patterns of paths to leave out of the catalog. -/
  excludedPaths : List String := []
  tags : TagSettings := {}
  deriving DecidableEq

/-- Why a configuration cannot be used. -/
inductive ConfigError where
  /-- A pattern of excluded paths is malformed. -/
  | invalidPattern (pattern : String) (cause : GlobError)
  /-- An extension has nothing but dots. -/
  | emptyExtension
  /-- A tag name acts like an unknown kind of tag. -/
  | invalidAlias (name : String) (cause : DocError)
  /-- A text cannot name a tag. -/
  | invalidTag (cause : DocError)
  /-- There is nowhere to look for classes. -/
  | noIncludePaths
  /-- The file with the configuration cannot be read. -/
  | unreadableFile (path : String) (cause : FileError)
  /-- The file does not hold a configuration. -/
  | malformedFile (path : String)
  deriving DecidableEq, Repr

/-- The wording of a refusal. -/
def ConfigError.message : ConfigError → String
  | .invalidPattern pattern cause =>
    "invalid excluded_paths pattern " ++ Text.quoted pattern ++ ": error parsing glob '" ++
      pattern ++ "': " ++ cause.message
  | .emptyExtension => "empty source extension"
  | .invalidAlias name cause => "alias " ++ Text.quoted name ++ ": " ++ cause.message
  | .invalidTag cause => cause.message
  | .noIncludePaths => "no include paths given and none configured"
  | .unreadableFile path cause => "parsing config " ++ path ++ ": " ++ cause.message
  | .malformedFile path => "parsing config " ++ path ++ ": <yaml>"

namespace Config

/-- An extension without the dots before it. -/
def bareExtension (ext : String) : String :=
  String.ofList (ext.toList.dropWhile (· == '.'))

/-- The extensions of source files. -/
def extensions (config : Config) : List String :=
  if config.sourceExtensions.isEmpty then defaultExtensions
  else config.sourceExtensions.map bareExtension

/-- The pattern that a text spells. -/
def pattern (text : String) : Except ConfigError Glob :=
  match Glob.ofText text with
  | .ok glob => .ok glob
  | .error cause => .error (.invalidPattern text cause)

/-- The patterns of excluded paths. -/
def exclusions (config : Config) : Except ConfigError (List Glob) :=
  config.excludedPaths.mapM pattern

/-- Adds an alias to a registry. -/
def addAlias (reg : Registry) (entry : String × String) : Except ConfigError Registry :=
  match TagKind.ofName entry.2 with
  | .error cause => .error (.invalidAlias entry.1 cause)
  | .ok kind =>
    match reg.addAlias entry.1 kind with
    | .error cause => .error (.invalidTag cause)
    | .ok reg => .ok reg

/-- The tags known from the start without the disabled ones, and the aliases in the order of their
names. -/
def registry (config : Config) : Except ConfigError Registry :=
  config.tags.aliases.entries.foldlM addAlias
    (config.tags.disabled.foldl Registry.remove Registry.builtin)

/-- Where classes are looked for: in the given include paths or, without any, the configured
ones. -/
def catalog (config : Config) (paths : List String) : Except ConfigError Catalog := do
  let includePaths := if paths.isEmpty then config.includePaths else paths
  if includePaths.isEmpty then .error .noIncludePaths
  else
    let globs ← config.exclusions
    return {
      includePaths
      extensions := config.extensions
      isExcluded := fun path => globs.any (·.isMatch path) }

/-- Whether some texts spell patterns, one after the other. -/
def checkPatterns : List String → Except ConfigError Unit
  | [] => .ok ()
  | text :: rest =>
    match Glob.ofText text with
    | .ok _ => checkPatterns rest
    | .error cause => .error (.invalidPattern text cause)

/-- Whether a configuration can be used. -/
def validate (config : Config) : Except ConfigError Unit := do
  checkPatterns config.excludedPaths
  if config.sourceExtensions.any (bareExtension · == "") then .error .emptyExtension
  let _ ← config.registry
  return ()

open Yaml (Node Decode)

/-- Reads a list of texts. -/
def decodeTexts (depth : Nat) (node : Node) : Decode (List String) :=
  Decode.list (fun _ => Decode.text) depth node

/-- Reads the changes to the tags. -/
def decodeTags (depth : Nat) (node : Node) : Decode TagSettings := do
  let fields ← Decode.fields ["disabled", "aliases"] depth node
  return {
    disabled := ← Decode.field fields "disabled" [] (decodeTexts (depth - 1))
    aliases := SortedMap.ofList
      (← Decode.field fields "aliases" [] (Decode.map (fun _ => Decode.text) (depth - 1))) }

/-- Reads a configuration. -/
def decode (node : Node) : Decode Config := do
  let fields ← Decode.fields
    ["include_paths", "source_extensions", "excluded_paths", "tags"] Decode.maxDepth node
  let inner := Decode.maxDepth - 1
  return {
    includePaths := ← Decode.field fields "include_paths" [] (decodeTexts inner)
    sourceExtensions := ← Decode.field fields "source_extensions" [] (decodeTexts inner)
    excludedPaths := ← Decode.field fields "excluded_paths" [] (decodeTexts inner)
    tags := ← Decode.field fields "tags" {} (decodeTags inner) }

/-- The configuration that a text describes. -/
def ofText? (text : String) : Option Config :=
  Decode.run? decode {} text

/-- The configuration of a file, which must be one that can be used. -/
def loadFile (tree : FileTree) (path : String) : Except ConfigError Config :=
  match tree.readText path with
  | .error cause => .error (.unreadableFile path cause)
  | .ok text =>
    match ofText? text with
    | none => .error (.malformedFile path)
    | some config =>
      match config.validate with
      | .ok () => .ok config
      | .error e => .error e

/-- The configuration of a given file, or else of the first candidate that there is; without any,
everything is as usual. -/
def load (tree : FileTree) (candidates : List String) (path : Option String) :
    Except ConfigError Config :=
  match path <|> candidates.find? tree.hasPath with
  | some path => loadFile tree path
  | none => .ok {}

/-- The JSON form of a configuration. -/
def toJson (config : Config) : Json :=
  let texts (items : List String) : Json := .arr (items.map .str)
  .obj [("include_paths", texts config.includePaths),
    ("source_extensions", texts config.sourceExtensions),
    ("excluded_paths", texts config.excludedPaths),
    ("tags", .obj [("disabled", texts config.tags.disabled),
      ("aliases", .obj (config.tags.aliases.entries.map fun (name, kind) => (name, .str kind)))])]

end Config

end ClassDocs
