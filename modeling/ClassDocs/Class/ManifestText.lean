import ClassDocs.Class.Manifest
import ClassDocs.FileTree.Basic
import ClassDocs.Yaml.Decode
import ClassDocs.Yaml.Printer

/-!
# Manifests as text

Reading a manifest from YAML. Members that are left out have their defaults, and members that mean
nothing are passed over.

## Main definitions

* `MethodEntry.decode`, `PropertyEntry.decode`, `ClassEntry.decode`: declarations.
* `Manifest.ofText`: the manifest of a text.
* `Manifest.load`: the manifest of a file.
-/

namespace ClassDocs

open Yaml (Node Decode)

/-- Reads a visibility. -/
def AccessLevel.decode (node : Node) : Decode AccessLevel :=
  Decode.choice AccessLevel.ofName? node

/-- Reads a number of a line. -/
def lineNumber (node : Node) : Decode UInt64 := do
  return UInt64.ofNat (← Decode.nat node)

/-- Reads a method. -/
def MethodEntry.decode (depth : Nat) (node : Node) : Decode MethodEntry := do
  let fields ← Decode.fields
    ["name", "visibility", "static", "abstract", "final", "doc", "file", "lines"] depth node
  return {
    name := ← Decode.required fields "name" Decode.text
    visibility := ← Decode.field fields "visibility" .publicLevel AccessLevel.decode
    isStatic := ← Decode.field fields "static" false Decode.bool
    isAbstract := ← Decode.field fields "abstract" false Decode.bool
    isFinal := ← Decode.field fields "final" false Decode.bool
    doc := ← Decode.field fields "doc" none (Decode.optional Decode.text)
    file := ← Decode.field fields "file" none (Decode.optional Decode.text)
    lines := ← Decode.field fields "lines" none
      (Decode.optional (Decode.pair lineNumber (depth - 1))) }

/-- Reads a property. -/
def PropertyEntry.decode (depth : Nat) (node : Node) : Decode PropertyEntry := do
  let fields ← Decode.fields ["name", "visibility", "static", "doc"] depth node
  return {
    name := ← Decode.required fields "name" Decode.text
    visibility := ← Decode.field fields "visibility" .publicLevel AccessLevel.decode
    isStatic := ← Decode.field fields "static" false Decode.bool
    doc := ← Decode.field fields "doc" none (Decode.optional Decode.text) }

/-- Reads the text of a constant. -/
def constantText (depth : Nat) (node : Node) : Decode String := do
  return (← Decode.value depth false node).text

/-- Reads a class. -/
def ClassEntry.decode (depth : Nat) (node : Node) : Decode ClassEntry := do
  let fields ← Decode.fields
    ["name", "kind", "abstract", "final", "parent", "interfaces", "file", "doc", "methods",
      "properties", "constants"] depth node
  let inner := depth - 1
  return {
    name := ← Decode.required fields "name" Decode.text
    kind := ← Decode.field fields "kind" .classKind (Decode.choice ClassKind.ofName?)
    isAbstract := ← Decode.field fields "abstract" false Decode.bool
    isFinal := ← Decode.field fields "final" false Decode.bool
    parent := ← Decode.field fields "parent" none (Decode.optional Decode.text)
    interfaces := ← Decode.field fields "interfaces" [] (Decode.list (fun _ => Decode.text) inner)
    file := ← Decode.field fields "file" none (Decode.optional Decode.text)
    doc := ← Decode.field fields "doc" none (Decode.optional Decode.text)
    methods := ← Decode.field fields "methods" [] (Decode.list MethodEntry.decode inner)
    properties := ← Decode.field fields "properties" [] (Decode.list PropertyEntry.decode inner)
    constants := SortedMap.ofList
      (← Decode.field fields "constants" [] (Decode.map constantText inner)) }

/-- Reads a list of classes. -/
def ClassEntry.decodeAll (node : Node) : Decode (List ClassEntry) := do
  let fields ← Decode.fields ["classes"] Decode.maxDepth node
  Decode.field fields "classes" [] (Decode.list ClassEntry.decode (Decode.maxDepth - 1))

namespace Manifest

/-- The manifest of a text. -/
def ofText (text : String) : Except ManifestError Manifest :=
  match Decode.run? ClassEntry.decodeAll [] text with
  | some entries => ofEntries entries
  | none => .error .notReadable

/-- Why there is no manifest of a file. -/
inductive LoadError where
  | file (cause : FileError)
  | content (cause : ManifestError)
  deriving DecidableEq, Repr

/-- The wording of a failure. -/
def LoadError.message : LoadError → String
  | .file cause => cause.message
  | .content cause => cause.message

/-- The manifest of a file. Source files are relative to the directory of that file. -/
def load (tree : FileTree) (path : String) : Except LoadError Manifest := do
  let text ← (tree.readText path).mapError .file
  let manifest ← (ofText text).mapError .content
  return { manifest with baseDirectory := Path.parent path }

end Manifest

end ClassDocs
