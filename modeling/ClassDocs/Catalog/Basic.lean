import ClassDocs.Catalog.Name
import ClassDocs.FileTree.Listing
import ClassDocs.Path
import ClassDocs.SortedMap
import ClassDocs.Text.Lowercase

/-!
# Catalogs

Namespaces are directories below the include paths, and classes are the source files in them. Hidden
directories and excluded paths are left out with everything below them. Directories are listed as
their names are shown, but what is excluded is told by the bytes of names.

## Main definitions

* `Catalog`: include paths, extensions of source files and excluded paths.
* `filesBelow`: the files of a listing that are not left out.
* `Catalog.namespaces`: the namespaces that hold files.
* `Catalog.classes`: the classes of a namespace.
-/

namespace ClassDocs

/-- The extensions of source files unless others are given. -/
def defaultExtensions : List String := ["php", "inc"]

/-- Where classes are looked for. -/
structure Catalog where
  includePaths : List String
  extensions : List String := defaultExtensions
  /-- Which paths, relative to an include path, are left out. -/
  isExcluded : List UInt8 → Bool := fun _ => false

/-- Whether a directory is hidden by its name. -/
def isHidden (name : FileName) : Bool :=
  name.lossy.toList.head? == some '.'

/-- The files of a listing, each with the directories above it; `skip` says what is left out. Unless
`recursive`, only files in the directory itself count. -/
def filesBelow (skip : List FileName → Bool) (recursive : Bool) :
    (above : List FileName) → List (FileName × Listing) → List (List FileName × FileName)
  | _, [] => []
  | above, (name, .file) :: rest =>
    (if skip (above ++ [name]) then [] else [(above, name)]) ++
      filesBelow skip recursive above rest
  | above, (name, .directory entries) :: rest =>
    (if !recursive || isHidden name || skip (above ++ [name]) then []
      else filesBelow skip recursive (above ++ [name]) entries) ++
      filesBelow skip recursive above rest

namespace Catalog

/-- The directory of a namespace below an include path. -/
def directory (root parent : String) : String :=
  if parent = "" then root else Path.join root parent

/-- The path of something in a namespace relative to an include path, byte by byte. -/
def relativePath (root parent : String) (names : List FileName) : List UInt8 :=
  let front := if root = "" then parent else Path.dropIdleFront parent
  [Text.slash].intercalate ((if front = "" then [] else [Text.bytes front]) ++ names.map (·.bytes))

/-- The files of a namespace below an include path, each with the directories above it. -/
def filesOf (catalog : Catalog) (tree : FileTree) (recursive : Bool) (parent root : String) :
    List (List FileName × FileName) :=
  match tree.listing? (directory root parent) with
  | some entries =>
    filesBelow (fun names => catalog.isExcluded (relativePath root parent names)) recursive []
      entries
  | none => []

/-- The files of a namespace below all include paths. -/
def files (catalog : Catalog) (tree : FileTree) (recursive : Bool) (parent : String) :
    List (List FileName × FileName) :=
  catalog.includePaths.flatMap (catalog.filesOf tree recursive parent)

/-- The parts of a name that are not empty, joined. -/
def joinParts (parts : List String) : String :=
  String.intercalate namespaceSeparator.toString (parts.filter (· != ""))

/-- Every namespace that directly holds a file, in increasing order. With a filter only those below
that namespace, which is not listed itself. -/
def namespaces (catalog : Catalog) (tree : FileTree) (filter : Option String) : List String :=
  let parent := normalizeNamespace (filter.getD "")
  let directories := (catalog.files tree true parent).filterMap fun (above, _) =>
    if above.isEmpty then none else some (joinParts (parent :: above.map (·.lossy)), ())
  (SortedMap.ofList directories).keys

/-- Whether a file name matches a query, whatever the case of letters. The empty query matches
every name. -/
def matchesQuery (query : Option String) (name : String) : Bool :=
  match query with
  | none => true
  | some text => text == "" || Text.holds (Text.lowercase name) (Text.lowercase text)

/-- The class of a source file whose name matches a query. The name of a source file is text. -/
def classOf? (catalog : Catalog) (query : Option String) (name : FileName) : Option String := do
  let text ← name.text?
  let ext ← Path.extension? text
  if catalog.extensions.contains ext && matchesQuery query text then some (Path.stem text)
  else none

/-- The classes of a namespace by key, which is the name with its namespace. -/
def classes (catalog : Catalog) (tree : FileTree) (parent : String) (recursive : Bool)
    (query : Option String) : SortedMap String :=
  let parent := normalizeNamespace parent
  .ofList ((catalog.files tree recursive parent).filterMap fun (above, name) =>
    (catalog.classOf? query name).map fun found =>
      (joinParts (parent :: above.map (·.lossy) ++ [found]), found))

end Catalog

end ClassDocs
