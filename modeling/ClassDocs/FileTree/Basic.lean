import ClassDocs.FileTree.Name
import ClassDocs.Path

/-!
# File trees

Files, directories and symbolic links below the root, seen from a working directory. A place is the
list of names that lead to an entry from the root without passing a link. Whatever is in a tree is
taken to be accessible: every file can be read and every directory can be listed and passed.

## Main definitions

* `FileError`, `FileError.message`: why a file cannot be read.
* `Route`: the names of a path.
* `Entry`, `FileTree`: a tree.
* `FileTree.resolve`: the place that a path leads to.
* `FileTree.readText`, `FileTree.isDirectory`: what a path names.
* `FileTree.writeFile`, `FileTree.makeDirectory`, `FileTree.makeLink`, `FileTree.remove`: changes.
-/

namespace ClassDocs

/-- Why a file cannot be read. -/
inductive FileError where
  | notFound
  | notADirectory
  | isADirectory
  | nameTooLong
  | tooManyLinks
  | nullInName
  | notText
  deriving DecidableEq, Repr

/-- The wording of a failure. -/
def FileError.message : FileError → String
  | .notFound => "No such file or directory (os error 2)"
  | .notADirectory => "Not a directory (os error 20)"
  | .isADirectory => "Is a directory (os error 21)"
  | .nameTooLong => "File name too long (os error 36)"
  | .tooManyLinks => "Too many levels of symbolic links (os error 40)"
  | .nullInName => "file name contained an unexpected NUL byte"
  | .notText => "stream did not contain valid UTF-8"

/-- Names to follow, from the root or from a directory. -/
structure Route where
  isAbsolute : Bool
  names : List FileName

namespace Route

/-- The route that a path spells. -/
def ofText (path : String) : Route where
  isAbsolute := Path.isAbsolute path
  names := (Text.splitOn '/' path).map .ofText

instance : Coe String Route := ⟨ofText⟩

/-- The place that a route starts from, seen from a directory. -/
def origin (route : Route) (place : List FileName) : List FileName :=
  if route.isAbsolute then [] else place

end Route

/-- An entry of a directory. -/
inductive Entry where
  | file (content : ByteArray)
  | directory (entries : List (FileName × Entry))
  | link (target : Route)

/-- The entries of the root, and the place of the working directory. -/
structure FileTree where
  entries : List (FileName × Entry) := []
  workingDirectory : List FileName := []

namespace Entry

/-- The entry at the end of a list of names. -/
def find? : Entry → List FileName → Option Entry
  | entry, [] => some entry
  | .directory entries, name :: names => (entries.lookup name).bind (find? · names)
  | _, _ :: _ => none

/-- The entries with one replaced or added; without an entry the name is taken away. -/
def set (entries : List (FileName × Entry)) (name : FileName) (entry : Option Entry) :
    List (FileName × Entry) :=
  entries.filter (·.1 != name) ++ (entry.map fun e => (name, e)).toList

/-- The entries of a directory, none of anything else. -/
def inside : Option Entry → List (FileName × Entry)
  | some (.directory entries) => entries
  | _ => []

/-- Puts an entry at the end of a list of names, in directories that are made where needed; without
an entry what is there is taken away. -/
def put (entries : List (FileName × Entry)) (entry : Option Entry) :
    List FileName → List (FileName × Entry)
  | [] => entries
  | [name] => set entries name entry
  | name :: names =>
    set entries name (some (.directory (put (inside (entries.lookup name)) entry names)))

end Entry

namespace FileTree

/-- The entry at a place. -/
def find? (tree : FileTree) (place : List FileName) : Option Entry :=
  (Entry.directory tree.entries).find? place

/-- How many links a path may pass. -/
def maxLinks : Nat := 40

/-- The greatest number of bytes in a name. -/
def maxNameBytes : Nat := 255

/-- The place that names lead to from a directory; `follow` goes on from the target of a link. The
directory above the root is the root. -/
def resolveWith (tree : FileTree)
    (follow : (place : List FileName) → (names : List FileName) →
      Except FileError (List FileName)) :
    (place : List FileName) → (names : List FileName) → Except FileError (List FileName)
  | place, [] => .ok place
  | place, name :: names =>
    match tree.find? place with
    | some (.directory entries) =>
      if name.isIdle then resolveWith tree follow place names
      else if name == ".." then resolveWith tree follow place.dropLast names
      else if maxNameBytes < name.bytes.length then .error .nameTooLong
      else
        match entries.lookup name with
        | some (.link target) => follow (target.origin place) (target.names ++ names)
        | some _ => resolveWith tree follow (place ++ [name]) names
        | none => .error .notFound
    | some _ => .error .notADirectory
    | none => .error .notFound

/-- The place that names lead to from a directory, passing no more than a number of links. -/
def resolveNames (tree : FileTree) : (links : Nat) → (place : List FileName) →
    (names : List FileName) → Except FileError (List FileName)
  | 0 => resolveWith tree fun _ _ => .error .tooManyLinks
  | links + 1 => resolveWith tree (resolveNames tree links)

/-- The place that a path leads to, which starts at the root or in the working directory. The empty
path leads nowhere. -/
def resolve (tree : FileTree) (path : String) : Except FileError (List FileName) :=
  if path.toList.any (·.toNat == 0) then .error .nullInName
  else if path = "" then .error .notFound
  else
    let route := Route.ofText path
    resolveNames tree maxLinks (route.origin tree.workingDirectory) route.names

/-- The entry that a path leads to, which is no link. -/
def entry (tree : FileTree) (path : String) : Except FileError Entry := do
  match tree.find? (← resolve tree path) with
  | some entry => .ok entry
  | none => .error .notFound

/-- Whether a path leads to anything. -/
def hasPath (tree : FileTree) (path : String) : Bool :=
  match tree.entry path with
  | .ok _ => true
  | .error _ => false

/-- Whether a path leads to a directory. -/
def isDirectory (tree : FileTree) (path : String) : Bool :=
  match tree.entry path with
  | .ok (.directory _) => true
  | _ => false

/-- The text of the file that a path leads to. -/
def readText (tree : FileTree) (path : String) : Except FileError String := do
  match ← tree.entry path with
  | .file content =>
    match String.fromUTF8? content with
    | some text => .ok text
    | none => .error .notText
  | .directory _ => .error .isADirectory
  | .link _ => .error .notFound

/-- The place that a path spells, whatever there is. -/
def spelled (tree : FileTree) (path : String) : List FileName :=
  let route := Route.ofText path
  route.origin tree.workingDirectory ++ route.names.filter (!·.isIdle)

/-- Puts an entry where a path says, through links on the way where there are any; directories are
made where needed. -/
def putEntry (tree : FileTree) (path : String) (entry : Option Entry) : FileTree :=
  let place := match tree.resolve path with
    | .ok place => place
    | .error _ => tree.spelled path
  { tree with entries := Entry.put tree.entries entry place }

/-- Writes a file. -/
def writeFile (tree : FileTree) (path : String) (content : ByteArray) : FileTree :=
  tree.putEntry path (some (.file content))

/-- Makes a directory unless there is one. -/
def makeDirectory (tree : FileTree) (path : String) : FileTree :=
  if path == "" || tree.isDirectory path then tree
  else tree.putEntry path (some (.directory []))

/-- Makes a symbolic link. -/
def makeLink (tree : FileTree) (path : String) (target : Route) : FileTree :=
  tree.putEntry path (some (.link target))

/-- Takes a file or a link away. -/
def remove (tree : FileTree) (path : String) : FileTree :=
  { tree with entries := Entry.put tree.entries none (tree.spelled path) }

end FileTree

end ClassDocs
