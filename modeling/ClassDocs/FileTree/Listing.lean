import ClassDocs.FileTree.Basic

/-!
# Listings

What is found below a directory when links are followed. A link that leads nowhere is left out, and
so is one that leads to a directory that is being listed at the time.

## Main definitions

* `Listing`: names below a directory, without links.
* `FileTree.listing?`: the listing of the directory that a path leads to.
-/

namespace ClassDocs

/-- What a name in a directory stands for when links are followed. -/
inductive Listing where
  | file
  | directory (entries : List (FileName × Listing))

namespace FileTree

mutual

/-- The number of directories in an entry. -/
def directoryCount : Entry → Nat
  | .directory entries => 1 + directoryCounts entries
  | _ => 0

/-- The number of directories in some entries. -/
def directoryCounts : List (FileName × Entry) → Nat
  | [] => 0
  | (_, entry) :: rest => directoryCount entry + directoryCounts rest

end

/-- What a link in the directory at a place stands for. -/
def followLink? (tree : FileTree)
    (follow : (path : List (List FileName)) → (place : List FileName) → List (FileName × Listing))
    (path : List (List FileName)) (place : List FileName) (name : FileName) : Option Listing :=
  match tree.resolveNames maxLinks place [name] with
  | .error _ => none
  | .ok place =>
    match tree.find? place with
    | some (.file _) => some .file
    | some (.directory _) =>
      if path.contains place then none else some (.directory (follow (place :: path) place))
    | _ => none

/-- The listing of the entries of a directory at a place. The path holds the places of the
directories that are being listed, and `follow` lists the directory that a link leads to. -/
def listEntries (tree : FileTree)
    (follow : (path : List (List FileName)) → (place : List FileName) → List (FileName × Listing)) :
    (path : List (List FileName)) → (place : List FileName) → List (FileName × Entry) →
    List (FileName × Listing)
  | _, _, [] => []
  | path, place, (name, .file _) :: rest => (name, .file) :: listEntries tree follow path place rest
  | path, place, (name, .directory entries) :: rest =>
    let inner := place ++ [name]
    (name, .directory (listEntries tree follow (inner :: path) inner entries)) ::
      listEntries tree follow path place rest
  | path, place, (name, .link _) :: rest =>
    let others := listEntries tree follow path place rest
    match tree.followLink? follow path place name with
    | some entry => (name, entry) :: others
    | none => others

/-- The listing of the directory at a place, passing no more than a number of links to
directories. -/
def listPlace (tree : FileTree) : (links : Nat) → (path : List (List FileName)) →
    (place : List FileName) → List (FileName × Listing)
  | 0, _, _ => []
  | links + 1, path, place =>
    match tree.find? place with
    | some (.directory entries) => listEntries tree (listPlace tree links) path place entries
    | _ => []

/-- The listing of the directory that a path leads to. Every link that is followed adds a directory
to those being listed, so their number bounds the links. -/
def listing? (tree : FileTree) (path : String) : Option (List (FileName × Listing)) :=
  match tree.resolve path with
  | .ok place =>
    match tree.find? place with
    | some (.directory _) =>
      some (listPlace tree (directoryCounts tree.entries + 2) [place] place)
    | _ => none
  | .error _ => none

end FileTree

end ClassDocs
