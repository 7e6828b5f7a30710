import ClassDocs.CommandLine.Run

/-!
# The program

Reads what the command that the arguments spell can look at, runs the command, and writes what it
leaves behind. File names are read as texts. What cannot be read is left out, and so are links that
lead nowhere.

## Main definitions

* `World.paths`: what an invocation can look at.
* `Image`: what has been read of the file system.
* `readWorld`: what the program is called with.
* `main`: the program.
-/

namespace ClassDocs

/-! ### Paths to read -/

/-- The directories that a listing starts in. -/
def Config.listedDirectories (config : Config) (paths : List String) (parent : Option String) :
    List String :=
  match config.catalog paths with
  | .ok catalog =>
    catalog.includePaths.map (Catalog.directory · (normalizeNamespace (parent.getD "")))
  | .error _ => []

/-- The files with the source of methods. -/
def Manifest.sourceFiles (m : Manifest) : List String :=
  m.classes.values.flatMap fun owner =>
    owner.methods.filterMap fun method => (m.location? owner method).map (·.file)

namespace World

/-- The paths that a command can look at, as far as the files that have been read tell. -/
def commandPaths (world : World) (config : Config) : Command → List String
  | .namespaces filter paths => config.listedDirectories paths filter
  | .classes parent paths _ _ => config.listedDirectories paths parent
  | .parse file _ => file.toList
  | .inheritance query => [query.manifest]
  | .classReport query =>
    query.manifest ::
      match Manifest.load world.tree query.manifest with
      | .ok manifest => manifest.sourceFiles
      | .error _ => []

/-- The paths that an invocation can look at, as far as the files that have been read tell. -/
def paths (world : World) (invocation : Invocation) : List String :=
  invocation.config.toList ++ world.configFiles ++
    match Config.load world.tree world.configFiles invocation.config with
    | .ok config => world.commandPaths config invocation.command
    | .error _ => []

end World

/-! ### Reading files -/

/-- What has been read of the file system. -/
structure Image where
  tree : FileTree
  /-- The paths that have been read with everything below them. -/
  read : List String := []

namespace Image

/-- The place that an absolute path spells. -/
def place (path : String) : List FileName :=
  FileTree.spelled {} path

/-- Puts an entry where an absolute path says. -/
def put (image : Image) (path : String) (entry : Entry) : Image :=
  let entries := match place path with
    | [] => Entry.inside (some entry)
    | names => Entry.put image.tree.entries (some entry) names
  { image with tree := { image.tree with entries } }

/-- The entry at an absolute path, or an empty directory. -/
def directory (image : Image) (path : String) : Entry :=
  (image.tree.find? (place path)).getD (.directory [])

/-- The entry that an item of a directory is, and the paths that are still to be read for it. -/
def itemEntry? (image : Image) (item : IO.FS.DirEntry) : IO (Option (Entry × List String)) := do
  try
    let path := item.path.toString
    let real := (← IO.FS.realPath item.path).toString
    if real != path then return some (.link real, [real])
    match (← item.path.metadata).type with
    | .dir => return some (image.directory path, [path])
    | .file => return some (.file (← IO.FS.readBinFile item.path), [])
    | _ => return none
  catch _ => return none

/-- Reads what stands at some paths that pass no links, and what the links below them lead to. -/
partial def readAll (image : Image) : (pending : List String) → IO Image
  | [] => return image
  | path :: pending => do
    if image.read.contains path then return ← readAll image pending
    let mut image := { image with read := path :: image.read }
    let mut pending := pending
    let file ← IO.FS.realPath path
    if ← file.isDir then
      let mut entries : Array (FileName × Entry) := #[]
      for item in ← (try file.readDir catch _ => pure #[]) do
        if let some (entry, more) ← image.itemEntry? item then
          entries := entries.push (item.fileName, entry)
          pending := more ++ pending
      image := image.put path (.directory entries.toList)
    else
      try image := image.put path (.file (← IO.FS.readBinFile file))
      catch _ => pure ()
    readAll image pending

/-- Reads what a path leads to, and as much of what is on the way there as it takes to follow it. -/
def readPath (image : Image) (path : String) : IO Image := do
  let mut image := image
  let mut here ← if Path.isAbsolute path then IO.FS.realPath "/" else IO.currentDir
  for name in Text.splitOn '/' path do
    let next := Path.join here.toString name
    let real ← try IO.FS.realPath next catch _ =>
      -- Something on the way is missing. A file is read, as it may stand in the place of a
      -- directory.
      return ← if ← here.isDir then pure image else image.readAll [here.toString]
    if !Path.isIdle name && name != ".." && real.toString != next then
      image := image.put next (.link real.toString)
    if ← real.isDir then
      image := image.put real.toString (image.directory real.toString)
    here := real
  image.readAll [here.toString]

end Image

/-! ### The world -/

/-- Whether arguments spell a command that reads the standard input. -/
def readsInput (args : List String) : Bool :=
  match Invocation.ofArguments args with
  | .ok invocation => invocation.command.readsInput
  | .error _ => false

/-- How the program is called. -/
def usageText : String :=
  "Usage: apidoc [OPTIONS] <COMMAND>\n\n" ++
    "Commands: " ++ String.intercalate ", " Invocation.shape.subcommands ++ "\n"

/-- The files that arguments make the program look at. They are read in three rounds, since the
configuration names directories and a manifest names the files of methods. -/
def readTree (world : World) (args : List String) : IO FileTree := do
  let directory := (← IO.currentDir).toString
  let start : Image := { tree := { workingDirectory := Image.place directory } }
  let mut image := start.put directory (.directory [])
  if let .ok invocation := Invocation.ofArguments args then
    for _ in [0:3] do
      for path in { world with tree := image.tree : World }.paths invocation do
        image ← image.readPath path
  return image.tree

/-- What the program is called with. -/
def readWorld (args : List String) : IO World := do
  let world : World := {
    tree := {}
    stdin := ← if readsInput args then (← IO.getStdin).readBinToEnd else pure .empty
    color := (← (← IO.getStdout).isTty) && (← IO.getEnv "NO_COLOR").isNone
    configFiles := configCandidates (← IO.getEnv "XDG_CONFIG_HOME") (← IO.getEnv "HOME") }
  return { world with tree := ← readTree world args }

end ClassDocs

/-- The program. -/
def main (args : List String) : IO UInt32 := do
  match (← ClassDocs.readWorld args).run args with
  | .usage code =>
    if code = 0 then IO.print ClassDocs.usageText else IO.eprint ClassDocs.usageText
    return code.toUInt32
  | .ran code stdout stderr =>
    IO.print stdout
    IO.eprint stderr
    return code.toUInt32
  | .overflow =>
    IO.eprintln "attempt to calculate with overflow"
    return 101
