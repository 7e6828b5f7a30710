import ClassDocs.Text.Blank

/-!
# Paths

Paths are text whose parts are divided by slashes. Empty parts do not count, nor does a part `.`
except at the start.

## Main definitions

* `Path.join`: one path below another.
* `Path.parent`: a path without its last part.
* `Path.stem`, `Path.extension?`: a file name before and after its last dot.
-/

namespace ClassDocs.Path

/-- Whether a path starts at the root. -/
def isAbsolute (path : String) : Bool :=
  path.toList.head? == some '/'

/-- The path of something below a directory. An absolute path stays as it is. -/
def join (directory path : String) : String :=
  if isAbsolute path then path
  else if directory.toList.getLast?.all (· == '/') then directory ++ path
  else directory ++ "/" ++ path

/-- Whether a part after the first adds nothing to a path. -/
def isIdle (part : String) : Bool :=
  part == "" || part == "."

/-- The parts of a path up to the last one that counts, given in reverse order. The first part of
a path always counts. -/
def dropIdle : List String → List String
  | [] => []
  | [first] => [first]
  | part :: before => if isIdle part then dropIdle before else part :: before

/-- A path without its last part; the last part of a path with one part leaves the empty path. -/
def parent (path : String) : String :=
  match dropIdle (Text.splitOn '/' path).reverse with
  | [] => ""
  | [_] => ""
  | _ :: before =>
    match dropIdle before with
    | [""] => "/"
    | parts => String.intercalate "/" parts.reverse

/-- A path without the parts at its start that add nothing. -/
def dropIdleFront (path : String) : String :=
  String.intercalate "/" ((Text.splitOn '/' path).dropWhile isIdle)

/-- A file name before and after its last dot; a name whose only dot is its first character has
no such parts. -/
def splitAtDot? (name : String) : Option (String × String) :=
  let cs := name.toList.reverse
  let before := ((cs.dropWhile (· != '.')).drop 1).reverse
  if before.isEmpty then none
  else some (String.ofList before, String.ofList (cs.takeWhile (· != '.')).reverse)

/-- What stands after the last dot of a file name. -/
def extension? (name : String) : Option String :=
  (splitAtDot? name).map (·.2)

/-- A file name without its extension. -/
def stem (name : String) : String :=
  match splitAtDot? name with
  | some (before, _) => before
  | none => name

end ClassDocs.Path
