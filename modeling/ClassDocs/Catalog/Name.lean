import ClassDocs.Text.Blank

/-!
# Names of namespaces and classes

In the catalog the parts of a name are divided by slashes, in a class name by backslashes.

## Main definitions

* `normalizeNamespace`: a namespace as the catalog writes it.
* `className`: the class name of a class in a namespace.
* `qualifiedClass`: the class name that a catalog key stands for.
-/

namespace ClassDocs

/-- Divides the parts of a name in the catalog. -/
def namespaceSeparator : Char := '/'

/-- Divides the parts of a class name. -/
def classSeparator : Char := '\\'

/-- Whether a character divides the parts of a name. -/
def isSeparator (c : Char) : Bool :=
  c == namespaceSeparator || c == classSeparator

/-- A namespace as the catalog writes it. -/
def normalizeNamespace (name : String) : String :=
  Text.trimMatches (· == namespaceSeparator)
    (Text.replaceChar classSeparator namespaceSeparator name)

/-- The class name of a class in a namespace. -/
def className (parent name : String) : String :=
  let parent := Text.trimMatches isSeparator parent
  if parent = "" then name
  else
    Text.replaceChar namespaceSeparator classSeparator parent ++ classSeparator.toString ++ name

/-- The parts of a text before and after the last occurrence of a character. -/
def splitLast? (separator : Char) (text : String) : Option (String × String) :=
  let cs := text.toList.reverse
  if cs.contains separator then
    some (String.ofList ((cs.dropWhile (· != separator)).drop 1).reverse,
      String.ofList (cs.takeWhile (· != separator)).reverse)
  else none

/-- The class name that a catalog key stands for; a class name stands for itself. -/
def qualifiedClass (key : String) : String :=
  match splitLast? namespaceSeparator key with
  | some (parent, name) => className parent name
  | none => key

end ClassDocs
