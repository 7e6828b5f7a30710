import ClassDocs.Doc.AccessLevel
import ClassDocs.Doc.Parameter

/-!
# Documentation records

What one comment documents. Parameters are kept in the order of their first mention and a later
one replaces an earlier one of the same name, where having no name counts as one name; exceptions
and open tasks only accumulate.

## Main definitions

* `Record`: the documentation of a class, method or property.
* `Record.addParameter`, `Record.addException`, `Record.addTodo`, `Record.setAccess`: changes.
* `Record.isEmpty`: whether nothing is documented.
-/

namespace ClassDocs

/-- The documentation of a class, method or property. -/
structure Record where
  description : Option String := none
  longDescription : Option String := none
  isAbstract : Bool := false
  isStatic : Bool := false
  isDeprecated : Bool := false
  isIgnored : Bool := false
  access : Option AccessLevel := none
  author : Option String := none
  copyright : Option String := none
  deprecatedMessage : Option String := none
  exampleText : Option String := none
  link : Option String := none
  name : Option String := none
  package : Option String := none
  subPackage : Option String := none
  see : Option String := none
  since : Option String := none
  version : Option String := none
  varType : Option String := none
  /-- Parameters in the order of their first mention. -/
  parameters : List Parameter := []
  returnValue : Option Parameter := none
  exceptions : List Parameter := []
  todos : List String := []
  deriving DecidableEq, Repr, Inhabited

namespace Record

/-- Replaces the first parameter of the same name, or adds one at the end. -/
def putParameter (p : Parameter) : List Parameter → List Parameter
  | [] => [p]
  | q :: rest => if q.name = p.name then p :: rest else q :: putParameter p rest

/-- Documents a parameter, in place of an earlier one of the same name. -/
def addParameter (r : Record) (p : Parameter) : Record :=
  { r with parameters := putParameter p r.parameters }

/-- The parameter of a name. -/
def parameter? (r : Record) (name : String) : Option Parameter :=
  r.parameters.find? (·.name == some name)

/-- Documents one more exception. -/
def addException (r : Record) (p : Parameter) : Record :=
  { r with exceptions := r.exceptions ++ [p] }

/-- Documents one more open task. -/
def addTodo (r : Record) (text : String) : Record :=
  { r with todos := r.todos ++ [text] }

/-- Sets the access level from its spelling. -/
def setAccess (r : Record) (text : String) : Except DocError Record := do
  return { r with access := some (← AccessLevel.ofName text) }

/-- Whether nothing is documented. -/
def isEmpty (r : Record) : Bool :=
  r == {}

end Record

end ClassDocs
