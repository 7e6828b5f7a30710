import ClassDocs.Text.Quoted

/-!
# Access levels

The three levels that documentation can declare and members can have, with their exact spelling.
Other spellings are refused, as are names that no tag or kind of tag can have. Reading a comment
never fails: a refusal arises only when a value is set by hand or tags are registered.

## Main definitions

* `DocError`, `DocError.message`: what is refused, and its wording.
* `AccessLevel`: private, protected or public.
* `AccessLevel.ofName?`: the level that a text spells exactly.
-/

namespace ClassDocs

/-- What is refused when a value is set by hand or a tag is registered. -/
inductive DocError where
  /-- A text that is none of the three access levels. -/
  | invalidAccessLevel (text : String)
  /-- A text that cannot name a tag. -/
  | invalidTagName (name : String)
  /-- A text that names no kind of tag. -/
  | unknownTagKind (name : String)
  deriving DecidableEq, Repr

/-- The wording of a cause. -/
def DocError.message : DocError → String
  | .invalidAccessLevel text =>
    "invalid access level " ++ Text.quoted text ++ ", try private, protected or public"
  | .invalidTagName name => "invalid tag name " ++ Text.quoted name
  | .unknownTagKind name => "unknown tag kind " ++ Text.quoted name

/-- How far a member can be reached from outside its class. -/
inductive AccessLevel where
  | privateLevel
  | protectedLevel
  | publicLevel
  deriving DecidableEq, Repr, Inhabited

namespace AccessLevel

/-- The spelling of a level. -/
def name : AccessLevel → String
  | .privateLevel => "private"
  | .protectedLevel => "protected"
  | .publicLevel => "public"

/-- The level that a text spells, letter for letter. -/
def ofName? (text : String) : Option AccessLevel :=
  [AccessLevel.privateLevel, .protectedLevel, .publicLevel].find? (·.name == text)

/-- The level that a text spells, or its refusal. -/
def ofName (text : String) : Except DocError AccessLevel :=
  match ofName? text with
  | some level => .ok level
  | none => .error (.invalidAccessLevel text)

end AccessLevel

end ClassDocs
