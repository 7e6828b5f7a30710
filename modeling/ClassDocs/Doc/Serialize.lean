import ClassDocs.Doc.Record
import ClassDocs.Json

/-!
# Documentation as JSON

Flags are always written; every other member only when it is set or not empty, so that an unset
text differs from an empty one.

## Main definitions

* `Parameter.toJson`, `Record.toJson`: the JSON form.
* `Parameter.ofJson?`: reading a documented value back.
-/

namespace ClassDocs

/-- The JSON form of a documented value. -/
def Parameter.toJson (p : Parameter) : Json :=
  .obj (Json.member? "type" (p.type.map .str) ++ Json.member? "name" (p.name.map .str) ++
    Json.member? "description" (p.description.map .str))

/-- The value of a member of an object that holds a text; a missing one and null are unset. Nothing
else may stand there, nor may the member occur twice. -/
def textMember? (members : List (String × Json)) (key : String) : Option (Option String) :=
  match members.filter (·.1 == key) with
  | [] => some none
  | [(_, .null)] => some none
  | [(_, .str text)] => some (some text)
  | _ => none

/-- The documented value of a JSON form. -/
def Parameter.ofJson? : Json → Option Parameter
  | .obj members => do
    return {
      type := ← textMember? members "type"
      name := ← textMember? members "name"
      description := ← textMember? members "description" }
  | _ => none

/-- The JSON form of a record. -/
def Record.toJson (r : Record) : Json :=
  let text (key : String) (value : Option String) := Json.member? key (value.map .str)
  .obj (text "description" r.description ++
    text "long_description" r.longDescription ++
    [("is_abstract", .bool r.isAbstract), ("is_static", .bool r.isStatic),
     ("is_deprecated", .bool r.isDeprecated), ("is_ignored", .bool r.isIgnored)] ++
    text "access" (r.access.map AccessLevel.name) ++
    text "author" r.author ++
    text "copyright" r.copyright ++
    text "deprecated_message" r.deprecatedMessage ++
    text "example" r.exampleText ++
    text "link" r.link ++
    text "name" r.name ++
    text "package" r.package ++
    text "sub_package" r.subPackage ++
    text "see" r.see ++
    text "since" r.since ++
    text "version" r.version ++
    text "var_type" r.varType ++
    Json.items? "parameters" (r.parameters.map Parameter.toJson) ++
    Json.member? "return" (r.returnValue.map Parameter.toJson) ++
    Json.items? "exceptions" (r.exceptions.map Parameter.toJson) ++
    Json.items? "todos" (r.todos.map .str))

end ClassDocs
