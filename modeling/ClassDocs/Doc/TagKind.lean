import ClassDocs.Doc.Record

/-!
# Kinds of tags

What a built-in tag does with the lines written under it. Several tag names can share a kind.

## Main definitions

* `TagKind`: the kinds.
* `TagKind.builtinNames`: the tag names known from the start, with their kinds.
* `TagKind.ofName`: the kind that a text names.
* `TagKind.apply`: the effect of one occurrence on a record.
-/

namespace ClassDocs

/-- What a built-in tag documents. -/
inductive TagKind where
  | abstract
  | access
  | author
  | copyright
  | deprecated
  | exampleText
  | global
  | ignore
  | internal
  | link
  | name
  | package
  | param
  | returnValue
  | see
  | since
  | static
  | subPackage
  | throws
  | todo
  | var
  | version
  deriving DecidableEq, Repr

namespace TagKind

/-- The spelling of a kind. -/
def spelling : TagKind → String
  | .abstract => "abstract"
  | .access => "access"
  | .author => "author"
  | .copyright => "copyright"
  | .deprecated => "deprecated"
  | .exampleText => "example"
  | .global => "global"
  | .ignore => "ignore"
  | .internal => "internal"
  | .link => "link"
  | .name => "name"
  | .package => "package"
  | .param => "param"
  | .returnValue => "return"
  | .see => "see"
  | .since => "since"
  | .static => "static"
  | .subPackage => "subpackage"
  | .throws => "throws"
  | .todo => "todo"
  | .var => "var"
  | .version => "version"

/-- The tag names known from the start, each with its kind, in increasing order. -/
def builtinNames : List (String × TagKind) :=
  [("abstract", .abstract), ("access", .access), ("author", .author), ("copyright", .copyright),
   ("deprecated", .deprecated), ("example", .exampleText), ("exception", .throws),
   ("global", .global), ("ignore", .ignore), ("internal", .internal), ("link", .link),
   ("name", .name), ("package", .package), ("param", .param), ("return", .returnValue),
   ("see", .see), ("since", .since), ("static", .static), ("staticvar", .static),
   ("subpackage", .subPackage), ("throws", .throws), ("todo", .todo), ("var", .var),
   ("version", .version)]

/-- The kind that a text names, by its spelling or by a tag name known from the start. -/
def ofName (text : String) : Except DocError TagKind :=
  match builtinNames.find? fun (tag, kind) => tag == text || kind.spelling == text with
  | some (_, kind) => .ok kind
  | none => .error (.unknownTagKind text)

/-- The effect on a record of one occurrence of a tag with the given lines. Flags ignore their
lines, an unknown access level changes nothing, and a text field takes all lines. -/
def apply (kind : TagKind) (r : Record) (lines : List String) : Record :=
  let text := String.intercalate "\n" lines
  match kind with
  | .abstract => { r with isAbstract := true }
  | .ignore => { r with isIgnored := true }
  | .static => { r with isStatic := true }
  | .global => r
  | .internal => r
  | .access =>
    match AccessLevel.ofName? (lines.headD "") with
    | some level => { r with access := some level }
    | none => r
  | .deprecated => { r with deprecatedMessage := some text, isDeprecated := true }
  | .todo => r.addTodo text
  | .author => { r with author := some text }
  | .copyright => { r with copyright := some text }
  | .exampleText => { r with exampleText := some text }
  | .link => { r with link := some text }
  | .name => { r with name := some text }
  | .package => { r with package := some text }
  | .subPackage => { r with subPackage := some text }
  | .see => { r with see := some text }
  | .since => { r with since := some text }
  | .var => { r with varType := some text }
  | .version => { r with version := some text }
  | .param => r.addParameter (Parameter.ofParamText text)
  | .returnValue =>
    match Parameter.ofReturnText? text with
    | some value => { r with returnValue := some value }
    | none => r
  | .throws => r.addException (Parameter.ofThrowsText text)

end TagKind

end ClassDocs
