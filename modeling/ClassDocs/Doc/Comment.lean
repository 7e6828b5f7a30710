import ClassDocs.Doc.Registry

/-!
# Comments

A comment is a block whose first and last lines hold its delimiters and whose other lines start
with an asterisk. Its content is a short description up to a blank line, a long description up to
the first tag, and tags.

## Main definitions

* `Comment.contentLines`: the lines of a comment without their markers.
* `Registry.parse`: the record that a comment documents.
* `Registry.parseOption`: the same for an element that may have no comment.
-/

namespace ClassDocs

namespace Comment

/-- A trimmed line without its marker; a delimiter alone is an empty line. -/
def stripMarker (line : String) : String :=
  if line = "/**" ∨ line = "*/" then ""
  else match line.toList with
    | '*' :: rest => String.ofList (Text.trimChars rest)
    | _ => line

/-- The lines of a comment between its first and its last, without their markers. -/
def contentLines (comment : String) : List String :=
  let lines := (Text.lines (Text.trim comment)).map fun line => stripMarker (Text.trim line)
  lines.tail.dropLast

end Comment

namespace Registry

/-- Takes the short description off the front: the lines up to a blank line, which goes with them,
or up to a tag. -/
def takeDescription (reg : Registry) : List String → List String × List String
  | [] => ([], [])
  | line :: rest =>
    if line = "" then ([], rest)
    else if (reg.classify line).isSome then ([], line :: rest)
    else
      let (description, remaining) := takeDescription reg rest
      (line :: description, remaining)

/-- Takes the long description off the front: the lines up to a tag that are not blank. -/
def takeLongDescription (reg : Registry) (lines : List String) : List String × List String :=
  let (text, remaining) := lines.span fun line => (reg.classify line).isNone
  (text.filter (· != ""), remaining)

/-- The record that a comment documents. -/
def parse (reg : Registry) (comment : String) : Record :=
  let (short, rest) := reg.takeDescription (Comment.contentLines comment)
  let (long, rest) := reg.takeLongDescription rest
  reg.applyTags
    { description := nonEmpty (String.intercalate " " short)
      longDescription := nonEmpty (String.intercalate " " long) }
    rest

/-- The record of an element that may have no comment. -/
def parseOption (reg : Registry) : Option String → Record
  | some comment => reg.parse comment
  | none => {}

end Registry

end ClassDocs
