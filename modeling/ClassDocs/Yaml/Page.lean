/-!
# Pages

Text being written, with what the next mark on it has to know: the column, and whether the line so
far ends in a blank or holds nothing but indentation.

## Main definitions

* `Page`: text being written.
* `Page.put`, `Page.putAll`, `Page.endLine`, `Page.indentTo`, `Page.mark`: writing.
* `Page.text`: what is written.
-/

namespace ClassDocs.Yaml

/-- Text being written. -/
structure Page where
  /-- The characters written, last first. -/
  written : List Char := []
  /-- The number of characters on the line. -/
  column : Nat := 0
  /-- Whether no blank is needed before the next mark. -/
  spaced : Bool := true
  /-- Whether the line holds nothing but indentation and marks that count as such. -/
  indented : Bool := true

namespace Page

/-- What is written. -/
def text (page : Page) : String :=
  String.ofList page.written.reverse

/-- Writes a character. -/
def put (page : Page) (c : Char) : Page :=
  { page with written := c :: page.written, column := page.column + 1 }

/-- Writes characters. -/
def putAll (page : Page) (cs : List Char) : Page :=
  cs.foldl put page

/-- Writes a character that ends the line. -/
def endLineWith (page : Page) (c : Char) : Page :=
  { page with written := c :: page.written, column := 0 }

/-- Ends the line. -/
def endLine (page : Page) : Page :=
  page.endLineWith '\n'

/-- Notes that the line ends in text. -/
def afterText (page : Page) : Page :=
  { page with spaced := false, indented := false }

/-- Writes a blank unless none is needed. -/
def separate (page : Page) : Page :=
  if page.spaced then page else page.put ' '

/-- Goes to an indentation, on a new line unless this line can still have it. -/
def indentTo (page : Page) (indent : Nat) : Page :=
  let page :=
    if !page.indented || indent < page.column || (page.column == indent && !page.spaced) then
      page.endLine
    else page
  let page := page.putAll (List.replicate (indent - page.column) ' ')
  { page with spaced := true, indented := true }

/-- Writes a mark after a blank; `asIndent` says that it counts as indentation. -/
def mark (page : Page) (cs : String) (asIndent : Bool) : Page :=
  let page := page.separate.putAll cs.toList
  { page with spaced := false, indented := page.indented && asIndent }

/-- Writes a mark that follows directly on what is written. -/
def closeMark (page : Page) (cs : String) : Page :=
  { page.putAll cs.toList with spaced := false, indented := false }

end Page

end ClassDocs.Yaml
