import ClassDocs.Report.Class
import ClassDocs.Report.Style

/-!
# Reports for reading

## Main definitions

* `Record.pretty`: the documentation of a comment.
* `ClassReport.pretty`: a documented class.
* `InheritanceReport.pretty`: who owns the methods of a class.
-/

namespace ClassDocs

/-- Lines as text, each with its end. -/
def unlines (lines : List String) : String :=
  String.join (lines.map (· ++ "\n"))

/-- A label filled up to the column of its value, and the value. -/
def labelled (color : Bool) (label value : String) : String :=
  "  " ++ Style.dimmed.paint color label 12 ++ value

/-- The line of a value that may be unset. -/
def fieldLine (color : Bool) (label : String) (value : Option String) : List String :=
  (value.map (labelled color label)).toList

/-- A heading with the lines of a list; without any line there is no heading. -/
def listLines (color : Bool) (label : String) (items : List String) : List String :=
  if items.isEmpty then []
  else ("  " ++ Style.dimmed.paint color label) :: items.map ("    " ++ ·)

/-- The flags of a record that are shown by name. -/
def Record.flagNames (r : Record) : List String :=
  ([(r.isAbstract, "abstract"), (r.isStatic, "static"), (r.isIgnored, "ignored")].filter
    (·.1)).map (·.2)

/-- The lines of a record. -/
def Record.lines (color : Bool) (r : Record) : List String :=
  let flags := r.flagNames
  (r.description.map fun text => "  " ++ Style.bold.paint color text).toList ++
    (r.longDescription.map ("  " ++ ·)).toList ++
    (if r.isDeprecated then
      ["  " ++ Style.yellow.paint color "DEPRECATED" ++ " " ++ r.deprecatedMessage.getD ""]
    else []) ++
    fieldLine color "flags:" (if flags.isEmpty then none else String.intercalate ", " flags) ++
    fieldLine color "access:" (r.access.map AccessLevel.name) ++
    fieldLine color "author:" r.author ++
    fieldLine color "copyright:" r.copyright ++
    fieldLine color "package:" r.package ++
    fieldLine color "subpackage:" r.subPackage ++
    fieldLine color "name:" r.name ++
    fieldLine color "since:" r.since ++
    fieldLine color "version:" r.version ++
    fieldLine color "see:" r.see ++
    fieldLine color "link:" r.link ++
    fieldLine color "var:" r.varType ++
    fieldLine color "example:" r.exampleText ++
    listLines color "params:" (r.parameters.map Parameter.print) ++
    fieldLine color "return:" (r.returnValue.map Parameter.print) ++
    listLines color "throws:" (r.exceptions.map Parameter.print) ++
    r.todos.map fun todo => "  " ++ Style.yellow.paint color "TODO" ++ " " ++ todo

/-- The documentation of a comment. -/
def Record.pretty (color : Bool) (r : Record) : String :=
  if r.isEmpty then unlines ["", "  " ++ Style.dimmed.paint color "(no documentation)", ""]
  else unlines ([""] ++ r.lines color ++ [""])

/-- A heading with the number of what follows. -/
def countedHeading (color : Bool) (title : String) (count : Nat) : String :=
  "  " ++ Style.bold.paint color title ++ " (" ++ toString count ++ "):"

/-- A heading with the lines below it and an empty line; nothing without any item. -/
def countedSection (color : Bool) (title : String) (count : Nat) (lines : List String) :
    List String :=
  if count = 0 then [] else countedHeading color title count :: lines ++ [""]

/-- The line of a property. -/
def PropertyReport.line (color : Bool) (p : PropertyReport) : String :=
  "    " ++ Style.dimmed.paint color p.typeText 18 ++ " " ++ p.name ++
    match p.doc.description with
    | some text => "  " ++ text
    | none => ""

/-- A remark at the end of a line. -/
def remark (color : Bool) (text : String) : String :=
  "  " ++ Style.dimmed.paint color text

/-- The lines of a method. -/
def MethodReport.lines (color : Bool) (m : MethodReport) : List String :=
  let interface := match m.interface with
    | some name => remark color ("implements " ++ name)
    | none => ""
  ("    " ++ Style.dimmed.paint color m.typeText 24 ++ " " ++ Style.bold.paint color m.name ++
      "()" ++ (if m.inherited then remark color ("from " ++ m.declaredIn) else "") ++ interface) ::
    (m.doc.description.map ("        " ++ ·)).toList

/-- A documented class. -/
def ClassReport.pretty (color : Bool) (r : ClassReport) : String :=
  unlines <|
    ["", "  " ++ Style.dimmed.paint color r.typeText ++ " " ++ Style.boldCyan.paint color r.name] ++
    (if r.interfaces.isEmpty then []
      else ["  " ++ Style.dimmed.paint color "implements" ++ " " ++
        String.intercalate ", " r.interfaces]) ++
    [""] ++
    (if r.doc.isEmpty then [] else r.doc.lines color ++ [""]) ++
    countedSection color "Constants" r.constants.size
      (r.constants.entries.map fun (name, value) =>
        "    " ++ padTo 24 name ++ " " ++ Style.dimmed.paint color value) ++
    countedSection color "Properties" r.properties.length
      (r.properties.map (PropertyReport.line color)) ++
    countedSection color "Methods" r.methods.length (r.methods.flatMap (MethodReport.lines color))

/-- The line of a method with its interface. -/
def OwnedMethod.line (color : Bool) (m : OwnedMethod) : String :=
  "      " ++ m.name ++
    match m.interface with
    | some name => remark color ("from " ++ name)
    | none => ""

/-- The lines of a class and the methods that it owns; a star marks the class of the report. -/
def AncestorReport.lines (color : Bool) (name : String) (a : AncestorReport) : List String :=
  ("  " ++ (if a.owner = name then "*" else " ") ++ " " ++ Style.bold.paint color a.owner ++ " (" ++
      toString a.methods.length ++ "):") ::
    a.methods.map (OwnedMethod.line color)

/-- Who owns the methods of a class. -/
def InheritanceReport.pretty (color : Bool) (r : InheritanceReport) : String :=
  let count := "(" ++ toString r.ancestors.length ++ " classes in chain)"
  unlines <|
    ["", "  " ++ Style.boldCyan.paint color r.name ++ " " ++ Style.dimmed.paint color count, ""] ++
    r.ancestors.flatMap (AncestorReport.lines color r.name) ++ [""]

end ClassDocs
