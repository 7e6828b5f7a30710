import ClassDocs.Class.View
import ClassDocs.Doc.Serialize

/-!
# Class reports

## Main definitions

* `ClassReport`: a documented class with its members and the bodies of its methods.
* `InheritanceReport`: the methods of a class by the ancestor that owns them.
* `View.classReport`, `View.inheritanceReport`: the reports of a view.
* `ClassReport.toJson`, `InheritanceReport.toJson`: their JSON forms.
-/

namespace ClassDocs

/-- The version that reports carry. -/
def reportVersion : String := "0.1.0"

/-- A property of a class report. -/
structure PropertyReport where
  name : String
  typeText : String
  declaredIn : String
  doc : Record

/-- A method of a class report. -/
structure MethodReport where
  name : String
  typeText : String
  declaredIn : String
  inherited : Bool
  interface : Option String
  doc : Record
  code : String

/-- A documented class. -/
structure ClassReport where
  name : String
  typeText : String
  doc : Record
  interfaces : List String
  constants : SortedMap String
  properties : List PropertyReport
  methods : List MethodReport

/-- A method of an inheritance report. -/
structure OwnedMethod where
  name : String
  interface : Option String

/-- A class of an inheritance report with the methods that it owns. -/
structure AncestorReport where
  owner : String
  methods : List OwnedMethod

/-- The methods of a class by the ancestor that owns them, the root first and the class last. -/
structure InheritanceReport where
  name : String
  ancestors : List AncestorReport

/-- The report of a property with its documentation. -/
def Property.report (p : Property) (doc : Record) : PropertyReport where
  name := p.name
  typeText := p.typeText
  declaredIn := p.declaringClass
  doc

namespace View

/-- The report of a method with its documentation and its body. -/
def methodReport (view : View) (interfaces : SortedMap String) (m : Method) (doc : Record)
    (code : String) : MethodReport where
  name := m.name
  typeText := m.typeText
  declaredIn := m.declaringClass
  inherited := view.isInherited m
  interface := interfaces.get? m.name
  doc
  code

/-- The reports of methods in order. Comments and bodies are read one method after the other, and
what was read before a failure stays with the view. -/
def methodReports (tree : FileTree) (interfaces : SortedMap String) :
    View → List Method → View × Except (Fault ClassError) (List MethodReport)
  | view, [] => (view, .ok [])
  | view, m :: rest =>
    let (view, record) := view.methodDoc m
    match view.code tree m with
    | (view, .error e) => (view, .error e)
    | (view, .ok body) =>
      let report := view.methodReport interfaces m record body
      let (view, reports) := methodReports tree interfaces view rest
      (view, reports.map (report :: ·))

/-- The report of a class, given the interfaces of its methods. -/
def classReportWith (view : View) (tree : FileTree) (interfaces : SortedMap String) :
    View × Except (Fault ClassError) ClassReport :=
  let (view, properties) := view.documented (view.properties .all)
  match methodReports tree interfaces view view.methods with
  | (view, .error e) => (view, .error e)
  | (view, .ok methods) =>
    let (view, doc) := view.doc
    (view, .ok
      { name := view.name
        typeText := view.snapshot.typeText
        doc
        interfaces := view.snapshot.interfaces
        constants := view.snapshot.constants
        properties := properties.map fun (p, record) => p.report record
        methods })

/-- The report of a class. -/
def classReport (view : View) (tree : FileTree) :
    View × Except (Fault ClassError) ClassReport :=
  match view.methodInterfaces with
  | .ok interfaces => view.classReportWith tree interfaces
  | .error e => (view, .error (.failure e))

/-- The report of who owns the methods of a class. -/
def inheritanceReport (view : View) : Except ClassError InheritanceReport := do
  let interfaces ← view.methodInterfaces
  let ownership ← view.ownership
  return {
    name := view.name
    ancestors := ownership.buckets.map fun bucket =>
      { owner := bucket.owner
        methods := bucket.methods.keys.map fun name =>
          { name, interface := interfaces.get? name } } }

end View

/-- The JSON form of a property. -/
def PropertyReport.toJson (p : PropertyReport) : Json :=
  .obj [("name", .str p.name), ("type", .str p.typeText), ("declared_in", .str p.declaredIn),
    ("doc", p.doc.toJson)]

/-- The JSON form of a method; an interface or a body is only there if there is one. -/
def MethodReport.toJson (m : MethodReport) : Json :=
  .obj ([("name", .str m.name), ("type", .str m.typeText), ("declared_in", .str m.declaredIn),
      ("inherited", .bool m.inherited)] ++
    Json.member? "interface" (m.interface.map .str) ++ [("doc", m.doc.toJson)] ++
    Json.member? "code" (if m.code = "" then none else some (.str m.code)))

/-- The JSON form of a class. -/
def ClassReport.toJson (r : ClassReport) : Json :=
  .obj [("version", .str reportVersion), ("name", .str r.name), ("type", .str r.typeText),
    ("doc", r.doc.toJson), ("interfaces", .arr (r.interfaces.map .str)),
    ("constants", r.constants.toJson .str),
    ("properties", .arr (r.properties.map PropertyReport.toJson)),
    ("methods", .arr (r.methods.map MethodReport.toJson))]

/-- The JSON form of a method with its interface, if it has one. -/
def OwnedMethod.toJson (m : OwnedMethod) : Json :=
  .obj (("name", .str m.name) :: Json.member? "interface" (m.interface.map .str))

/-- The JSON form of the methods of a class. -/
def AncestorReport.toJson (a : AncestorReport) : Json :=
  .obj [("class", .str a.owner), ("methods", .arr (a.methods.map OwnedMethod.toJson))]

/-- The JSON form of who owns the methods of a class. -/
def InheritanceReport.toJson (r : InheritanceReport) : Json :=
  .obj [("version", .str reportVersion), ("class", .str r.name),
    ("ancestors", .arr (r.ancestors.map AncestorReport.toJson))]

end ClassDocs
