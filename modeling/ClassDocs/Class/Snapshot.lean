import ClassDocs.Doc.AccessLevel
import ClassDocs.FileTree.Basic
import ClassDocs.Json
import ClassDocs.SortedMap

/-!
# Snapshots of classes

A class with everything it reports: what it declares itself and what it has from its ancestors and
interfaces.

## Main definitions

* `ClassError`, `ClassError.message`: why a class or its source cannot be shown.
* `ClassKind`: class, interface or trait.
* `Location`: where a method is written.
* `Method`, `Property`: members with the class that declares them.
* `Snapshot`: a class with its members.
* `Method.toJson`, `Property.toJson`, `Snapshot.toJson`: the JSON forms.
-/

namespace ClassDocs

/-- Why a class or its source cannot be shown. -/
inductive ClassError where
  /-- No class of this name is known. -/
  | unknownClass (name : String)
  /-- Going up from parent to parent comes back to this class. -/
  | inheritanceCycle (name : String)
  /-- The source file of a method cannot be read. -/
  | source (path : String) (cause : FileError)
  deriving DecidableEq, Repr

/-- The wording of a failure. -/
def ClassError.message : ClassError → String
  | .unknownClass name => "unknown class: " ++ name
  | .inheritanceCycle name => "inheritance cycle through class " ++ name
  | .source path cause => "reading source " ++ path ++ ": " ++ cause.message

/-- What a snapshot describes. -/
inductive ClassKind where
  | classKind
  | interfaceKind
  | traitKind
  deriving DecidableEq, Repr, Inhabited

namespace ClassKind

/-- The spelling of a kind. -/
def name : ClassKind → String
  | .classKind => "class"
  | .interfaceKind => "interface"
  | .traitKind => "trait"

/-- The kind that a text spells, letter for letter. -/
def ofName? (text : String) : Option ClassKind :=
  [ClassKind.classKind, .interfaceKind, .traitKind].find? (·.name == text)

end ClassKind

/-- Where a method is written: its file and the lines, counted from one, that open and close it. -/
structure Location where
  file : String
  startLine : UInt64
  endLine : UInt64
  deriving DecidableEq, Repr

/-- A method as a class reports it. -/
structure Method where
  name : String
  /-- The class, interface or trait that declares the method. -/
  declaringClass : String
  visibility : AccessLevel := .publicLevel
  isStatic : Bool := false
  isAbstract : Bool := false
  isFinal : Bool := false
  docComment : Option String := none
  location : Option Location := none
  deriving DecidableEq, Repr

/-- A property as a class reports it. -/
structure Property where
  name : String
  /-- The class that declares the property. -/
  declaringClass : String
  visibility : AccessLevel := .publicLevel
  isStatic : Bool := false
  docComment : Option String := none
  deriving DecidableEq, Repr

/-- A class with everything it reports. -/
structure Snapshot where
  name : String
  kind : ClassKind := .classKind
  isAbstract : Bool := false
  isFinal : Bool := false
  /-- The interfaces in the order in which they are reported. -/
  interfaces : List String := []
  /-- The methods by name, inherited ones included. -/
  methods : SortedMap Method := .empty
  properties : SortedMap Property := .empty
  constants : SortedMap String := .empty
  docComment : Option String := none
  deriving DecidableEq

/-- Whether a class reports a method. -/
def Snapshot.hasMethod (snapshot : Snapshot) (name : String) : Bool :=
  snapshot.methods.contains name

/-- The JSON form of a map. -/
def SortedMap.toJson {α : Type} (m : SortedMap α) (value : α → Json) : Json :=
  .obj (m.entries.map fun (key, a) => (key, value a))

/-- The JSON form of a location. -/
def Location.toJson (location : Location) : Json :=
  .obj [("file", .str location.file), ("start_line", .num location.startLine.toNat),
    ("end_line", .num location.endLine.toNat)]

/-- The JSON form of a method. -/
def Method.toJson (m : Method) : Json :=
  .obj [("name", .str m.name), ("declaring_class", .str m.declaringClass),
    ("visibility", .str m.visibility.name), ("is_static", .bool m.isStatic),
    ("is_abstract", .bool m.isAbstract), ("is_final", .bool m.isFinal),
    ("doc_comment", .ofOption m.docComment),
    ("location", match m.location with
      | some location => location.toJson
      | none => .null)]

/-- The JSON form of a property. -/
def Property.toJson (p : Property) : Json :=
  .obj [("name", .str p.name), ("declaring_class", .str p.declaringClass),
    ("visibility", .str p.visibility.name), ("is_static", .bool p.isStatic),
    ("doc_comment", .ofOption p.docComment)]

/-- The JSON form of a class. -/
def Snapshot.toJson (s : Snapshot) : Json :=
  .obj [("name", .str s.name), ("kind", .str s.kind.name), ("is_abstract", .bool s.isAbstract),
    ("is_final", .bool s.isFinal), ("interfaces", .arr (s.interfaces.map .str)),
    ("methods", s.methods.toJson Method.toJson),
    ("properties", s.properties.toJson Property.toJson),
    ("constants", s.constants.toJson .str), ("doc_comment", .ofOption s.docComment)]

end ClassDocs
