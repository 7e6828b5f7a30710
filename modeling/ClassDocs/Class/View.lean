import ClassDocs.Class.Manifest
import ClassDocs.Class.Ownership
import ClassDocs.Class.Source
import ClassDocs.Doc.Comment

/-!
# Documented classes

A class together with its documentation and the source of its methods. A view reads each comment
once and keeps its record. The body of a method is read from its file once too; from then on the
view keeps it, whatever becomes of the file. A body that could not be read is not kept, nor is
anything when the arithmetic on its line numbers leaves its range.

## Main definitions

* `View`: a class with the documentation and the bodies read so far.
* `Snapshot.doc`, `Method.doc`, `Property.doc`: what comments say.
* `View.doc`, `View.methodDoc`, `View.propertyDoc`: documentation, read once.
* `Snapshot.typeText`, `Method.typeText`, `Property.typeText`: how a declaration starts.
* `View.code`: the body of a method, read once.
* `PropertyFilter`: which properties are asked for.
-/

namespace ClassDocs

/-- A class with its documentation. -/
structure View where
  registry : Registry
  manifest : Manifest
  snapshot : Snapshot
  /-- The documentation of the class, once it has been read. -/
  classDoc : Option Record := none
  /-- The documentation read so far, by method. -/
  methodDocs : SortedMap Record := .empty
  /-- The documentation read so far, by property. -/
  propertyDocs : SortedMap Record := .empty
  /-- The bodies read so far, by method. -/
  bodies : SortedMap String := .empty

/-- How the declaration of a class starts. -/
def Snapshot.typeText (s : Snapshot) : String :=
  (if s.isFinal then "final " else "") ++
    match s.kind with
    | .interfaceKind => "interface"
    | .traitKind => "trait"
    | .classKind => if s.isAbstract then "abstract class" else "class"

/-- How the declaration of a method starts. -/
def Method.typeText (m : Method) : String :=
  (if m.isFinal then "final " else if m.isAbstract then "abstract " else "") ++ m.visibility.name ++
    if m.isStatic then " static" else ""

/-- How the declaration of a property starts. -/
def Property.typeText (p : Property) : String :=
  p.visibility.name ++ if p.isStatic then " static" else ""

/-- The documentation of a class. -/
def Snapshot.doc (reg : Registry) (s : Snapshot) : Record :=
  reg.parseOption s.docComment

/-- The documentation of a method. -/
def Method.doc (reg : Registry) (m : Method) : Record :=
  reg.parseOption m.docComment

/-- The documentation of a property. -/
def Property.doc (reg : Registry) (p : Property) : Record :=
  reg.parseOption p.docComment

/-- Which properties are asked for: those of some visibilities and, with `statics`, static ones
whatever their visibility. -/
structure PropertyFilter where
  isPublic : Bool := true
  isProtected : Bool := true
  isPrivate : Bool := false
  statics : Bool := false
  deriving DecidableEq, Repr

namespace PropertyFilter

/-- All properties. -/
def all : PropertyFilter :=
  { isPrivate := true, statics := true }

/-- Whether a visibility is asked for. -/
def allows (filter : PropertyFilter) : AccessLevel → Bool
  | .publicLevel => filter.isPublic
  | .protectedLevel => filter.isProtected
  | .privateLevel => filter.isPrivate

/-- Whether a property is asked for. -/
def accepts (filter : PropertyFilter) (p : Property) : Bool :=
  filter.allows p.visibility || (filter.statics && p.isStatic)

end PropertyFilter

namespace View

/-- The view of a class. -/
def load (registry : Registry) (manifest : Manifest) (name : String) : Except ClassError View := do
  return { registry, manifest, snapshot := ← manifest.snapshot name }

/-- The name of the class. -/
def name (view : View) : String :=
  view.snapshot.name

/-- The documentation of the class, and the view that keeps it. -/
def doc (view : View) : View × Record :=
  match view.classDoc with
  | some record => (view, record)
  | none =>
    let record := view.snapshot.doc view.registry
    ({ view with classDoc := some record }, record)

/-- The documentation of a method, and the view that keeps it. -/
def methodDoc (view : View) (m : Method) : View × Record :=
  let (methodDocs, record) := view.methodDocs.getOrInsert m.name fun _ => m.doc view.registry
  ({ view with methodDocs }, record)

/-- The documentation of a property, and the view that keeps it. -/
def propertyDoc (view : View) (p : Property) : View × Record :=
  let (propertyDocs, record) := view.propertyDocs.getOrInsert p.name fun _ => p.doc view.registry
  ({ view with propertyDocs }, record)

/-- Properties with their documentation, and the view that keeps it. -/
def documented : View → List Property → View × List (Property × Record)
  | view, [] => (view, [])
  | view, p :: rest =>
    let (view, record) := view.propertyDoc p
    let (view, others) := documented view rest
    (view, (p, record) :: others)

/-- All methods in the order of their names, inherited ones included. -/
def methods (view : View) : List Method :=
  view.snapshot.methods.values

/-- The method of a name. -/
def method? (view : View) (name : String) : Option Method :=
  view.methods.find? (·.name == name)

/-- The properties that are asked for, in the order of their names. -/
def properties (view : View) (filter : PropertyFilter) : List Property :=
  view.snapshot.properties.values.filter filter.accepts

/-- Whether a method is declared in a class, or in the class of the view when none is given. -/
def isDeclaredIn (view : View) (m : Method) (owner : Option String) : Bool :=
  m.declaringClass == owner.getD view.name

/-- Whether a method comes from an ancestor or an interface. -/
def isInherited (view : View) (m : Method) : Bool :=
  !view.isDeclaredIn m none

/-- The methods grouped by the ancestor that declares them. -/
def ownership (view : View) : Except ClassError Ownership := do
  return .resolve view.snapshot (← view.manifest.parentChain view.name)

/-- The first interface of the class that reports a method. -/
def methodInterface (view : View) (method : String) : Except ClassError (Option String) :=
  view.manifest.declaringInterface view.snapshot method

/-- The interface of every method that has one. -/
def methodInterfaces (view : View) : Except ClassError (SortedMap String) :=
  view.methods.foldlM (fun found m => do
    match ← view.methodInterface m.name with
    | some interface => return found.insert m.name interface
    | none => return found) .empty

/-- The body of a method, and the view that keeps it. -/
def code (view : View) (tree : FileTree) (m : Method) :
    View × Except (Fault ClassError) String :=
  match view.bodies.get? m.name with
  | some body => (view, .ok body)
  | none =>
    match m.code tree with
    | .ok body => ({ view with bodies := view.bodies.insert m.name body }, .ok body)
    | .error e => (view, .error e)

end View

end ClassDocs
