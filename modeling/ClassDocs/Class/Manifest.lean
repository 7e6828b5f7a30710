import ClassDocs.Class.Snapshot
import ClassDocs.Path

/-!
# Manifests

A manifest lists classes with what each declares itself. Looking a class up adds what it has from
its ancestors and interfaces. The nearest declaration of a name counts: the class first, then its
ancestors from the parent upwards, then the interfaces.

## Main definitions

* `MethodEntry`, `PropertyEntry`, `ClassEntry`: declarations.
* `Manifest`: classes by name.
* `Manifest.parentChain`: the ancestors of a class.
* `Manifest.interfaceClosure`: interfaces with those that they extend.
* `Manifest.snapshot`: a class with everything it reports.
* `Manifest.declaringInterface`: the interface that a method comes from.
-/

namespace ClassDocs

/-- A method as a class declares it. -/
structure MethodEntry where
  name : String
  visibility : AccessLevel := .publicLevel
  isStatic : Bool := false
  isAbstract : Bool := false
  isFinal : Bool := false
  doc : Option String := none
  /-- The source file, if not that of the class. -/
  file : Option String := none
  /-- The lines, counted from one, that open and close the method. -/
  lines : Option (UInt64 × UInt64) := none
  deriving DecidableEq, Repr

/-- A property as a class declares it. -/
structure PropertyEntry where
  name : String
  visibility : AccessLevel := .publicLevel
  isStatic : Bool := false
  doc : Option String := none
  deriving DecidableEq, Repr

/-- A class with what it declares itself. -/
structure ClassEntry where
  name : String
  kind : ClassKind := .classKind
  isAbstract : Bool := false
  isFinal : Bool := false
  parent : Option String := none
  interfaces : List String := []
  /-- The source file of methods without a file of their own. -/
  file : Option String := none
  doc : Option String := none
  methods : List MethodEntry := []
  properties : List PropertyEntry := []
  /-- The text of each constant. -/
  constants : SortedMap String := .empty
  deriving DecidableEq

/-- Classes by name. -/
structure Manifest where
  classes : SortedMap ClassEntry
  /-- Each class stands under its own name. -/
  keyed : ∀ e ∈ classes.entries, e.2.name = e.1
  /-- The directory that source files are relative to. -/
  baseDirectory : String

/-- Why a list of classes is no manifest. -/
inductive ManifestError where
  /-- The text does not describe a list of classes. -/
  | notReadable
  /-- A class has an empty name. -/
  | namelessClass
  /-- Two classes have the same name. -/
  | duplicateClass (name : String)
  deriving DecidableEq, Repr

/-- The wording of a refusal. -/
def ManifestError.message : ManifestError → String
  | .notReadable => "<yaml>"
  | .namelessClass => "manifest class without a name"
  | .duplicateClass name => "duplicate class in manifest: " ++ name

namespace Manifest

/-- The manifest without classes. -/
def empty : Manifest where
  classes := .empty
  keyed := fun _ he => nomatch he
  baseDirectory := ""

/-- Puts a class under its name. -/
def put (m : Manifest) (entry : ClassEntry) : Manifest where
  classes := m.classes.insert entry.name entry
  keyed := fun e he => by
    rcases SortedMap.mem_insertEntry he with rfl | he
    · rfl
    · exact m.keyed e he
  baseDirectory := m.baseDirectory

/-- Adds a class, which needs a name of its own. -/
def add (m : Manifest) (entry : ClassEntry) : Except ManifestError Manifest :=
  if entry.name = "" then .error .namelessClass
  else if m.classes.contains entry.name then .error (.duplicateClass entry.name)
  else .ok (m.put entry)

/-- The manifest of a list of classes. -/
def ofEntries (entries : List ClassEntry) : Except ManifestError Manifest :=
  entries.foldlM add empty

/-- The names of the classes in increasing order. -/
def names (m : Manifest) : List String :=
  m.classes.keys

/-- The declaration of a class. -/
def entry (m : Manifest) (name : String) : Except ClassError ClassEntry :=
  match m.classes.get? name with
  | some entry => .ok entry
  | none => .error (.unknownClass name)

/-- The ancestors of a class from the nearest on. Each ancestor is taken from the classes that have
not been met yet, so meeting one again is a cycle. -/
def chainFrom (m : Manifest) (unmet : List String) (entry : ClassEntry) :
    Except ClassError (List ClassEntry) :=
  match entry.parent with
  | none => .ok []
  | some name =>
    match m.classes.get? name with
    | none => .error (.unknownClass name)
    | some parent =>
      if h : name ∈ unmet then
        have : (unmet.erase name).length < unmet.length := by
          have := List.length_pos_of_mem h
          rw [List.length_erase_of_mem h]
          omega
        match m.chainFrom (unmet.erase name) parent with
        | .ok chain => .ok (parent :: chain)
        | .error e => .error e
      else .error (.inheritanceCycle name)
termination_by unmet.length

/-- The ancestors of a class, nearest first. -/
def ancestors (m : Manifest) (name : String) : Except ClassError (List ClassEntry) := do
  let entry ← m.entry name
  m.chainFrom (m.names.erase name) entry

/-- The names of the ancestors of a class, nearest first. -/
def parentChain (m : Manifest) (name : String) : Except ClassError (List String) := do
  return (← m.ancestors name).map (·.name)

/-- The classes that are not in a list. -/
def outside (m : Manifest) (listed : List String) : List String :=
  m.names.filter fun name => !listed.contains name

/-- The classes outside a longer list are those outside the list but for one name. -/
theorem outside_append (m : Manifest) (listed : List String) (name : String) :
    m.outside (listed ++ [name]) = (m.outside listed).filter (· != name) := by
  simp only [outside, List.filter_filter]
  congr 1
  funext other
  simp [Bool.and_comm, bne, Bool.beq_eq_decide_eq]

/-- Listing a known class leaves fewer classes outside the list. -/
theorem length_outside_lt {m : Manifest} {listed : List String} {name : String}
    (hknown : name ∈ m.names) (hnew : name ∉ listed) :
    (m.outside (listed ++ [name])).length < (m.outside listed).length := by
  rw [outside_append]
  refine List.length_filter_lt_length_iff_exists.2 ⟨name, ?_, by simp⟩
  simp [outside, hknown, hnew]

/-- Listing a name leaves no more classes outside the list. -/
theorem length_outside_le (m : Manifest) (listed : List String) (name : String) :
    (m.outside (listed ++ [name])).length ≤ (m.outside listed).length := by
  rw [outside_append]
  exact List.length_filter_le ..

/-- Interfaces with those that they extend, after those already listed. Each interface is followed
by the ones that it extends, and an unknown interface is listed too. -/
def closureFrom (m : Manifest) (listed : List String) (pending : List String) : List String :=
  match pending with
  | [] => listed
  | name :: rest =>
    if hmem : name ∈ listed then m.closureFrom listed rest
    else
      match hget : m.classes.get? name with
      | some entry =>
        have := length_outside_lt (SortedMap.mem_keys_of_get? hget) hmem
        m.closureFrom (listed ++ [name]) (entry.interfaces ++ rest)
      | none => m.closureFrom (listed ++ [name]) rest
termination_by ((m.outside listed).length, pending.length)
decreasing_by
  · exact .right _ (Nat.lt_succ_self _)
  · exact .left _ _ this
  · exact Prod.Lex.right' _ (m.length_outside_le listed name) (Nat.lt_succ_self _)

/-- Interfaces with those that they extend, each once. -/
def interfaceClosure (m : Manifest) (declared : List String) : List String :=
  m.closureFrom [] declared

/-- Where a method is written, if its lines and a file are given. -/
def location? (m : Manifest) (owner : ClassEntry) (method : MethodEntry) : Option Location := do
  let (startLine, endLine) ← method.lines
  let file ← method.file <|> owner.file
  return { file := Path.join m.baseDirectory file, startLine, endLine }

/-- A method as a class with this declaration reports it. -/
def method (m : Manifest) (owner : ClassEntry) (method : MethodEntry) : Method where
  name := method.name
  declaringClass := owner.name
  visibility := method.visibility
  isStatic := method.isStatic
  isAbstract := method.isAbstract
  isFinal := method.isFinal
  docComment := method.doc
  location := m.location? owner method

/-- A property as a class with this declaration reports it. -/
def property (owner : ClassEntry) (property : PropertyEntry) : Property where
  name := property.name
  declaringClass := owner.name
  visibility := property.visibility
  isStatic := property.isStatic
  docComment := property.doc

/-- The methods that some classes declare, by name. -/
def methodsOf (m : Manifest) (owners : List ClassEntry) : List (String × Method) :=
  owners.flatMap fun owner => owner.methods.map fun entry => (entry.name, m.method owner entry)

/-- The properties that a class declares, by name. -/
def propertiesOf (owner : ClassEntry) : List (String × Property) :=
  owner.properties.map fun entry => (entry.name, property owner entry)

/-- The properties that a class has from an ancestor: those that are not private. -/
def inheritedProperties (owner : ClassEntry) : List (String × Property) :=
  (propertiesOf owner).filter fun (_, p) => p.visibility != .privateLevel

/-- A class with everything it reports, given its lineage. -/
def snapshotOf (m : Manifest) (entry : ClassEntry) (ancestors : List ClassEntry) : Snapshot :=
  let lineage := entry :: ancestors
  let interfaces := m.interfaceClosure (lineage.flatMap (·.interfaces))
  { name := entry.name
    kind := entry.kind
    isAbstract := entry.isAbstract
    isFinal := entry.isFinal
    interfaces
    methods := .firstWins (m.methodsOf (lineage ++ interfaces.filterMap m.classes.get?))
    properties := .firstWins (propertiesOf entry ++ ancestors.flatMap inheritedProperties)
    constants := .firstWins (lineage.flatMap (·.constants.entries))
    docComment := entry.doc }

/-- A class with everything it reports. The ancestors are known by their names, and each of them is
looked up again. -/
def snapshot (m : Manifest) (name : String) : Except ClassError Snapshot := do
  let entry ← m.entry name
  let parents ← m.parentChain name
  let ancestors ← parents.mapM m.entry
  return m.snapshotOf entry ancestors

/-- The first of some interfaces that reports a method. Interfaces without a snapshot for lack of a
class are passed over. -/
def firstDeclaring (m : Manifest) (method : String) :
    List String → Except ClassError (Option String)
  | [] => .ok none
  | name :: rest =>
    match m.snapshot name with
    | .ok snapshot =>
      if snapshot.hasMethod method then .ok (some name) else firstDeclaring m method rest
    | .error (.unknownClass _) => firstDeclaring m method rest
    | .error e => .error e

/-- The first interface of a class, in reported order, that reports a method. -/
def declaringInterface (m : Manifest) (snapshot : Snapshot) (method : String) :
    Except ClassError (Option String) :=
  m.firstDeclaring method snapshot.interfaces

end Manifest

end ClassDocs
