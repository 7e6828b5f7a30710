import ClassDocs.Proofs.ParentChain

/-!
# Members of a class with its ancestors

The members that a class reports are those of the nearest declarations. For methods and constants
the classes of the lineage are asked in order, and for methods the interfaces after them. For
properties an ancestor is asked only about those that are not private, so that a private one hides
nothing.

## Main definitions

* `ClassEntry.method?`, `ClassEntry.declares`: the first entry of a method in one class.
* `Manifest.nearest?`: the first of some classes that has an entry of a method.
* `Manifest.eligible`: the properties that a class can report, nearest first.
* `Manifest.ReportsNearest`: a class reports the nearest declarations and no others.

## Main results

* `Manifest.get?_methods`, `Manifest.get?_properties`, `Manifest.get?_constants`: the three maps.
* `Manifest.snapshot_nearest`: the nearest declaration of each member is reported, and no other.
-/

namespace ClassDocs

/-- The first entry of a method in a class. -/
def ClassEntry.method? (owner : ClassEntry) (key : String) : Option MethodEntry :=
  owner.methods.find? (·.name == key)

/-- Whether a class has an entry of a method. -/
def ClassEntry.declares (owner : ClassEntry) (key : String) : Bool :=
  owner.methods.any (·.name == key)

theorem ClassEntry.declares_iff {owner : ClassEntry} {key : String} :
    owner.declares key = true ↔ ∃ e ∈ owner.methods, e.name = key := by
  simp [declares]

theorem ClassEntry.declares_of_method? {owner : ClassEntry} {key : String} {e : MethodEntry}
    (h : owner.method? key = some e) : owner.declares key = true :=
  declares_iff.2 ⟨e, List.mem_of_find?_eq_some h, by simpa using List.find?_some h⟩

theorem ClassEntry.method?_eq_none_iff {owner : ClassEntry} {key : String} :
    owner.method? key = none ↔ owner.declares key = false := by
  simp [method?, declares]

namespace Manifest

variable {m : Manifest} {key : String}

/-- The first of some classes that has an entry of a method. -/
def nearest? (owners : List ClassEntry) (key : String) : Option ClassEntry :=
  owners.find? (·.declares key)

theorem nearest?_cons (owner : ClassEntry) (rest : List ClassEntry) (key : String) :
    nearest? (owner :: rest) key =
      if owner.declares key then some owner else nearest? rest key := by
  rw [nearest?, List.find?_cons]
  cases owner.declares key <;> rfl

theorem mem_of_nearest? {owners : List ClassEntry} {owner : ClassEntry}
    (h : nearest? owners key = some owner) : owner ∈ owners :=
  List.mem_of_find?_eq_some h

theorem declares_of_nearest? {owners : List ClassEntry} {owner : ClassEntry}
    (h : nearest? owners key = some owner) : owner.declares key = true := by
  have hfound := List.find?_some h
  exact hfound

theorem nearest?_eq_none_iff {owners : List ClassEntry} :
    nearest? owners key = none ↔ ∀ c ∈ owners, c.declares key = false := by
  simp [nearest?]

/-- Asking some classes in order and then others is asking all of them in order. -/
theorem nearest?_append (owners others : List ClassEntry) (key : String) :
    nearest? (owners ++ others) key = (nearest? owners key).or (nearest? others key) :=
  List.find?_append

/-- A method is built from the first entry in the nearest class that has one. -/
theorem lookup_methodsOf (m : Manifest) (owners : List ClassEntry) (key : String) :
    (m.methodsOf owners).lookup key =
      (nearest? owners key).bind fun owner => (owner.method? key).map (m.method owner) := by
  rw [methodsOf, SortedMap.lookup_flatMap]
  induction owners with
  | nil => rfl
  | cons owner rest ih =>
    have hown : (owner.methods.map fun e => (e.name, m.method owner e)).lookup key =
        (owner.method? key).map (m.method owner) :=
      SortedMap.lookup_map_entry _ _ _ _
    rw [List.findSome?_cons, ih, hown, nearest?_cons]
    cases he : owner.method? key with
    | none =>
      rw [ClassEntry.method?_eq_none_iff.1 he]
      rfl
    | some e =>
      rw [ClassEntry.declares_of_method? he, if_pos rfl, Option.bind_some, he]
      rfl

/-- The interfaces in a list that the manifest knows. -/
def known (m : Manifest) (interfaces : List String) : List ClassEntry :=
  interfaces.filterMap m.classes.get?

/-- The properties that a class can report, each with the class that declares it: its own, then
those of its ancestors that are not private. -/
def eligible (entry : ClassEntry) (ancestors : List ClassEntry) :
    List (ClassEntry × PropertyEntry) :=
  (entry.properties.map fun e => (entry, e)) ++ ancestors.flatMap fun owner =>
    (owner.properties.filter (·.visibility != .privateLevel)).map fun e => (owner, e)

theorem get?_methods (m : Manifest) (entry : ClassEntry) (chain : List ClassEntry)
    (key : String) :
    (m.snapshotOf entry chain).methods.get? key =
      (nearest? (entry :: chain ++ m.known (m.snapshotOf entry chain).interfaces) key).bind
        fun owner => (owner.method? key).map (m.method owner) := by
  rw [← lookup_methodsOf]
  exact SortedMap.get?_firstWins _ _

theorem inheritedProperties_eq (owner : ClassEntry) :
    inheritedProperties owner =
      (owner.properties.filter (·.visibility != .privateLevel)).map fun e =>
        (e.name, property owner e) := by
  rw [inheritedProperties, propertiesOf, List.filter_map]
  rfl

theorem get?_properties (m : Manifest) (entry : ClassEntry) (chain : List ClassEntry)
    (key : String) :
    (m.snapshotOf entry chain).properties.get? key =
      ((eligible entry chain).find? (·.2.name == key)).map fun p => property p.1 p.2 := by
  have hentries : propertiesOf entry ++ chain.flatMap inheritedProperties =
      (eligible entry chain).map fun p => (p.2.name, property p.1 p.2) := by
    simp only [eligible, List.map_append, List.map_map, List.map_flatMap]
    rw [funext inheritedProperties_eq]
    rfl
  rw [← SortedMap.lookup_map_entry, ← hentries]
  exact SortedMap.get?_firstWins _ _

theorem get?_constants (m : Manifest) (entry : ClassEntry) (chain : List ClassEntry)
    (key : String) :
    (m.snapshotOf entry chain).constants.get? key =
      (entry :: chain).findSome? (·.constants.get? key) :=
  (SortedMap.get?_firstWins _ _).trans (SortedMap.lookup_flatMap _ _ _)

/-- An eligible private property is one that the class declares itself. -/
theorem mem_properties_of_private {entry owner : ClassEntry} {chain : List ClassEntry}
    {e : PropertyEntry} (h : (owner, e) ∈ eligible entry chain)
    (hprivate : e.visibility = .privateLevel) : owner = entry ∧ e ∈ entry.properties := by
  rcases List.mem_append.1 h with hown | hinherited
  · obtain ⟨e', he', heq⟩ := List.mem_map.1 hown
    cases heq
    exact ⟨rfl, he'⟩
  · obtain ⟨c, -, hc⟩ := List.mem_flatMap.1 hinherited
    obtain ⟨e', he', heq⟩ := List.mem_map.1 hc
    cases heq
    simp [hprivate] at he'

/-- Each member that a class reports is the nearest declaration of its name, and it reports no
other, given the class and its ancestors, nearest first. -/
structure ReportsNearest (m : Manifest) (s : Snapshot) (entry : ClassEntry)
    (ancestors : List ClassEntry) : Prop where
  /-- A method is reported exactly when a class of the lineage or a known interface has it. -/
  mem_methods : ∀ key, key ∈ s.methods.keys ↔
    ∃ owner ∈ entry :: ancestors ++ s.interfaces.filterMap m.classes.get?,
      ∃ e ∈ owner.methods, e.name = key
  /-- A method is built from the first entry of the first class that has one, and of the first
  interface only when no class has one. -/
  method_eq : ∀ key info, s.methods.get? key = some info →
    info.name = key ∧ ∃ owner e,
      (nearest? (entry :: ancestors) key = some owner ∨
        nearest? (entry :: ancestors) key = none ∧
          nearest? (s.interfaces.filterMap m.classes.get?) key = some owner) ∧
      owner.method? key = some e ∧ info = m.method owner e ∧ info.declaringClass = owner.name
  /-- A property is built from the first eligible entry, if there is one. -/
  get?_property : ∀ key, s.properties.get? key =
    ((eligible entry ancestors).find? (·.2.name == key)).map fun p => property p.1 p.2
  /-- A private property is one of the class itself. -/
  private_property : ∀ key p, s.properties.get? key = some p → p.visibility = .privateLevel →
    p.declaringClass = entry.name ∧ ∃ e ∈ entry.properties, p = property entry e
  /-- A constant has the text of the first class that has it, if there is one. -/
  get?_constant : ∀ key, s.constants.get? key =
    (entry :: ancestors).findSome? (·.constants.get? key)

/-- A method is reported exactly when one of the classes asked has an entry of it. -/
theorem mem_keys_methods_iff (m : Manifest) (entry : ClassEntry) (chain : List ClassEntry)
    (key : String) :
    key ∈ (m.snapshotOf entry chain).methods.keys ↔
      ∃ owner ∈ entry :: chain ++ m.known (m.snapshotOf entry chain).interfaces,
        ∃ e ∈ owner.methods, e.name = key := by
  rw [SortedMap.mem_keys_iff]
  constructor
  · rintro ⟨info, hinfo⟩
    rw [get?_methods] at hinfo
    obtain ⟨owner, hnearest, -⟩ := Option.bind_eq_some_iff.1 hinfo
    exact ⟨owner, mem_of_nearest? hnearest,
      ClassEntry.declares_iff.1 (declares_of_nearest? hnearest)⟩
  · rintro ⟨owner, howner, hentry⟩
    cases hinfo : (m.snapshotOf entry chain).methods.get? key with
    | some info => exact ⟨info, rfl⟩
    | none =>
      rw [get?_methods, Option.bind_eq_none_iff] at hinfo
      have hsome : (nearest? (entry :: chain ++
          m.known (m.snapshotOf entry chain).interfaces) key).isSome = true :=
        List.find?_isSome.2 ⟨owner, howner, ClassEntry.declares_iff.2 hentry⟩
      obtain ⟨first, hfirst⟩ := Option.isSome_iff_exists.1 hsome
      have hmissing := Option.map_eq_none_iff.1 (hinfo first hfirst)
      have hdeclares := declares_of_nearest? hfirst
      rw [ClassEntry.method?_eq_none_iff.1 hmissing] at hdeclares
      cases hdeclares

/-- A reported method has its own name and is built from the first entry of the nearest class that
has one, or of the first interface when no class has one. -/
theorem method_of_get? {entry : ClassEntry} {chain : List ClassEntry} {info : Method}
    (h : (m.snapshotOf entry chain).methods.get? key = some info) :
    info.name = key ∧ ∃ owner e,
      (nearest? (entry :: chain) key = some owner ∨
        nearest? (entry :: chain) key = none ∧
          nearest? (m.known (m.snapshotOf entry chain).interfaces) key = some owner) ∧
      owner.method? key = some e ∧ info = m.method owner e ∧
      info.declaringClass = owner.name := by
  rw [get?_methods, nearest?_append] at h
  obtain ⟨owner, hnearest, hmethod⟩ := Option.bind_eq_some_iff.1 h
  obtain ⟨e, he, rfl⟩ := Option.map_eq_some_iff.1 hmethod
  have hname : e.name = key := by simpa using List.find?_some he
  refine ⟨hname, owner, e, ?_, he, rfl, rfl⟩
  simpa only [Option.or_eq_some_iff] using hnearest

theorem reportsNearest_snapshotOf (m : Manifest) (entry : ClassEntry) (chain : List ClassEntry) :
    m.ReportsNearest (m.snapshotOf entry chain) entry chain where
  mem_methods := m.mem_keys_methods_iff entry chain
  method_eq := fun _ _ => method_of_get?
  get?_property := m.get?_properties entry chain
  private_property := by
    intro key p hp hprivate
    rw [get?_properties] at hp
    obtain ⟨⟨owner, e⟩, hfind, rfl⟩ := Option.map_eq_some_iff.1 hp
    obtain ⟨rfl, he⟩ := mem_properties_of_private (List.mem_of_find?_eq_some hfind) hprivate
    exact ⟨rfl, e, he, rfl⟩
  get?_constant := m.get?_constants entry chain

/-- A class that is found reports the nearest declarations along its parent chain. -/
theorem snapshot_nearest (m : Manifest) (name : String) (s : Snapshot)
    (h : m.snapshot name = .ok s) :
    ∃ parents entry ancestors,
      m.parentChain name = .ok parents ∧
      (name :: parents).map m.classes.get? = (entry :: ancestors).map some ∧
      m.ReportsNearest s entry ancestors := by
  obtain ⟨entry, chain, hlineage, rfl⟩ := snapshot_eq_ok_iff.1 h
  exact ⟨chain.map (·.name), entry, chain, hlineage.parentChain_eq, hlineage.map_get?,
    m.reportsNearest_snapshotOf entry chain⟩

/-- The root of the sample classes. -/
def shapeRoot : ClassEntry :=
  { name := "Base", methods := [{ name := "area", isAbstract := true }]
    properties := [{ name := "size" }] }

/-- A class with a private property of the name of one that its parent has. -/
def shapeParent : ClassEntry :=
  { name := "Shape", parent := some "Base"
    properties := [{ name := "size", visibility := .privateLevel }] }

/-- An interface of the sample classes. -/
def shapeInterface : ClassEntry :=
  { name := "Named", kind := .interfaceKind, methods := [{ name := "label" }] }

/-- A class that overrides a method of its grandparent. -/
def shapeChild : ClassEntry :=
  { name := "Square", parent := some "Shape", interfaces := ["Named"]
    methods := [{ name := "area" }] }

/-- The sample classes. -/
def shapes : Manifest :=
  (((empty.put shapeRoot).put shapeParent).put shapeInterface).put shapeChild

theorem lineage_shapes :
    shapes.Lineage "Square" shapeChild [shapeParent, shapeRoot] where
  get?_entry := by decide
  ancestors_eq := by
    have hchild : shapes.entry "Square" = .ok shapeChild := entry_eq_ok_iff.2 (by decide)
    rw [ancestors, hchild]
    have hroot := shapes.chainFrom_root (((shapes.names.erase "Square").erase "Shape").erase "Base")
      (show shapeRoot.parent = none from rfl)
    exact chainFrom_parent rfl (by decide) (by decide) (chainFrom_parent rfl (by decide)
      (by decide) hroot)

/-- The nearest declarations of a class with two ancestors and an interface. -/
theorem snapshot_nearest_shapes :
    ∃ s, shapes.snapshot "Square" = .ok s ∧ ∃ parents entry ancestors,
      shapes.parentChain "Square" = .ok parents ∧
      ("Square" :: parents).map shapes.classes.get? = (entry :: ancestors).map some ∧
      shapes.ReportsNearest s entry ancestors := by
  have hs := snapshot_eq_ok_iff.2 ⟨_, _, lineage_shapes, rfl⟩
  exact ⟨_, hs, snapshot_nearest shapes "Square" _ hs⟩

end Manifest

end ClassDocs
