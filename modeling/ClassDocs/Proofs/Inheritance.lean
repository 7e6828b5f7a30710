import ClassDocs.Proofs.InterfaceMethods
import ClassDocs.Proofs.MethodOwnership
import ClassDocs.Proofs.ParentWalk

/-!
# What a class has from its parent

A class and its parent are looked up apart from each other, and the look-up of the class goes over
everything that the look-up of the parent goes over. So the class has members of all names that its
parent has, and methods and constants are unchanged where the class declares none of the name
itself. There are two exceptions: a private property of the parent is left out, and a method that
the parent has only from an interface can come from another interface in the class.

## Main definitions

* `Manifest.Inherits`: what a class that is found has from its parent.

## Main results

* `Manifest.Lineage.exists_parent`: the ancestors of a class are its parent and those of the parent.
* `Manifest.get?_constants_cons`, `Manifest.Lineage.get?_methods_of_parent`: members of the parent
  that are kept as they are.
* `Manifest.snapshot_inherits`: a class has the members of its parent.
-/

namespace ClassDocs.Manifest

variable {m : Manifest} {name parent key : String} {entry owner : ClassEntry}
  {chain rest : List ClassEntry}

/-! ### The ancestors of a parent -/

/-- Ancestors that are found belong to a class that is found. -/
theorem exists_lineage_of_parentChain {parents : List String}
    (h : m.parentChain name = .ok parents) :
    ∃ entry chain, m.Lineage name entry chain ∧ chain.map (·.name) = parents := by
  cases hs : m.snapshot name with
  | error e =>
    rw [snapshot_eq_error_iff.1 hs] at h
    cases h
  | ok s =>
    obtain ⟨entry, chain, hlineage, -⟩ := snapshot_eq_ok_iff.1 hs
    exact ⟨entry, chain, hlineage, Except.ok.inj (hlineage.parentChain_eq.symm.trans h)⟩

/-- The ancestors of a class are its parent and the ancestors of the parent. -/
theorem Lineage.exists_parent (h : m.Lineage name entry chain)
    (hparent : m.HasParent name parent) :
    ∃ owner rest, chain = owner :: rest ∧ m.Lineage parent owner rest := by
  obtain ⟨parents, hnames, hparents⟩ :=
    (parentChain_eq_ok_iff_of_hasParent hparent).1 h.parentChain_eq
  obtain ⟨owner, rest, hlineage, rfl⟩ := exists_lineage_of_parentChain hparents
  refine ⟨owner, rest, ?_, hlineage⟩
  -- Both lists hold what the manifest has under the same names.
  have hchain := (List.cons.inj h.map_get?).2
  rw [hnames, hlineage.map_get?] at hchain
  exact (List.map_injective_iff.2 (fun _ _ => Option.some.inj) hchain).symm

/-- The names of a parent and its ancestors are names of ancestors of the class. -/
theorem Lineage.names_subset (h : m.Lineage parent owner rest) :
    parent :: rest.map (·.name) ⊆ name :: (owner :: rest).map (·.name) := by
  rw [h.names_eq]
  exact List.subset_cons_self _ _

/-! ### Members of a class and its parent -/

theorem interfaces_subset_of_parent (hclass : m.Lineage name entry (owner :: rest))
    (hparent : m.Lineage parent owner rest) :
    (m.snapshotOf owner rest).interfaces ⊆ (m.snapshotOf entry (owner :: rest)).interfaces := by
  intro x hx
  obtain ⟨c, hc, hreach⟩ := hparent.mem_interfaces_iff.1 hx
  exact hclass.mem_interfaces_iff.2 ⟨c, hparent.names_subset hc, hreach⟩

theorem methods_subset_of_parent (hclass : m.Lineage name entry (owner :: rest))
    (hparent : m.Lineage parent owner rest) :
    (m.snapshotOf owner rest).methods.keys ⊆ (m.snapshotOf entry (owner :: rest)).methods.keys := by
  intro key hkey
  rw [SortedMap.mem_keys_iff, ← SortedMap.contains_iff] at hkey ⊢
  obtain ⟨c, hc, hprovides⟩ := hparent.hasMethod_iff.1 hkey
  exact hclass.hasMethod_iff.2 ⟨c, hparent.names_subset hc, hprovides⟩

/-- A class has a constant of its own, or else that of its parent. -/
theorem get?_constants_cons (m : Manifest) (entry owner : ClassEntry) (rest : List ClassEntry)
    (key : String) :
    (m.snapshotOf entry (owner :: rest)).constants.get? key =
      (entry.constants.get? key).or ((m.snapshotOf owner rest).constants.get? key) := by
  rw [get?_constants, get?_constants, List.findSome?_cons]
  cases entry.constants.get? key <;> rfl

/-- What a class can report of its parent is what the parent can report and is not private. -/
theorem mem_eligible_of_parent {p : ClassEntry × PropertyEntry} (h : p ∈ eligible owner rest)
    (hvisible : p.2.visibility ≠ .privateLevel) : p ∈ eligible entry (owner :: rest) := by
  rw [eligible, List.flatMap_cons]
  refine List.mem_append_right _ ?_
  rcases List.mem_append.1 h with hown | hinherited
  · obtain ⟨e, he, rfl⟩ := List.mem_map.1 hown
    have hkept : e ∈ owner.properties.filter (·.visibility != .privateLevel) :=
      List.mem_filter.2 ⟨he, by simpa using hvisible⟩
    exact List.mem_append_left _ (List.mem_map_of_mem hkept)
  · exact List.mem_append_right _ hinherited

theorem mem_properties_of_parent {p : Property}
    (hp : (m.snapshotOf owner rest).properties.get? key = some p)
    (hvisible : p.visibility ≠ .privateLevel) :
    key ∈ (m.snapshotOf entry (owner :: rest)).properties.keys := by
  rw [get?_properties] at hp
  obtain ⟨found, hfind, rfl⟩ := Option.map_eq_some_iff.1 hp
  have hmem : found ∈ eligible entry (owner :: rest) :=
    mem_eligible_of_parent (List.mem_of_find?_eq_some hfind) hvisible
  have hname := List.find?_some hfind
  have hsome : ((eligible entry (owner :: rest)).find? (·.2.name == key)).isSome = true :=
    List.find?_isSome.2 ⟨found, hmem, hname⟩
  obtain ⟨first, hfirst⟩ := Option.isSome_iff_exists.1 hsome
  rw [SortedMap.mem_keys_iff, get?_properties, hfirst]
  exact ⟨_, rfl⟩

/-- A method that the parent or one of its ancestors declares is kept as it is by a class that has
no entry of it: the nearest class with an entry is the same for both. -/
theorem Lineage.get?_methods_of_parent (h : m.Lineage parent owner rest) {info : Method}
    (hinfo : (m.snapshotOf owner rest).methods.get? key = some info)
    (hdeclaring : info.declaringClass ∈ parent :: rest.map (·.name))
    (hnew : entry.declares key = false) :
    (m.snapshotOf entry (owner :: rest)).methods.get? key = some info := by
  rcases h.declaringClass_cases hinfo with ⟨c, hnearest, -⟩ | ⟨-, hother⟩
  · have hclass : nearest? (entry :: owner :: rest) key = some c := by
      rw [nearest?_cons, hnew, if_neg Bool.false_ne_true, hnearest]
    rw [get?_methods, nearest?_append, hnearest] at hinfo
    rw [get?_methods, nearest?_append, hclass]
    exact hinfo
  · rw [h.names_eq] at hdeclaring
    obtain ⟨c, hc, hname⟩ := List.mem_map.1 hdeclaring
    exact absurd hname.symm (hother c hc)

/-- What a class `s` with the declaration `entry` has from its parent `t`, where `line` names the
parent and its ancestors. -/
structure Inherits (entry : ClassEntry) (line : List String) (s t : Snapshot) : Prop where
  interfaces : t.interfaces ⊆ s.interfaces
  methods : t.methods.keys ⊆ s.methods.keys
  constants : t.constants.keys ⊆ s.constants.keys
  /-- A property that is not private has its name taken in the class too. -/
  properties : ∀ key p, t.properties.get? key = some p → p.visibility ≠ .privateLevel →
    key ∈ s.properties.keys
  /-- A method that does not come from an interface is the same unless the class has its own. -/
  method_eq : ∀ key info, t.methods.get? key = some info → info.declaringClass ∈ line →
    entry.declares key = false → s.methods.get? key = some info
  /-- A constant is the same unless the class has its own. -/
  constant_eq : ∀ key text, t.constants.get? key = some text → entry.constants.get? key = none →
    s.constants.get? key = some text

theorem inherits_of_parent (hclass : m.Lineage name entry (owner :: rest))
    (hparent : m.Lineage parent owner rest) :
    Inherits entry (parent :: rest.map (·.name)) (m.snapshotOf entry (owner :: rest))
      (m.snapshotOf owner rest) where
  interfaces := interfaces_subset_of_parent hclass hparent
  methods := methods_subset_of_parent hclass hparent
  constants := by
    intro key hkey
    rw [SortedMap.mem_keys_iff] at hkey ⊢
    obtain ⟨text, htext⟩ := hkey
    rw [get?_constants_cons, htext]
    cases entry.constants.get? key with
    | none => exact ⟨text, rfl⟩
    | some own => exact ⟨own, rfl⟩
  properties := fun _ _ => mem_properties_of_parent
  method_eq := fun _ _ => hparent.get?_methods_of_parent
  constant_eq := by
    intro key text htext hnew
    rw [get?_constants_cons, hnew, htext]
    rfl

/-- The parent of a class that is found is found too, and the class has the members of it. -/
theorem snapshot_inherits (m : Manifest) (name parent : String) (s : Snapshot)
    (hparent : m.HasParent name parent) (h : m.snapshot name = .ok s) :
    ∃ entry parents t, m.classes.get? name = some entry ∧ m.parentChain parent = .ok parents ∧
      m.snapshot parent = .ok t ∧ Inherits entry (parent :: parents) s t := by
  obtain ⟨entry, chain, hlineage, rfl⟩ := snapshot_eq_ok_iff.1 h
  obtain ⟨owner, rest, rfl, hrest⟩ := hlineage.exists_parent hparent
  exact ⟨entry, rest.map (·.name), m.snapshotOf owner rest, hlineage.get?_entry,
    hrest.parentChain_eq, hrest.snapshot_eq, inherits_of_parent hlineage hrest⟩

/-- A class keeps a method of its parent as it is, and has one that its parent has from an
interface. -/
theorem snapshot_inherits_files :
    ∃ s t, files.HasParent "BufferedFile" "File" ∧ files.snapshot "BufferedFile" = .ok s ∧
      files.snapshot "File" = .ok t ∧
      t.methods.get? "read" = some (files.method fileParent { name := "read" }) ∧
      s.methods.get? "read" = some (files.method fileParent { name := "read" }) ∧
      "close" ∈ t.methods.keys ∧ "close" ∈ s.methods.keys := by
  have hparent : files.HasParent "BufferedFile" "File" := ⟨fileChild, by decide, rfl⟩
  have hs := lineage_files.snapshot_eq
  have hfile : files.Lineage "File" fileParent [] :=
    .of_chainFrom (by decide) (files.chainFrom_root _ rfl)
  have hread : (files.snapshotOf fileParent []).methods.get? "read" =
      some (files.method fileParent { name := "read" }) := by
    rw [get?_methods, List.cons_append, nearest?_cons, if_pos (by decide)]
    rfl
  have hclose : "close" ∈ (files.snapshotOf fileParent []).methods.keys := by
    rw [SortedMap.mem_keys_iff, ← SortedMap.contains_iff]
    refine hfile.hasMethod_iff.2 ⟨"File", List.mem_cons_self, "Source", ?_, fileSource,
      by decide, by decide⟩
    exact .tail (.single (show "Readable" ∈ files.interfacesOf "File" by decide))
      (show "Source" ∈ files.interfacesOf "Readable" by decide)
  obtain ⟨entry, parents, t, hentry, -, ht, hinherits⟩ :=
    snapshot_inherits files "BufferedFile" "File" _ hparent hs
  obtain rfl := Except.ok.inj (hfile.snapshot_eq.symm.trans ht)
  obtain rfl := Option.some.inj (lineage_files.get?_entry.symm.trans hentry)
  exact ⟨_, _, hparent, hs, ht, hread,
    hinherits.method_eq "read" _ hread List.mem_cons_self (by decide), hclose,
    hinherits.methods hclose⟩

end ClassDocs.Manifest
