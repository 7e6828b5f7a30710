import ClassDocs.Class.Manifest
import ClassDocs.Proofs.KeyedMaps
import Mathlib.Data.List.Nodup

/-!
# Classes and their ancestors

The ancestors that a manifest finds for a class are classes of the manifest, no two of them the same
and none the class itself: each is taken from the names that have not been met.

## Main definitions

* `Manifest.Lineage`: a class with its ancestors, nearest first.

## Main results

* `Manifest.ancestors_ok`: the ancestors of a class.
* `Manifest.mapM_entry_of_ancestors`: looking the ancestors up again by their names never fails.
* `Manifest.Lineage.nodup`, `Manifest.Lineage.get?_name`: a lineage has no repetition and is known.
* `Manifest.snapshot_eq_ok_iff`: a class is found exactly with its lineage.
* `Manifest.snapshot_eq_error_iff`: a class is not found exactly when its ancestors are not.
-/

namespace ClassDocs.Manifest

variable {m : Manifest} {name : String}

/-- A class is found under its own name. -/
theorem name_of_get? {entry : ClassEntry} (h : m.classes.get? name = some entry) :
    entry.name = name :=
  m.keyed _ (SortedMap.get?_eq_some_iff.1 h)

theorem entry_eq_ok_iff {entry : ClassEntry} :
    m.entry name = .ok entry ↔ m.classes.get? name = some entry := by
  rw [Manifest.entry]
  cases m.classes.get? name <;> simp

/-- A class without a parent has no ancestors. -/
theorem chainFrom_root {entry : ClassEntry} (unmet : List String) (h : entry.parent = none) :
    m.chainFrom unmet entry = .ok [] := by
  rw [chainFrom, h]

/-- The ancestors of a class are its parent, when it has not been met, and those of the parent. -/
theorem chainFrom_parent {unmet : List String} {entry parent : ClassEntry}
    {chain : List ClassEntry} (hparent : entry.parent = some name)
    (hget : m.classes.get? name = some parent) (hmem : name ∈ unmet)
    (hchain : m.chainFrom (unmet.erase name) parent = .ok chain) :
    m.chainFrom unmet entry = .ok (parent :: chain) := by
  rw [chainFrom, hparent]
  simp only [hget, hmem, ↓reduceDIte, hchain]

/-- Ancestors are classes of the manifest with names that have not been met, each met once. -/
theorem chainFrom_ok {unmet : List String} {entry : ClassEntry} {chain : List ClassEntry}
    (hunmet : unmet.Nodup) (h : m.chainFrom unmet entry = .ok chain) :
    (chain.map (·.name)).Nodup ∧ ∀ c ∈ chain, c.name ∈ unmet ∧ m.classes.get? c.name = some c := by
  fun_induction m.chainFrom unmet entry generalizing chain with
  | case1 unmet entry hparent =>
    obtain rfl := Except.ok.inj h
    simp
  | case2 unmet entry name hparent hget => cases h
  | case3 unmet entry name hparent parent hget hmem _ rest hrest ih =>
    obtain rfl := Except.ok.inj h
    obtain ⟨hnodup, hknown⟩ := ih (hunmet.erase name) hrest
    have hname := name_of_get? hget
    constructor
    · rw [List.map_cons, List.nodup_cons, hname]
      refine ⟨fun hmet => ?_, hnodup⟩
      obtain ⟨c, hc, rfl⟩ := List.mem_map.1 hmet
      exact hunmet.not_mem_erase (hknown c hc).1
    · intro c hc
      rcases List.mem_cons.1 hc with rfl | hc
      · rw [hname]
        exact ⟨hmem, hget⟩
      · exact ⟨List.mem_of_mem_erase (hknown c hc).1, (hknown c hc).2⟩
  | case4 unmet entry name hparent parent hget hmem _ e herror => cases h
  | case5 unmet entry name hparent parent hget hmem => cases h

/-- The ancestors of a class are classes of the manifest, none of them twice and none the class. -/
theorem ancestors_ok {chain : List ClassEntry} (h : m.ancestors name = .ok chain) :
    (chain.map (·.name)).Nodup ∧
      ∀ c ∈ chain, c.name ≠ name ∧ m.classes.get? c.name = some c := by
  rw [ancestors] at h
  cases hentry : m.entry name with
  | error e =>
    rw [hentry] at h
    cases h
  | ok entry =>
    rw [hentry] at h
    have hnames : m.names.Nodup := m.classes.nodup_keys
    obtain ⟨hnodup, hknown⟩ := chainFrom_ok (hnames.erase name) h
    refine ⟨hnodup, fun c hc => ⟨?_, (hknown c hc).2⟩⟩
    rintro rfl
    exact hnames.not_mem_erase (hknown c hc).1

/-- Classes that are known under their names are found again by their names. -/
theorem mapM_entry_of_known {chain : List ClassEntry}
    (h : ∀ c ∈ chain, m.classes.get? c.name = some c) :
    (chain.map (·.name)).mapM m.entry = .ok chain := by
  induction chain with
  | nil => rfl
  | cons c rest ih =>
    obtain ⟨hc, hrest⟩ := List.forall_mem_cons.1 h
    rw [List.map_cons, List.mapM_cons, entry_eq_ok_iff.2 hc, ih hrest]
    rfl

/-- Looking the ancestors of a class up again by their names never fails. -/
theorem mapM_entry_of_ancestors {chain : List ClassEntry} (h : m.ancestors name = .ok chain) :
    (chain.map (·.name)).mapM m.entry = .ok chain :=
  mapM_entry_of_known fun c hc => ((ancestors_ok h).2 c hc).2

theorem exists_mapM_entry_of_parentChain {parents : List String}
    (h : m.parentChain name = .ok parents) : ∃ chain, parents.mapM m.entry = .ok chain := by
  rw [parentChain] at h
  cases hchain : m.ancestors name with
  | error e =>
    rw [hchain] at h
    cases h
  | ok chain =>
    rw [hchain] at h
    obtain rfl := Except.ok.inj h
    exact ⟨chain, mapM_entry_of_ancestors hchain⟩

/-- The class `entry` with its ancestors, nearest first. -/
structure Lineage (m : Manifest) (name : String) (entry : ClassEntry)
    (chain : List ClassEntry) : Prop where
  get?_entry : m.classes.get? name = some entry
  ancestors_eq : m.ancestors name = .ok chain

namespace Lineage

variable {entry : ClassEntry} {chain : List ClassEntry}

/-- A class has the ancestors that are found from it on, when it has been met itself. -/
theorem of_chainFrom (hget : m.classes.get? name = some entry)
    (hchain : m.chainFrom (m.names.erase name) entry = .ok chain) : m.Lineage name entry chain where
  get?_entry := hget
  ancestors_eq := by
    rw [ancestors, entry_eq_ok_iff.2 hget]
    exact hchain

theorem entry_name (h : m.Lineage name entry chain) : entry.name = name :=
  name_of_get? h.get?_entry

theorem names_eq (h : m.Lineage name entry chain) :
    name :: chain.map (·.name) = (entry :: chain).map (·.name) := by
  rw [List.map_cons, h.entry_name]

theorem parentChain_eq (h : m.Lineage name entry chain) :
    m.parentChain name = .ok (chain.map (·.name)) := by
  rw [parentChain, h.ancestors_eq]
  rfl

/-- Every class of a lineage is found under its name. -/
theorem get?_name (h : m.Lineage name entry chain) :
    ∀ c ∈ entry :: chain, m.classes.get? c.name = some c := by
  intro c hc
  rcases List.mem_cons.1 hc with rfl | hc
  · rw [h.entry_name]
    exact h.get?_entry
  · exact ((ancestors_ok h.ancestors_eq).2 c hc).2

theorem nodup (h : m.Lineage name entry chain) : (name :: chain.map (·.name)).Nodup := by
  obtain ⟨hnodup, hknown⟩ := ancestors_ok h.ancestors_eq
  refine List.nodup_cons.2 ⟨fun hmem => ?_, hnodup⟩
  obtain ⟨c, hc, hname⟩ := List.mem_map.1 hmem
  exact (hknown c hc).1 hname

/-- The names of a lineage stand for its classes. -/
theorem map_get? (h : m.Lineage name entry chain) :
    (name :: chain.map (·.name)).map m.classes.get? = (entry :: chain).map some := by
  rw [List.map_cons, List.map_cons, h.get?_entry, List.map_map]
  exact congrArg _ (List.map_congr_left fun c hc => h.get?_name c (List.mem_cons_of_mem _ hc))

end Lineage

/-- Since the ancestors are found again, only the class and the way up to them can be missing. -/
theorem snapshot_eq (m : Manifest) (name : String) :
    m.snapshot name = do
      let entry ← m.entry name
      let ancestors ← m.ancestors name
      return m.snapshotOf entry ancestors := by
  rw [snapshot, parentChain]
  cases m.entry name with
  | error e => rfl
  | ok entry =>
    cases hchain : m.ancestors name with
    | error e => rfl
    | ok chain =>
      change ((chain.map (·.name)).mapM m.entry >>= _) = _
      rw [mapM_entry_of_ancestors hchain]
      rfl

/-- A class is found exactly when it has a lineage, and with what that lineage reports. -/
theorem snapshot_eq_ok_iff {s : Snapshot} :
    m.snapshot name = .ok s ↔
      ∃ entry chain, m.Lineage name entry chain ∧ s = m.snapshotOf entry chain := by
  rw [snapshot_eq]
  constructor
  · intro h
    cases hentry : m.entry name with
    | error e =>
      rw [hentry] at h
      cases h
    | ok entry =>
      cases hchain : m.ancestors name with
      | error e =>
        rw [hentry, hchain] at h
        cases h
      | ok chain =>
        rw [hentry, hchain] at h
        exact ⟨entry, chain, ⟨entry_eq_ok_iff.1 hentry, hchain⟩, (Except.ok.inj h).symm⟩
  · rintro ⟨entry, chain, hlineage, rfl⟩
    rw [entry_eq_ok_iff.2 hlineage.get?_entry, hlineage.ancestors_eq]
    rfl

/-- A class is not found exactly when its ancestors are not, and for the same reason. -/
theorem snapshot_eq_error_iff {e : ClassError} :
    m.snapshot name = .error e ↔ m.parentChain name = .error e := by
  rw [snapshot_eq, parentChain, ancestors]
  cases m.entry name with
  | error e' => constructor <;> (intro h; cases h; rfl)
  | ok entry =>
    change (m.chainFrom _ entry >>= _) = _ ↔ (m.chainFrom _ entry >>= _) = _
    cases m.chainFrom (m.names.erase name) entry with
    | error e' => constructor <;> (intro h; cases h; rfl)
    | ok chain => constructor <;> (intro h; cases h)

theorem Lineage.snapshot_eq {entry : ClassEntry} {chain : List ClassEntry}
    (h : m.Lineage name entry chain) : m.snapshot name = .ok (m.snapshotOf entry chain) :=
  snapshot_eq_ok_iff.2 ⟨entry, chain, h, rfl⟩

end ClassDocs.Manifest
