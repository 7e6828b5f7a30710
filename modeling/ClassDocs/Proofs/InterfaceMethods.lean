import ClassDocs.Proofs.Flattening
import ClassDocs.Proofs.InterfaceClosure

/-!
# Methods that come from interfaces

A class reports the methods that it, its ancestors and the interfaces which these lead to have
entries of. So a class reports what an interface of it reports, but for what the interface itself
has from a parent, since naming an interface does not lead to the parent of that interface.

The interface that a method is attributed to is the first in the list that reports it. When no
interface has a parent, one that is reached through another reports no more than the other, which
stands before it. The first one is therefore named by the class or one of its ancestors.

## Main definitions

* `Manifest.Declares`, `Manifest.Provides`: a method of a name and of what the name leads to.
* `Manifest.reports`: whether an interface is found and reports a method.
* `Manifest.Parentless`, `Manifest.ParentlessInterfaces`: interfaces without parents.

## Main results

* `Manifest.Lineage.hasMethod_iff`: which methods a class reports.
* `Manifest.eq_find?_of_firstDeclaring`, `Manifest.exists_firstDeclaring`: attribution as a search.
* `Manifest.declaringInterface_direct`: the interface that a method is attributed to.
* `Manifest.hasMethod_of_interface`: what a class reports of what an interface of it reports.
-/

namespace ClassDocs.Manifest

open Relation (ReflTransGen TransGen)

variable {m : Manifest} {name key i j : String} {entry : ClassEntry} {chain : List ClassEntry}

/-- A class or interface of the manifest has an entry of a method. -/
def Declares (m : Manifest) (name key : String) : Prop :=
  ∃ owner, m.classes.get? name = some owner ∧ owner.declares key = true

/-- A class or interface has an entry of a method, or leads to an interface that has one. -/
def Provides (m : Manifest) (name key : String) : Prop :=
  ∃ i, ReflTransGen m.HasInterface name i ∧ m.Declares i key

theorem Provides.of_reaches (hreach : ReflTransGen m.HasInterface i j) (h : m.Provides j key) :
    m.Provides i key := by
  obtain ⟨k, hk, hdeclares⟩ := h
  exact ⟨k, hreach.trans hk, hdeclares⟩

/-! ### The methods of a class -/

/-- A class that has the name of one of a lineage is that one. -/
theorem Lineage.mem_of_get? (h : m.Lineage name entry chain) {c : String} {owner : ClassEntry}
    (hc : c ∈ name :: chain.map (·.name)) (hget : m.classes.get? c = some owner) :
    owner ∈ entry :: chain := by
  have hsome : some owner ∈ (entry :: chain).map some := by
    rw [← h.map_get?, ← hget]
    exact List.mem_map_of_mem hc
  obtain ⟨_, hmem, heq⟩ := List.mem_map.1 hsome
  rwa [← Option.some.inj heq]

/-- A class reports the methods that it or one of its ancestors provides. -/
theorem Lineage.hasMethod_iff (h : m.Lineage name entry chain) :
    (m.snapshotOf entry chain).hasMethod key = true ↔
      ∃ c ∈ name :: chain.map (·.name), m.Provides c key := by
  rw [Snapshot.hasMethod, SortedMap.contains_iff, ← SortedMap.mem_keys_iff, mem_keys_methods_iff]
  constructor
  · rintro ⟨owner, howner, hentry⟩
    have hdeclares := ClassEntry.declares_iff.2 hentry
    rcases List.mem_append.1 howner with howner | howner
    · have hname : owner.name ∈ name :: chain.map (·.name) := by
        rw [h.names_eq]
        exact List.mem_map_of_mem howner
      exact ⟨owner.name, hname, owner.name, .refl, owner, h.get?_name owner howner, hdeclares⟩
    · obtain ⟨i, hi, hget⟩ := List.mem_filterMap.1 howner
      obtain ⟨c, hc, hreach⟩ := h.mem_interfaces_iff.1 hi
      exact ⟨c, hc, i, hreach.to_reflTransGen, owner, hget, hdeclares⟩
  · rintro ⟨c, hc, i, hreach, owner, hget, hdeclares⟩
    refine ⟨owner, ?_, ClassEntry.declares_iff.1 hdeclares⟩
    rcases Relation.reflTransGen_iff_eq_or_transGen.1 hreach with rfl | hreach
    · exact List.mem_append_left _ (h.mem_of_get? hc hget)
    · have hi := h.mem_interfaces_iff.2 ⟨c, hc, hreach⟩
      exact List.mem_append_right _ (List.mem_filterMap.2 ⟨i, hi, hget⟩)

/-- A class reports what an interface of it provides. -/
theorem Lineage.hasMethod_of_provides (h : m.Lineage name entry chain)
    (hi : i ∈ (m.snapshotOf entry chain).interfaces) (hprovides : m.Provides i key) :
    (m.snapshotOf entry chain).hasMethod key = true := by
  obtain ⟨c, hc, hreach⟩ := h.mem_interfaces_iff.1 hi
  exact h.hasMethod_iff.2 ⟨c, hc, hprovides.of_reaches hreach.to_reflTransGen⟩

/-! ### Attribution to an interface -/

/-- Whether an interface is found and reports a method. -/
def reports (m : Manifest) (key name : String) : Bool :=
  match m.snapshot name with
  | .ok snapshot => snapshot.hasMethod key
  | .error _ => false

theorem reports_of_snapshot {s : Snapshot} (h : m.snapshot i = .ok s) :
    m.reports key i = s.hasMethod key := by
  rw [reports, h]

/-- An interface that a method is attributed to is the first that reports it. -/
theorem eq_find?_of_firstDeclaring {names : List String} {found : Option String}
    (h : m.firstDeclaring key names = .ok found) : found = names.find? (m.reports key) := by
  induction names with
  | nil => exact (Except.ok.inj h).symm
  | cons name rest ih =>
    rw [firstDeclaring] at h
    cases hs : m.snapshot name with
    | ok s =>
      rw [List.find?_cons, reports_of_snapshot hs]
      simp only [hs] at h
      split_ifs at h with hkey
      · rw [hkey, Except.ok.inj h]
      · rw [eq_false_of_ne_true hkey, ih h]
    | error e =>
      rw [List.find?_cons, reports, hs]
      simp only [hs] at h
      cases e with
      | unknownClass x => exact ih h
      | inheritanceCycle x => cases h
      | source path cause => cases h

theorem reports_of_declaringInterface {s : Snapshot}
    (h : m.declaringInterface s key = .ok (some i)) : m.reports key i = true :=
  List.find?_some (eq_find?_of_firstDeclaring h).symm

/-- Attribution succeeds when the interfaces that are not found are not known. -/
theorem exists_firstDeclaring {names : List String}
    (h : ∀ i ∈ names, ∀ e, m.snapshot i = .error e → ∃ x, e = .unknownClass x) :
    ∃ found, m.firstDeclaring key names = .ok found := by
  induction names with
  | nil => exact ⟨none, rfl⟩
  | cons name rest ih =>
    obtain ⟨found, hfound⟩ := ih fun i hi => h i (List.mem_cons_of_mem _ hi)
    rw [firstDeclaring]
    cases hs : m.snapshot name with
    | ok s =>
      by_cases hkey : s.hasMethod key = true
      · exact ⟨some name, by simp only [hkey, ↓reduceIte]⟩
      · exact ⟨found, by simp only [hkey, hfound, Bool.false_eq_true, ↓reduceIte]⟩
    | error e =>
      obtain ⟨x, rfl⟩ := h name List.mem_cons_self e hs
      exact ⟨found, hfound⟩

/-- A name that is not the name of a class with a parent. -/
def Parentless (m : Manifest) (name : String) : Prop :=
  ∀ entry, m.classes.get? name = some entry → entry.parent = none

/-- No interface that a class or interface names has a parent. -/
def ParentlessInterfaces (m : Manifest) : Prop :=
  ∀ owner i, m.HasInterface owner i → m.Parentless i

/-- A class without a parent has no ancestors. -/
theorem Parentless.lineage (h : m.Parentless name) (hget : m.classes.get? name = some entry) :
    m.Lineage name entry [] :=
  .of_chainFrom hget (m.chainFrom_root _ (h entry hget))

theorem snapshot_of_get?_eq_none (hget : m.classes.get? name = none) :
    m.snapshot name = .error (.unknownClass name) := by
  rw [snapshot, Manifest.entry, hget]
  rfl

/-- A class without a parent is found unless it is not known. -/
theorem Parentless.eq_unknownClass (h : m.Parentless name) {e : ClassError}
    (hsnapshot : m.snapshot name = .error e) : e = .unknownClass name := by
  cases hget : m.classes.get? name with
  | none =>
    rw [snapshot_of_get?_eq_none hget] at hsnapshot
    exact (Except.error.inj hsnapshot).symm
  | some entry =>
    rw [(h.lineage hget).snapshot_eq] at hsnapshot
    cases hsnapshot

/-- A class without a parent reports what it provides. -/
theorem Parentless.reports_iff (h : m.Parentless name) :
    m.reports key name = true ↔ m.Provides name key := by
  cases hget : m.classes.get? name with
  | none =>
    -- A name that is not known leads nowhere.
    have hnone : ¬ m.Provides name key := by
      rintro ⟨i, hreach, owner, howner, -⟩
      rcases hreach.cases_head with rfl | ⟨j, hstep, -⟩
      · simp [hget] at howner
      · simp [HasInterface, interfacesOf, hget] at hstep
    simp [reports, snapshot_of_get?_eq_none hget, hnone]
  | some entry =>
    rw [reports_of_snapshot (h.lineage hget).snapshot_eq, (h.lineage hget).hasMethod_iff]
    simp

namespace Lineage

variable (h : m.Lineage name entry chain) (hflat : m.ParentlessInterfaces)
include h hflat

theorem parentless_of_mem (hi : i ∈ (m.snapshotOf entry chain).interfaces) : m.Parentless i := by
  obtain ⟨c, -, hreach⟩ := h.mem_interfaces_iff.1 hi
  obtain ⟨owner, -, hlast⟩ := TransGen.tail'_iff.1 hreach
  exact hflat owner i hlast

/-- The first interface that reports a method is named by a class of the lineage: any other comes
after one that is named and that reports the method too. -/
theorem mem_interfacesOf_of_find?
    (hfind : (m.snapshotOf entry chain).interfaces.find? (m.reports key) = some i) :
    ∃ c ∈ name :: chain.map (·.name), i ∈ m.interfacesOf c := by
  obtain ⟨hreports, before, after, hlist, hbefore⟩ := List.find?_eq_some_iff_append.1 hfind
  have hrooted := m.rooted_interfaceClosure ((name :: chain.map (·.name)).flatMap m.interfacesOf)
  rw [← h.interfaces_eq] at hrooted
  rcases hrooted before i after hlist with hi | ⟨d, hd, -, hreach⟩
  · exact List.mem_flatMap.1 hi
  · have hi : i ∈ (m.snapshotOf entry chain).interfaces := List.mem_of_find?_eq_some hfind
    have hprovides := (h.parentless_of_mem hflat hi).reports_iff.1 hreports
    have hdmem : d ∈ (m.snapshotOf entry chain).interfaces := by
      rw [hlist]
      exact List.mem_append_left _ hd
    have hearlier : m.reports key d = true := (h.parentless_of_mem hflat hdmem).reports_iff.2
      (hprovides.of_reaches hreach.to_reflTransGen)
    have hnot := hbefore d hd
    rw [hearlier] at hnot
    cases hnot

end Lineage

/-- When no interface has a parent, attribution of a method succeeds. The interface that it finds is
named by the class or one of its ancestors, leads to an entry of the method, and the class reports
the method. When it finds none, no interface of the class has an entry of the method. -/
theorem declaringInterface_direct (m : Manifest) (hflat : m.ParentlessInterfaces)
    (name key : String) (s : Snapshot) (h : m.snapshot name = .ok s) :
    ∃ parents found, m.parentChain name = .ok parents ∧ m.declaringInterface s key = .ok found ∧
      (∀ i, found = some i →
        (∃ c ∈ name :: parents, i ∈ m.interfacesOf c) ∧ s.hasMethod key = true ∧
        ∃ j, ReflTransGen m.HasInterface i j ∧ m.Declares j key) ∧
      (found = none → ∀ c ∈ name :: parents, ∀ i, TransGen m.HasInterface c i →
        ¬ m.Declares i key) := by
  obtain ⟨entry, chain, hlineage, rfl⟩ := snapshot_eq_ok_iff.1 h
  obtain ⟨found, hfound⟩ :
      ∃ found, m.declaringInterface (m.snapshotOf entry chain) key = .ok found :=
    exists_firstDeclaring fun i hi e he =>
      ⟨i, (hlineage.parentless_of_mem hflat hi).eq_unknownClass he⟩
  have hfind := eq_find?_of_firstDeclaring hfound
  refine ⟨chain.map (·.name), found, hlineage.parentChain_eq, hfound, ?_, ?_⟩
  · rintro i rfl
    have hi := List.mem_of_find?_eq_some hfind.symm
    have hprovides := (hlineage.parentless_of_mem hflat hi).reports_iff.1
      (reports_of_declaringInterface hfound)
    exact ⟨hlineage.mem_interfacesOf_of_find? hflat hfind.symm,
      hlineage.hasMethod_of_provides hi hprovides, hprovides⟩
  · rintro rfl c hc i hreach hdeclares
    have hi := hlineage.mem_interfaces_iff.2 ⟨c, hc, hreach⟩
    have hreports := (hlineage.parentless_of_mem hflat hi).reports_iff.2 ⟨i, .refl, hdeclares⟩
    exact List.find?_eq_none.1 hfind.symm i hi hreports

theorem parentlessInterfaces_files : files.ParentlessInterfaces := by
  have hentries : ∀ e ∈ files.classes.entries, ∀ i ∈ e.2.interfaces, ∀ f ∈ files.classes.entries,
      f.1 = i → f.2.parent = none := by decide
  intro owner i hi entry hentry
  obtain ⟨ownerEntry, howner, hmem⟩ := hasInterface_iff.1 hi
  exact hentries (owner, ownerEntry) (SortedMap.get?_eq_some_iff.1 howner) i hmem (i, entry)
    (SortedMap.get?_eq_some_iff.1 hentry) rfl

/-- A method that only an extended interface has an entry of is attributed to an interface that the
class or its parent names. -/
theorem declaringInterface_direct_files :
    ∃ s i, files.snapshot "BufferedFile" = .ok s ∧ files.ParentlessInterfaces ∧
      files.declaringInterface s "close" = .ok (some i) ∧
      (∃ c ∈ ["BufferedFile", "File"], i ∈ files.interfacesOf c) ∧ s.hasMethod "close" = true := by
  have hs := lineage_files.snapshot_eq
  obtain ⟨parents, found, hparents, hfound, hsome, hnone⟩ :=
    declaringInterface_direct files parentlessInterfaces_files "BufferedFile" "close" _ hs
  obtain rfl : ["File"] = parents :=
    Except.ok.inj (lineage_files.parentChain_eq.symm.trans hparents)
  cases found with
  | none =>
    have hreach : TransGen files.HasInterface "BufferedFile" "Source" :=
      .tail (.single (show "Readable" ∈ files.interfacesOf "BufferedFile" by decide))
        (show "Source" ∈ files.interfacesOf "Readable" by decide)
    exact absurd ⟨fileSource, by decide, by decide⟩
      (hnone rfl "BufferedFile" List.mem_cons_self "Source" hreach)
  | some i =>
    obtain ⟨hdirect, hmethod, -⟩ := hsome i rfl
    exact ⟨_, i, hs, parentlessInterfaces_files, hfound, hdirect, hmethod⟩

/-! ### What a class reports of its interfaces -/

/-- What an interface of a class reports, the class reports too, or the interface has it from its
ancestors alone. -/
theorem Lineage.hasMethod_or_inherited {owner : ClassEntry} {owners : List ClassEntry}
    (h : m.Lineage name entry chain) (hi : i ∈ (m.snapshotOf entry chain).interfaces)
    (howner : m.Lineage i owner owners) (hkey : (m.snapshotOf owner owners).hasMethod key = true) :
    (m.snapshotOf entry chain).hasMethod key = true ∨
      ¬ m.Provides i key ∧ ∃ p ∈ owners.map (·.name), m.Provides p key := by
  by_cases hprovides : m.Provides i key
  · exact .inl (h.hasMethod_of_provides hi hprovides)
  · obtain ⟨c, hc, hprovided⟩ := howner.hasMethod_iff.1 hkey
    rcases List.mem_cons.1 hc with rfl | hc
    · exact absurd hprovided hprovides
    · exact .inr ⟨hprovides, c, hc, hprovided⟩

/-- A class reports what an interface of it reports, and what is attributed to that interface, but
for what the interface has from its ancestors alone. -/
theorem hasMethod_of_interface (m : Manifest) (name interface : String) (s t : Snapshot)
    (hs : m.snapshot name = .ok s) (hmem : interface ∈ s.interfaces)
    (ht : m.snapshot interface = .ok t) :
    ∃ parents, m.parentChain interface = .ok parents ∧
      (∀ key, t.hasMethod key = true ∨ m.declaringInterface s key = .ok (some interface) →
        s.hasMethod key = true ∨
          ¬ m.Provides interface key ∧ ∃ p ∈ parents, m.Provides p key) ∧
      (parents = [] → ∀ key,
        t.hasMethod key = true ∨ m.declaringInterface s key = .ok (some interface) →
          s.hasMethod key = true) := by
  obtain ⟨entry, chain, hlineage, rfl⟩ := snapshot_eq_ok_iff.1 hs
  obtain ⟨owner, owners, howner, rfl⟩ := snapshot_eq_ok_iff.1 ht
  -- What is attributed to the interface is reported by it.
  have hreport (key : String) (h : (m.snapshotOf owner owners).hasMethod key = true ∨
      m.declaringInterface (m.snapshotOf entry chain) key = .ok (some interface)) :
      (m.snapshotOf owner owners).hasMethod key = true := by
    rcases h with h | h
    · exact h
    · rw [← reports_of_snapshot ht]
      exact reports_of_declaringInterface h
  refine ⟨owners.map (·.name), howner.parentChain_eq, fun key h => ?_, fun hroot key h => ?_⟩
  · exact hlineage.hasMethod_or_inherited hmem howner (hreport key h)
  · rcases hlineage.hasMethod_or_inherited hmem howner (hreport key h) with hkey | ⟨-, p, hp, -⟩
    · exact hkey
    · rw [hroot] at hp
      cases hp

/-- A class reports a method that an interface of it has from one that this interface extends. -/
theorem hasMethod_of_interface_files :
    ∃ s t, files.snapshot "BufferedFile" = .ok s ∧ "Readable" ∈ s.interfaces ∧
      files.snapshot "Readable" = .ok t ∧ t.hasMethod "close" = true ∧
      s.hasMethod "close" = true := by
  have hs := lineage_files.snapshot_eq
  have hlineage : files.Lineage "Readable" fileReadable [] :=
    (parentlessInterfaces_files "File" "Readable"
      (show "Readable" ∈ files.interfacesOf "File" by decide)).lineage (by decide)
  have ht := hlineage.snapshot_eq
  have hmem : "Readable" ∈ (files.snapshotOf fileChild [fileParent]).interfaces :=
    lineage_files.mem_interfaces_iff.2 ⟨"BufferedFile", List.mem_cons_self,
      .single (show "Readable" ∈ files.interfacesOf "BufferedFile" by decide)⟩
  have hclose : (files.snapshotOf fileReadable []).hasMethod "close" = true :=
    hlineage.hasMethod_iff.2 ⟨"Readable", List.mem_cons_self, "Source",
      .single (show "Source" ∈ files.interfacesOf "Readable" by decide), fileSource,
      by decide, by decide⟩
  obtain ⟨parents, hparents, -, hroot⟩ :=
    hasMethod_of_interface files "BufferedFile" "Readable" _ _ hs hmem ht
  obtain rfl : [] = parents := Except.ok.inj (hlineage.parentChain_eq.symm.trans hparents)
  exact ⟨_, _, hs, hmem, ht, hclose, hroot rfl "close" (.inl hclose)⟩

/-- An interface with a method. -/
def bookNamed : ClassEntry :=
  { name := "Named", kind := .interfaceKind, methods := [{ name := "label" }] }

/-- An interface with a parent. -/
def bookTitled : ClassEntry :=
  { name := "Titled", kind := .interfaceKind, parent := some "Named" }

/-- A class with an interface that has a parent. -/
def bookChild : ClassEntry :=
  { name := "Book", interfaces := ["Titled"] }

/-- Sample classes with an interface that has a parent. -/
def books : Manifest :=
  ((empty.put bookNamed).put bookTitled).put bookChild

theorem lineage_book : books.Lineage "Book" bookChild [] :=
  .of_chainFrom (by decide) (books.chainFrom_root _ rfl)

theorem lineage_titled : books.Lineage "Titled" bookTitled [bookNamed] :=
  .of_chainFrom (by decide)
    (chainFrom_parent rfl (by decide) (by decide) (books.chainFrom_root _ rfl))

/-- Naming interfaces does not lead from the class of the sample to the parent of its interface. -/
theorem reaches_book {x : String} (h : ReflTransGen books.HasInterface "Book" x) :
    x = "Book" ∨ x = "Titled" := by
  have hbook : books.interfacesOf "Book" = ["Titled"] := by decide
  have htitled : books.interfacesOf "Titled" = [] := by decide
  induction h with
  | refl => exact .inl rfl
  | tail _ hstep ih =>
    rw [HasInterface] at hstep
    rcases ih with rfl | rfl
    · rw [hbook] at hstep
      exact .inr (List.mem_singleton.1 hstep)
    · rw [htitled] at hstep
      cases hstep

/-- A class need not report what an interface of it has from its parent. -/
theorem not_forall_hasMethod_of_interface :
    ¬ ∀ (m : Manifest) (name interface : String) (s t : Snapshot), m.snapshot name = .ok s →
      interface ∈ s.interfaces → m.snapshot interface = .ok t →
      ∀ key, t.hasMethod key = true → s.hasMethod key = true := by
  intro hall
  have hmem : "Titled" ∈ (books.snapshotOf bookChild []).interfaces :=
    lineage_book.mem_interfaces_iff.2 ⟨"Book", List.mem_cons_self,
      .single (show "Titled" ∈ books.interfacesOf "Book" by decide)⟩
  have hlabel : (books.snapshotOf bookTitled [bookNamed]).hasMethod "label" = true :=
    lineage_titled.hasMethod_iff.2 ⟨"Named", by simp [bookNamed], "Named", .refl, bookNamed,
      by decide, by decide⟩
  have hbook := hall books "Book" "Titled" _ _ lineage_book.snapshot_eq hmem
    lineage_titled.snapshot_eq "label" hlabel
  obtain ⟨c, hc, i, hreach, owner, hget, hdeclares⟩ := lineage_book.hasMethod_iff.1 hbook
  rw [List.mem_singleton.1 hc] at hreach
  -- Neither the class nor the interface has an entry of the method.
  have hentries : ∀ e ∈ books.classes.entries, e.1 = "Book" ∨ e.1 = "Titled" →
      e.2.declares "label" = false := by decide
  rw [hentries (i, owner) (SortedMap.get?_eq_some_iff.1 hget) (reaches_book hreach)] at hdeclares
  cases hdeclares

end ClassDocs.Manifest
