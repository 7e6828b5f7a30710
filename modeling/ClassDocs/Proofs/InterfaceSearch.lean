import ClassDocs.Proofs.InterfaceMethods
import ClassDocs.Proofs.ParentWalk

/-!
# Searching the interfaces of a class

The interface that a method comes from is searched for along the interfaces of a class. The search
passes over names that are not known and interfaces that do not report the method. It ends with an
error at an interface whose parent links lead back to a class that was passed before.

An interface of the manifest whose parent links lead to a name that is not known is passed over too:
it is not found for lack of a class, and the search does not ask which class is lacking. So what
stands before the answer is unknown or lacks the method only as long as no such interface does.

## Main definitions

* `Manifest.Dangling`, `Manifest.Circular`: classes whose parent links lead to no root.
* `Manifest.PassedOver`: interfaces that the search goes on from.
* `Manifest.StopsAt`: how the search ends at an interface.
* `Manifest.preceding`: the interfaces before the one that is found.

## Main results

* `Manifest.passedOver_or_stopsAt`: one step of the search.
* `Manifest.firstDeclaring_eq_iff`: what the search comes to.
* `Manifest.declaringInterface_exact`: what stands before the answer, and when there is none.
-/

namespace ClassDocs.Manifest

variable {m : Manifest} {name key last i : String} {names before : List String}
  {found : Option String} {result : Except ClassError (Option String)}

/-! ### Classes whose parent links lead to no root -/

/-- Parent links lead from a class of the manifest to a name that is not known. -/
def Dangling (m : Manifest) (name : String) : Prop :=
  name ∈ m.names ∧ ∃ passed last, m.Climb name passed last ∧ last ∉ m.names

/-- Parent links lead from a class to one that was passed on the way. -/
def Circular (m : Manifest) (name last : String) : Prop :=
  ∃ passed, m.Climb name passed last ∧ last ∈ passed

theorem snapshot_eq_unknownClass_iff :
    m.snapshot name = .error (.unknownClass last) ↔
      ∃ passed, m.Climb name passed last ∧ last ∉ m.names := by
  rw [snapshot_eq_error_iff, parentChain_eq_iff]
  constructor
  · rintro ⟨passed, _, hclimb, hending⟩
    cases hending with
    | unknown hunknown => exact ⟨passed, hclimb, hunknown⟩
  · rintro ⟨passed, hclimb, hunknown⟩
    exact ⟨passed, last, hclimb, .unknown hunknown⟩

theorem snapshot_eq_inheritanceCycle_iff :
    m.snapshot name = .error (.inheritanceCycle last) ↔ m.Circular name last := by
  rw [snapshot_eq_error_iff, parentChain_eq_iff]
  constructor
  · rintro ⟨passed, _, hclimb, hending⟩
    cases hending with
    | cycle hmet => exact ⟨passed, hclimb, hmet⟩
  · rintro ⟨passed, hclimb, hmet⟩
    exact ⟨passed, last, hclimb, .cycle hmet⟩

/-- No source file is read to find a class. -/
theorem snapshot_ne_source (m : Manifest) (name path : String) (cause : FileError) :
    m.snapshot name ≠ .error (.source path cause) := by
  rw [Ne, snapshot_eq_error_iff, parentChain_eq_iff]
  rintro ⟨_, _, -, hending⟩
  cases hending

theorem Dangling.exists_snapshot_eq (h : m.Dangling name) :
    ∃ last, m.snapshot name = .error (.unknownClass last) := by
  obtain ⟨-, passed, last, hclimb, hunknown⟩ := h
  exact ⟨last, snapshot_eq_unknownClass_iff.2 ⟨passed, hclimb, hunknown⟩⟩

/-! ### One step of the search -/

/-- An interface that the search goes on from. -/
inductive PassedOver (m : Manifest) (key i : String) : Prop
  /-- The manifest does not have it. -/
  | unknown (hi : i ∉ m.names)
  /-- It is found and does not report the method. -/
  | lacking {t : Snapshot} (ht : m.snapshot i = .ok t) (hkey : t.hasMethod key = false)
  /-- The manifest has it, but not all of its ancestors. -/
  | dangling (hi : m.Dangling i)

/-- The answer of a search that ends at an interface: the interface itself when it reports the
method, and an error when its parent links are circular. -/
inductive StopsAt (m : Manifest) (key i : String) : Except ClassError (Option String) → Prop
  | reports {t : Snapshot} (ht : m.snapshot i = .ok t) (hkey : t.hasMethod key = true) :
      StopsAt m key i (.ok (some i))
  | circular {last : String} (hi : m.Circular i last) :
      StopsAt m key i (.error (.inheritanceCycle last))

/-- The search goes on from an interface or ends at it. -/
theorem passedOver_or_stopsAt (m : Manifest) (key i : String) :
    m.PassedOver key i ∨ ∃ result, m.StopsAt key i result := by
  cases hs : m.snapshot i with
  | ok t =>
    cases hkey : t.hasMethod key with
    | true => exact .inr ⟨_, .reports hs hkey⟩
    | false => exact .inl (.lacking hs hkey)
  | error e =>
    cases e with
    | unknownClass last =>
      by_cases hi : i ∈ m.names
      · obtain ⟨passed, hclimb, hunknown⟩ := snapshot_eq_unknownClass_iff.1 hs
        exact .inl (.dangling ⟨hi, passed, last, hclimb, hunknown⟩)
      · exact .inl (.unknown hi)
    | inheritanceCycle last =>
      exact .inr ⟨_, .circular (snapshot_eq_inheritanceCycle_iff.1 hs)⟩
    | source path cause => exact absurd hs (m.snapshot_ne_source i path cause)

theorem PassedOver.firstDeclaring_cons (h : m.PassedOver key i) (rest : List String) :
    m.firstDeclaring key (i :: rest) = m.firstDeclaring key rest := by
  rw [firstDeclaring]
  cases h with
  | unknown hi =>
    have hs := snapshot_eq_unknownClass_iff.2 ⟨[], Climb.start, hi⟩
    rw [hs]
  | lacking ht hkey => simp only [ht, hkey, Bool.false_eq_true, ↓reduceIte]
  | dangling hi =>
    obtain ⟨last, hs⟩ := hi.exists_snapshot_eq
    rw [hs]

theorem StopsAt.firstDeclaring_cons (h : m.StopsAt key i result) (rest : List String) :
    m.firstDeclaring key (i :: rest) = result := by
  rw [firstDeclaring]
  cases h with
  | reports ht hkey => simp only [ht, hkey, ↓reduceIte]
  | circular hi => rw [snapshot_eq_inheritanceCycle_iff.2 hi]

/-- The search does not go on from an interface that it ends at. -/
theorem PassedOver.not_stopsAt (h : m.PassedOver key i) : ¬ m.StopsAt key i result := by
  intro hstops
  have hpassed := h.firstDeclaring_cons []
  rw [hstops.firstDeclaring_cons []] at hpassed
  cases hstops <;> cases hpassed

/-! ### The whole search -/

theorem firstDeclaring_append (h : ∀ i ∈ before, m.PassedOver key i) (rest : List String) :
    m.firstDeclaring key (before ++ rest) = m.firstDeclaring key rest := by
  induction before with
  | nil => rfl
  | cons i before ih =>
    obtain ⟨hi, hbefore⟩ := List.forall_mem_cons.1 h
    rw [List.cons_append, hi.firstDeclaring_cons, ih hbefore]

/-- The search passes over all interfaces, or over those before the one that it ends at. -/
theorem firstDeclaring_eq_iff :
    m.firstDeclaring key names = result ↔
      result = .ok none ∧ (∀ i ∈ names, m.PassedOver key i) ∨
      ∃ before i after, names = before ++ i :: after ∧ (∀ j ∈ before, m.PassedOver key j) ∧
        m.StopsAt key i result := by
  constructor
  · intro h
    induction names with
    | nil => exact .inl ⟨h.symm, by simp⟩
    | cons i rest ih =>
      rcases m.passedOver_or_stopsAt key i with hi | ⟨stopped, hi⟩
      · rw [hi.firstDeclaring_cons] at h
        rcases ih h with ⟨hnone, hrest⟩ | ⟨before, j, after, rfl, hbefore, hj⟩
        · exact .inl ⟨hnone, List.forall_mem_cons.2 ⟨hi, hrest⟩⟩
        · exact .inr ⟨i :: before, j, after, rfl, List.forall_mem_cons.2 ⟨hi, hbefore⟩, hj⟩
      · rw [hi.firstDeclaring_cons] at h
        exact .inr ⟨[], i, rest, rfl, by simp, h ▸ hi⟩
  · rintro (⟨rfl, hall⟩ | ⟨before, i, after, rfl, hbefore, hi⟩)
    · have hend := firstDeclaring_append hall []
      rwa [List.append_nil] at hend
    · rw [firstDeclaring_append hbefore, hi.firstDeclaring_cons]

/-- The names before the one that is found, all of them when none is. -/
def preceding (names : List String) : Option String → List String
  | none => names
  | some i => names.takeWhile (· != i)

/-- A search that finds an interface, or none, has passed over those before it. -/
theorem passedOver_of_mem_preceding (h : m.firstDeclaring key names = .ok found) :
    ∀ i ∈ preceding names found, m.PassedOver key i := by
  rcases firstDeclaring_eq_iff.1 h with ⟨hnone, hall⟩ | ⟨before, i, after, rfl, hbefore, hi⟩
  · rw [Except.ok.inj hnone]
    exact hall
  · cases hi with
    | reports ht hkey =>
      have hbeforeNe : ∀ j ∈ before, (j != i) = true := by
        intro j hj
        have hne : j ≠ i := by
          rintro rfl
          exact (hbefore j hj).not_stopsAt (.reports ht hkey)
        exact bne_iff_ne.2 hne
      rwa [preceding, List.takeWhile_append_of_pos hbeforeNe, List.takeWhile_cons_of_neg (by simp),
        List.append_nil]

/-- An interface that is passed over is unknown or lacks the method, unless its parent links lead to
a name that is not known. -/
theorem PassedOver.unknown_or_lacking_iff (h : m.PassedOver key i) :
    (i ∉ m.names ∨ ∃ t, m.snapshot i = .ok t ∧ t.hasMethod key = false) ↔ ¬ m.Dangling i := by
  constructor
  · rintro (hi | ⟨t, ht, -⟩) hdangling
    · exact hi hdangling.1
    · obtain ⟨last, hs⟩ := hdangling.exists_snapshot_eq
      rw [ht] at hs
      cases hs
  · intro hnot
    cases h with
    | unknown hi => exact .inl hi
    | @lacking t ht hkey => exact .inr ⟨t, ht, hkey⟩
    | dangling hi => exact absurd hi hnot

/-- What the search for the interface of a method passes over. The interfaces before the answer are
unknown, lack the method or have parent links that lead to a name that is not known; so they are
unknown or lack the method exactly when none of them has such links. The search fails exactly when
it comes to an interface with circular parent links. -/
theorem declaringInterface_exact (m : Manifest) (s : Snapshot) (key : String) :
    (∀ found, m.declaringInterface s key = .ok found →
      (∀ i ∈ preceding s.interfaces found, m.PassedOver key i) ∧
      ((∀ i ∈ preceding s.interfaces found,
          i ∉ m.names ∨ ∃ t, m.snapshot i = .ok t ∧ t.hasMethod key = false) ↔
        ∀ i ∈ preceding s.interfaces found, ¬ m.Dangling i)) ∧
    ∀ e, m.declaringInterface s key = .error e ↔
      ∃ before i after last, s.interfaces = before ++ i :: after ∧
        (∀ j ∈ before, m.PassedOver key j) ∧ m.Circular i last ∧ e = .inheritanceCycle last := by
  refine ⟨fun found hfound => ?_, fun e => ?_⟩
  · have hpassed := passedOver_of_mem_preceding hfound
    refine ⟨hpassed, forall₂_congr fun i hi => ?_⟩
    exact (hpassed i hi).unknown_or_lacking_iff
  · rw [declaringInterface, firstDeclaring_eq_iff]
    constructor
    · rintro (⟨hnone, -⟩ | ⟨before, i, after, hlist, hbefore, hi⟩)
      · cases hnone
      · cases hi with
        | @circular last hi => exact ⟨before, i, after, last, hlist, hbefore, hi, rfl⟩
    · rintro ⟨before, i, after, last, hlist, hbefore, hi, rfl⟩
      exact .inr ⟨before, i, after, hlist, hbefore, .circular hi⟩

/-- An interface with a parent that is not known. -/
def bagCountable : ClassEntry :=
  { name := "Countable", kind := .interfaceKind, parent := some "Traversable"
    methods := [{ name := "count" }] }

/-- A class with a method of that interface. -/
def bagChild : ClassEntry :=
  { name := "Bag", interfaces := ["Countable"], methods := [{ name := "count" }] }

/-- Sample classes with an interface that is known but not found. -/
def bags : Manifest :=
  (empty.put bagCountable).put bagChild

theorem lineage_bag : bags.Lineage "Bag" bagChild [] :=
  .of_chainFrom (by decide) (bags.chainFrom_root _ rfl)

theorem dangling_countable : bags.Dangling "Countable" := by
  have hparent : bags.HasParent "Countable" "Traversable" := ⟨bagCountable, by decide, rfl⟩
  exact ⟨by decide, ["Countable"], "Traversable", .up .start (by simp) hparent, by decide⟩

theorem interfaces_bag : (bags.snapshotOf bagChild []).interfaces = ["Countable"] := by
  have hnone : bags.interfacesOf "Countable" = [] := by decide
  change bags.closureFrom [] ["Countable"] = ["Countable"]
  rw [closureFrom_expand (by simp), hnone, List.append_nil, closureFrom_nil, List.nil_append]

/-- The search passes over an interface that the manifest has and that declares the method, because
a parent of the interface is not known. -/
theorem not_forall_unknown_or_lacking :
    ¬ ∀ (m : Manifest) (name key : String) (s : Snapshot) (found : Option String),
      m.snapshot name = .ok s → m.declaringInterface s key = .ok found →
      ∀ i ∈ preceding s.interfaces found,
        i ∉ m.names ∨ ∃ t, m.snapshot i = .ok t ∧ t.hasMethod key = false := by
  intro hall
  have hpassed : bags.PassedOver "count" "Countable" := .dangling dangling_countable
  have hfound : bags.declaringInterface (bags.snapshotOf bagChild []) "count" = .ok none := by
    rw [declaringInterface, interfaces_bag, hpassed.firstDeclaring_cons, firstDeclaring]
  have hclaimed := hall bags "Bag" "count" _ none lineage_bag.snapshot_eq hfound "Countable"
    (by rw [preceding, interfaces_bag]; exact List.mem_cons_self)
  exact hpassed.unknown_or_lacking_iff.1 hclaimed dangling_countable

end ClassDocs.Manifest
