import ClassDocs.Class.View
import ClassDocs.Proofs.ParentChain
import Mathlib.Data.List.Perm.Subperm

/-!
# Going up from parent to parent

The parent links of a manifest can lead to a class without a parent, to a name that is not known or
back to a class that was passed before. Going up from a class comes to exactly one of these, since
there are only finitely many classes to pass, and the ancestors that are reported tell which.

## Main definitions

* `Manifest.HasParent`, `Manifest.IsRoot`: one link upwards and where links end.
* `Manifest.Climb`: going up from a class without passing a class twice.
* `Manifest.Ending`: what the ancestors are when going up ends.
* `Manifest.ChainOutcome`: what the ancestors of a class are.

## Main results

* `Manifest.Climb.eq_of_ends`: going up from a class ends in one way only.
* `Manifest.chainFrom_outcome`: the ancestors found from a class on tell how going up ends.
* `Manifest.parentChain_eq_iff`: the ancestors of a class are what going up comes to.
* `Manifest.parentChain_eq_ok_iff_of_hasParent`: the ancestors of a class and of its parent.
* `Manifest.parentChain_exact`: all of it, together with the look-ups that depend on it.
-/

namespace ClassDocs.Manifest

variable {m : Manifest} {name parent last : String} {passed : List String}

/-- A class of the manifest names another as its parent. -/
def HasParent (m : Manifest) (child parent : String) : Prop :=
  ∃ entry, m.classes.get? child = some entry ∧ entry.parent = some parent

/-- A class of the manifest without a parent. -/
def IsRoot (m : Manifest) (name : String) : Prop :=
  ∃ entry, m.classes.get? name = some entry ∧ entry.parent = none

theorem mem_names_iff : name ∈ m.names ↔ ∃ entry, m.classes.get? name = some entry :=
  SortedMap.mem_keys_iff

theorem HasParent.mem_names (h : m.HasParent name parent) : name ∈ m.names := by
  obtain ⟨entry, hget, -⟩ := h
  exact mem_names_iff.2 ⟨entry, hget⟩

theorem HasParent.unique {other : String} (h : m.HasParent name parent)
    (h' : m.HasParent name other) : parent = other := by
  obtain ⟨entry, hget, hparent⟩ := h
  obtain ⟨entry', hget', hother⟩ := h'
  obtain rfl := Option.some.inj (hget.symm.trans hget')
  exact Option.some.inj (hparent.symm.trans hother)

theorem IsRoot.mem_names (h : m.IsRoot name) : name ∈ m.names := by
  obtain ⟨entry, hget, -⟩ := h
  exact mem_names_iff.2 ⟨entry, hget⟩

theorem IsRoot.not_hasParent (h : m.IsRoot name) : ¬ m.HasParent name parent := by
  rintro ⟨entry, hget, hparent⟩
  obtain ⟨entry', hget', hnone⟩ := h
  obtain rfl := Option.some.inj (hget.symm.trans hget')
  rw [hnone] at hparent
  cases hparent

/-! ### Climbs -/

/-- Going up from a class along parent links: the names that are passed, none of them twice, and the
name that is come to, which may be one of them. -/
inductive Climb (m : Manifest) (name : String) : List String → String → Prop
  | start : Climb m name [] name
  | up {passed : List String} {last next : String} (h : Climb m name passed last)
      (hnew : last ∉ passed) (hparent : m.HasParent last next) :
      Climb m name (passed ++ [last]) next

namespace Climb

theorem nodup (h : m.Climb name passed last) : passed.Nodup := by
  induction h with
  | start => exact List.nodup_nil
  | up _ hnew _ ih =>
    rw [← List.concat_eq_append]
    exact ih.concat hnew

/-- A name that is passed is known, since it has a parent. -/
theorem mem_names (h : m.Climb name passed last) : ∀ x ∈ passed, x ∈ m.names := by
  induction h with
  | start => simp
  | up _ _ hparent ih =>
    intro x hx
    rcases List.mem_append.1 hx with hx | hx
    · exact ih x hx
    · rw [List.mem_singleton.1 hx]
      exact hparent.mem_names

/-- A climb takes at most as many steps as there are classes. -/
theorem length_le (h : m.Climb name passed last) : passed.length ≤ m.names.length :=
  (h.nodup.subperm h.mem_names).length_le

theorem head?_eq (h : m.Climb name passed last) : (passed ++ [last]).head? = some name := by
  induction h with
  | start => rfl
  | up _ _ _ ih => rw [List.head?_append, ih, Option.some_or]

/-- Two climbs from a class that are equally long are the same. -/
theorem eq_of_length_eq {passed' : List String} {last' : String} (h : m.Climb name passed last)
    (h' : m.Climb name passed' last') (hlength : passed.length = passed'.length) :
    passed = passed' ∧ last = last' := by
  induction h generalizing passed' last' with
  | start =>
    cases h' with
    | start => exact ⟨rfl, rfl⟩
    | up => simp at hlength
  | up _ _ hparent ih =>
    cases h' with
    | start => simp at hlength
    | up h' _ hparent' =>
      obtain ⟨rfl, rfl⟩ := ih h' (by simpa using hlength)
      exact ⟨rfl, hparent.unique hparent'⟩

/-- Where a climb ends: at a name passed before or at one without a parent. -/
def Ends (m : Manifest) (passed : List String) (last : String) : Prop :=
  last ∈ passed ∨ ∀ next, ¬ m.HasParent last next

/-- No climb goes further than one that ends. -/
theorem length_le_of_ends {passed' : List String} {last' : String}
    (h : m.Climb name passed last) (hends : Ends m passed last)
    (h' : m.Climb name passed' last') : passed'.length ≤ passed.length := by
  induction h' with
  | start => exact Nat.zero_le _
  | up h' hnew hparent ih =>
    -- Were the shorter climb as long as the one that ends, it could not go on either.
    have hne : passed.length ≠ _ := fun heq => by
      obtain ⟨rfl, rfl⟩ := h.eq_of_length_eq h' heq
      rcases hends with hmem | hstop
      · exact hnew hmem
      · exact hstop _ hparent
    rw [List.length_append, List.length_singleton]
    omega

/-- Going up from a class ends in one way only. -/
theorem eq_of_ends {passed' : List String} {last' : String}
    (h : m.Climb name passed last) (hends : Ends m passed last)
    (h' : m.Climb name passed' last') (hends' : Ends m passed' last') :
    passed = passed' ∧ last = last' :=
  h.eq_of_length_eq h'
    (Nat.le_antisymm (h'.length_le_of_ends hends' h) (h.length_le_of_ends hends h'))

/-- A climb from the parent of a class is one from the class, when it does not pass the class. -/
theorem of_parent (hparent : m.HasParent name parent) (h : m.Climb parent passed last)
    (hname : name ∉ passed) : m.Climb name (name :: passed) last := by
  induction h with
  | start => exact .up .start List.not_mem_nil hparent
  | up _ hnew hnext ih =>
    rw [List.mem_append, List.mem_singleton, not_or] at hname
    refine .up (ih hname.1) ?_ hnext
    exact List.not_mem_cons_of_ne_of_not_mem (Ne.symm hname.2) hnew

/-- A climb from a class that goes up at all is one from its parent, after the class. -/
theorem to_parent (hparent : m.HasParent name parent) (h : m.Climb name passed last) :
    (passed = [] ∧ last = name) ∨ ∃ rest, passed = name :: rest ∧ m.Climb parent rest last := by
  induction h with
  | start => exact .inl ⟨rfl, rfl⟩
  | up _ hnew hnext ih =>
    right
    rcases ih with ⟨rfl, rfl⟩ | ⟨rest, rfl, hrest⟩
    · obtain rfl := hparent.unique hnext
      exact ⟨[], rfl, .start⟩
    · exact ⟨rest ++ [_], rfl, hrest.up (List.not_mem_of_not_mem_cons hnew) hnext⟩

/-- A climb that passes a child of the class it starts from comes back to a class it has passed. -/
theorem mem_of_child {child : String} (h : m.Climb name passed last) (hchild : child ∈ passed)
    (hparent : m.HasParent child name) : last ∈ passed := by
  induction h with
  | start => cases hchild
  | up h hnew hnext ih =>
    rcases List.mem_append.1 hchild with hchild | hchild
    · exact absurd (ih hchild) hnew
    · rw [List.mem_singleton.1 hchild] at hparent
      rw [hnext.unique hparent]
      exact List.mem_of_mem_head? h.head?_eq

end Climb

/-! ### How a climb ends -/

/-- What the ancestors of a class are, given the names passed on the way up and the one come to:
all of them when that one has no parent, and an error when it is not known or was passed before. -/
inductive Ending (m : Manifest) (name : String) (passed : List String) (last : String) :
    Except ClassError (List String) → Prop
  | root {parents : List String} (hroot : m.IsRoot last)
      (hpassed : name :: parents = passed ++ [last]) (hnodup : (name :: parents).Nodup)
      (hknown : ∀ p ∈ parents, p ∈ m.names) : Ending m name passed last (.ok parents)
  | unknown (hunknown : last ∉ m.names) : Ending m name passed last (.error (.unknownClass last))
  | cycle (hmet : last ∈ passed) : Ending m name passed last (.error (.inheritanceCycle last))

/-- What going up from a class comes to. -/
def ChainOutcome (m : Manifest) (name : String) (result : Except ClassError (List String)) : Prop :=
  ∃ passed last, m.Climb name passed last ∧ m.Ending name passed last result

variable {result : Except ClassError (List String)}

theorem Ending.ends (h : m.Ending name passed last result) : Climb.Ends m passed last := by
  cases h with
  | root hroot => exact .inr fun _ => hroot.not_hasParent
  | unknown hunknown => exact .inr fun _ hparent => hunknown hparent.mem_names
  | cycle hmet => exact .inl hmet

/-- A root that is come to has not been passed. -/
theorem not_mem_of_nodup_root {parents : List String} (hpassed : name :: parents = passed ++ [last])
    (hnodup : (name :: parents).Nodup) : last ∉ passed := by
  rw [hpassed] at hnodup
  exact fun hmem => (List.nodup_append.1 hnodup).2.2 last hmem last List.mem_cons_self rfl

/-- The names passed and the one come to leave no choice for the ancestors. -/
theorem Ending.unique {result' : Except ClassError (List String)} (h : m.Climb name passed last)
    (hending : m.Ending name passed last result) (hending' : m.Ending name passed last result') :
    result = result' := by
  cases hending with
  | root hroot hpassed hnodup =>
    cases hending' with
    | root _ hpassed' => rw [(List.cons.inj (hpassed.trans hpassed'.symm)).2]
    | unknown hunknown => exact absurd hroot.mem_names hunknown
    | cycle hmet => exact absurd hmet (not_mem_of_nodup_root hpassed hnodup)
  | unknown hunknown =>
    cases hending' with
    | root hroot => exact absurd hroot.mem_names hunknown
    | unknown => rfl
    | cycle hmet => exact absurd (h.mem_names last hmet) hunknown
  | cycle hmet =>
    cases hending' with
    | root _ hpassed hnodup => exact absurd hmet (not_mem_of_nodup_root hpassed hnodup)
    | unknown hunknown => exact absurd (h.mem_names last hmet) hunknown
    | cycle => rfl

theorem ChainOutcome.unique {result' : Except ClassError (List String)}
    (h : m.ChainOutcome name result) (h' : m.ChainOutcome name result') : result = result' := by
  obtain ⟨passed, last, hclimb, hending⟩ := h
  obtain ⟨passed', last', hclimb', hending'⟩ := h'
  obtain ⟨rfl, rfl⟩ := hclimb.eq_of_ends hending.ends hclimb' hending'.ends
  exact hending.unique hclimb hending'

/-! ### The ancestors that are found -/

/-- A climb to a class without a parent that has not been passed finds all ancestors. -/
theorem Climb.outcome_of_isRoot {parents : List String} (h : m.Climb name passed last)
    (hnew : last ∉ passed) (hroot : m.IsRoot last) (hpassed : name :: parents = passed ++ [last]) :
    m.ChainOutcome name (.ok parents) := by
  have hnodup : (name :: parents).Nodup := by
    rw [hpassed, ← List.concat_eq_append]
    exact h.nodup.concat hnew
  refine ⟨passed, last, h, .root hroot hpassed hnodup ?_⟩
  intro p hp
  have hmem : p ∈ passed ++ [last] := hpassed ▸ List.mem_cons_of_mem _ hp
  rcases List.mem_append.1 hmem with hp | hp
  · exact h.mem_names p hp
  · rw [List.mem_singleton.1 hp]
    exact hroot.mem_names

/-- The known names that have not been met, each once. -/
structure Unmet (m : Manifest) (met unmet : List String) : Prop where
  nodup : unmet.Nodup
  mem_iff : ∀ x, x ∈ unmet ↔ x ∈ m.names ∧ x ∉ met

theorem unmet_names (m : Manifest) : m.Unmet [] m.names where
  nodup := m.classes.nodup_keys
  mem_iff := by simp

theorem Unmet.erase {met unmet : List String} (h : m.Unmet met unmet) (next : String) :
    m.Unmet (met ++ [next]) (unmet.erase next) where
  nodup := h.nodup.erase next
  mem_iff := by
    intro x
    rw [h.nodup.mem_erase_iff, h.mem_iff, List.mem_append, List.mem_singleton]
    tauto

/-- Going on from a class that a climb has come to, when the names that have not been met are those
that the climb has neither passed nor come to. -/
theorem chainFrom_outcome {unmet : List String} {entry : ClassEntry}
    (h : m.Climb name passed last) (hget : m.classes.get? last = some entry) (hnew : last ∉ passed)
    (hunmet : m.Unmet (passed ++ [last]) unmet) :
    match m.chainFrom unmet entry with
    | .ok chain => ∀ parents, name :: parents = passed ++ [last] ++ chain.map (·.name) →
        m.ChainOutcome name (.ok parents)
    | .error e => m.ChainOutcome name (.error e) := by
  fun_induction m.chainFrom unmet entry generalizing passed last with
  | case1 unmet entry hparent =>
    intro parents hparents
    refine h.outcome_of_isRoot hnew ⟨entry, hget, hparent⟩ ?_
    rw [hparents, List.map_nil, List.append_nil]
  | case2 unmet entry next hparent hnone =>
    refine ⟨_, _, h.up hnew ⟨entry, hget, hparent⟩, .unknown ?_⟩
    rw [mem_names_iff, hnone]
    simp
  | case3 unmet entry next hparent parent hnext hmem _ chain hchain ih =>
    have hrest := ih (h.up hnew ⟨entry, hget, hparent⟩) hnext ((hunmet.mem_iff next).1 hmem).2
      (hunmet.erase next)
    rw [hchain] at hrest
    intro parents hparents
    apply hrest
    rw [hparents, List.map_cons, name_of_get? hnext, List.append_assoc _ [next]]
    rfl
  | case4 unmet entry next hparent parent hnext hmem _ e herror ih =>
    have hrest := ih (h.up hnew ⟨entry, hget, hparent⟩) hnext ((hunmet.mem_iff next).1 hmem).2
      (hunmet.erase next)
    rw [herror] at hrest
    exact hrest
  | case5 unmet entry next hparent parent hnext hmem =>
    -- The name is known, so it is missing among those not met only because it has been passed.
    refine ⟨_, _, h.up hnew ⟨entry, hget, hparent⟩, .cycle ?_⟩
    by_contra hout
    exact hmem ((hunmet.mem_iff next).2 ⟨mem_names_iff.2 ⟨parent, hnext⟩, hout⟩)

/-- The ancestors of a class are what going up from it comes to. -/
theorem outcome_parentChain (m : Manifest) (name : String) :
    m.ChainOutcome name (m.parentChain name) := by
  rw [parentChain, ancestors]
  cases hget : m.classes.get? name with
  | none =>
    have hentry : m.entry name = .error (.unknownClass name) := by
      rw [Manifest.entry, hget]
    rw [hentry]
    refine ⟨[], name, .start, .unknown ?_⟩
    rw [mem_names_iff, hget]
    simp
  | some entry =>
    rw [entry_eq_ok_iff.2 hget]
    have hrest := chainFrom_outcome .start hget List.not_mem_nil (m.unmet_names.erase name)
    change m.ChainOutcome name (do return (← m.chainFrom (m.names.erase name) entry).map (·.name))
    cases hchain : m.chainFrom (m.names.erase name) entry with
    | ok chain =>
      rw [hchain] at hrest
      exact hrest _ rfl
    | error e =>
      rw [hchain] at hrest
      exact hrest

theorem parentChain_eq_iff : m.parentChain name = result ↔ m.ChainOutcome name result := by
  constructor
  · rintro rfl
    exact m.outcome_parentChain name
  · exact (m.outcome_parentChain name).unique

/-- All ancestors of a class are found exactly when a climb comes to a class without a parent. -/
theorem parentChain_eq_ok_iff {parents : List String} :
    m.parentChain name = .ok parents ↔
      ∃ passed last, m.Climb name passed last ∧ last ∉ passed ∧ m.IsRoot last ∧
        name :: parents = passed ++ [last] := by
  rw [parentChain_eq_iff]
  constructor
  · rintro ⟨passed, last, hclimb, hending⟩
    cases hending with
    | root hroot hpassed hnodup =>
      exact ⟨passed, last, hclimb, not_mem_of_nodup_root hpassed hnodup, hroot, hpassed⟩
  · rintro ⟨passed, last, hclimb, hnew, hroot, hpassed⟩
    exact hclimb.outcome_of_isRoot hnew hroot hpassed

/-- The ancestors of a class are its parent and the ancestors of the parent. -/
theorem parentChain_eq_ok_iff_of_hasParent {parents : List String}
    (hparent : m.HasParent name parent) :
    m.parentChain name = .ok parents ↔
      ∃ rest, parents = parent :: rest ∧ m.parentChain parent = .ok rest := by
  simp only [parentChain_eq_ok_iff]
  constructor
  · rintro ⟨passed, last, hclimb, hnew, hroot, hpassed⟩
    rcases hclimb.to_parent hparent with ⟨-, rfl⟩ | ⟨rest, rfl, hrest⟩
    · exact absurd hparent hroot.not_hasParent
    · obtain ⟨tail, htail⟩ := List.head?_eq_some_iff.1 hrest.head?_eq
      have hparents : parents = rest ++ [last] := (List.cons.inj hpassed).2
      exact ⟨tail, hparents.trans htail, rest, last, hrest, List.not_mem_of_not_mem_cons hnew,
        hroot, htail.symm⟩
  · rintro ⟨rest, rfl, passed, last, hclimb, hnew, hroot, hpassed⟩
    -- Passing the class on the way up from its parent would lead back to the parent.
    have hname : name ∉ passed := fun hmem => hnew (hclimb.mem_of_child hmem hparent)
    have hne : last ≠ name := by
      rintro rfl
      exact hroot.not_hasParent hparent
    exact ⟨name :: passed, last, hclimb.of_parent hparent hname,
      List.not_mem_cons_of_ne_of_not_mem hne hnew, hroot, congrArg _ hpassed⟩

/-! ### Looking classes up -/

/-- The ownership of a class that was found is found too, whatever bodies have been read. -/
theorem ownership_of_load {registry : Registry} {view : View}
    (h : View.load registry m name = .ok view) (bodies : SortedMap String) :
    ∃ o, View.ownership { view with bodies } = .ok o := by
  cases hs : m.snapshot name with
  | error e =>
    rw [View.load, hs] at h
    cases h
  | ok s =>
    rw [View.load, hs] at h
    obtain rfl := Except.ok.inj h
    obtain ⟨entry, chain, hlineage, rfl⟩ := snapshot_eq_ok_iff.1 hs
    have hchain : m.parentChain (m.snapshotOf entry chain).name = .ok (chain.map (·.name)) := by
      rw [← hlineage.parentChain_eq, ← hlineage.entry_name]
      rfl
    refine ⟨.resolve (m.snapshotOf entry chain) (chain.map (·.name)), ?_⟩
    rw [View.ownership, View.name, hchain]
    rfl

/-- What the ancestors of a class are, for every way in which parent links can lead: they are what
going up from the class comes to, they follow from those of the parent, and a class with its methods
by owner is found exactly when they are, since looking them up again by their names never fails. -/
theorem parentChain_exact (m : Manifest) (name : String) :
    (∀ passed last, m.Climb name passed last → passed.length ≤ m.names.length) ∧
    (∀ result, m.parentChain name = result ↔ m.ChainOutcome name result) ∧
    (∀ parent, m.HasParent name parent →
      ((∃ parents, m.parentChain name = .ok parents) ↔ ∃ rest, m.parentChain parent = .ok rest) ∧
      ∀ rest, m.parentChain parent = .ok rest → m.parentChain name = .ok (parent :: rest)) ∧
    (∀ parents, m.parentChain name = .ok parents → ∃ chain, parents.mapM m.entry = .ok chain) ∧
    (∀ e, m.snapshot name = .error e ↔ m.parentChain name = .error e) ∧
    (∀ registry view, View.load registry m name = .ok view →
      ∀ bodies, ∃ o, View.ownership { view with bodies } = .ok o) := by
  refine ⟨fun _ _ hclimb => hclimb.length_le, fun _ => parentChain_eq_iff, ?_,
    fun _ => exists_mapM_entry_of_parentChain, fun _ => snapshot_eq_error_iff,
    fun _ _ => ownership_of_load⟩
  intro parent hparent
  have hok (parents : List String) : m.parentChain name = .ok parents ↔
      ∃ rest, parents = parent :: rest ∧ m.parentChain parent = .ok rest :=
    parentChain_eq_ok_iff_of_hasParent hparent
  refine ⟨⟨?_, ?_⟩, fun rest hrest => (hok _).2 ⟨rest, rfl, hrest⟩⟩
  · rintro ⟨parents, hparents⟩
    obtain ⟨rest, -, hrest⟩ := (hok parents).1 hparents
    exact ⟨rest, hrest⟩
  · rintro ⟨rest, hrest⟩
    exact ⟨parent :: rest, (hok _).2 ⟨rest, rfl, hrest⟩⟩

end ClassDocs.Manifest
