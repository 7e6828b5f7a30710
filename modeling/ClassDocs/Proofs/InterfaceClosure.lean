import ClassDocs.Proofs.ParentChain
import Mathlib.Data.List.Perm.Subperm
import Mathlib.Logic.Relation

/-!
# Interfaces with those that they extend

The interfaces of a class are the names that can be reached by naming interfaces, from the class or
from one of its ancestors. They are listed depth first, each once, and a listed name is not looked
into again. Links may lead in circles: the names that are listed and those that still have to be
looked at contain all that is named by a listed one, so nothing is lost. Without circles a name that
is met again has all that it extends in the list already, which makes the list what remains of all
ways through the links when repetitions are left out.

## Main definitions

* `Manifest.interfacesOf`, `Manifest.HasInterface`: what a class names itself.
* `Manifest.Expands`: interfaces, each followed by everything it extends, with repetitions.
* `Manifest.Rooted`: names that stand after others from which they can be reached.
* `Manifest.addName`: lists a name once.

## Main results

* `Manifest.closure_induction`: one step of listing.
* `Manifest.mem_interfaceClosure_iff`, `Manifest.nodup_interfaceClosure`: what is listed.
* `Manifest.rooted_interfaceClosure`: in which order names are listed.
* `Manifest.closureFrom_append`: looking at some names after others.
* `Manifest.closureFrom_eq_foldl_addName`: the list without circles.
* `Manifest.exists_expands`: without circles there are finitely many ways through the links.
* `Manifest.snapshot_interfaces`: the interfaces of a class that is found.
-/

namespace ClassDocs.Manifest

open Relation (ReflTransGen TransGen)

variable {m : Manifest} {name x y : String} {listed pending : List String}

/-- The interfaces that a class names itself, none when it is not known. -/
def interfacesOf (m : Manifest) (name : String) : List String :=
  match m.classes.get? name with
  | some entry => entry.interfaces
  | none => []

/-- A class or interface names an interface. -/
def HasInterface (m : Manifest) (owner interface : String) : Prop :=
  interface ∈ m.interfacesOf owner

theorem interfacesOf_of_get? {entry : ClassEntry} (h : m.classes.get? name = some entry) :
    m.interfacesOf name = entry.interfaces := by
  rw [interfacesOf, h]

theorem hasInterface_iff :
    m.HasInterface x y ↔ ∃ entry, m.classes.get? x = some entry ∧ y ∈ entry.interfaces := by
  rw [HasInterface, interfacesOf]
  cases m.classes.get? x <;> simp

/-! ### Listing names -/

@[simp] theorem closureFrom_nil (m : Manifest) (listed : List String) :
    m.closureFrom listed [] = listed := by
  rw [closureFrom]

theorem closureFrom_skip (hmem : name ∈ listed) (rest : List String) :
    m.closureFrom listed (name :: rest) = m.closureFrom listed rest := by
  rw [closureFrom, dif_pos hmem]

theorem closureFrom_expand (hnew : name ∉ listed) (rest : List String) :
    m.closureFrom listed (name :: rest) =
      m.closureFrom (listed ++ [name]) (m.interfacesOf name ++ rest) := by
  rw [closureFrom, dif_neg hnew, interfacesOf]
  split <;> simp_all

/-- One step of listing: a name that is listed is passed over, and one that is not is listed and
makes way for the interfaces that it names. -/
theorem closure_induction (m : Manifest) {motive : List String → List String → Prop}
    (nil : ∀ listed, motive listed [])
    (skip : ∀ listed name rest, name ∈ listed → motive listed rest → motive listed (name :: rest))
    (expand : ∀ listed name rest, name ∉ listed →
      motive (listed ++ [name]) (m.interfacesOf name ++ rest) → motive listed (name :: rest))
    (listed pending : List String) : motive listed pending := by
  induction listed, pending using closureFrom.induct m with
  | case1 listed => exact nil listed
  | case2 listed name rest hmem ih => exact skip listed name rest hmem ih
  | case3 listed name rest hnew entry hget _ ih =>
    refine expand listed name rest hnew ?_
    rwa [interfacesOf_of_get? hget]
  | case4 listed name rest hnew hget ih =>
    refine expand listed name rest hnew ?_
    rwa [interfacesOf, hget]

/-- Looking at some names and then at others is looking at all of them. -/
theorem closureFrom_append (m : Manifest) (listed pending others : List String) :
    m.closureFrom listed (pending ++ others) =
      m.closureFrom (m.closureFrom listed pending) others := by
  induction listed, pending using m.closure_induction with
  | nil listed => rw [closureFrom_nil, List.nil_append]
  | skip listed name rest hmem ih =>
    rw [List.cons_append, closureFrom_skip hmem, closureFrom_skip hmem, ih]
  | expand listed name rest hnew ih =>
    rw [List.cons_append, closureFrom_expand hnew, closureFrom_expand hnew, ← ih, List.append_assoc]

theorem nodup_closureFrom (hlisted : listed.Nodup) (pending : List String) :
    (m.closureFrom listed pending).Nodup := by
  induction listed, pending using m.closure_induction with
  | nil listed => rwa [closureFrom_nil]
  | skip listed name rest hmem ih =>
    rw [closureFrom_skip hmem]
    exact ih hlisted
  | expand listed name rest hnew ih =>
    rw [closureFrom_expand hnew]
    apply ih
    rw [← List.concat_eq_append]
    exact hlisted.concat hnew

/-- What is listed was listed before or can be reached from a name that was looked at. -/
theorem reaches_of_mem_closureFrom (h : x ∈ m.closureFrom listed pending) :
    x ∈ listed ∨ ∃ i ∈ pending, ReflTransGen m.HasInterface i x := by
  induction listed, pending using m.closure_induction with
  | nil listed =>
    rw [closureFrom_nil] at h
    exact .inl h
  | skip listed name rest hmem ih =>
    rw [closureFrom_skip hmem] at h
    rcases ih h with hx | ⟨i, hi, hreach⟩
    · exact .inl hx
    · exact .inr ⟨i, List.mem_cons_of_mem _ hi, hreach⟩
  | expand listed name rest hnew ih =>
    rw [closureFrom_expand hnew] at h
    rcases ih h with hx | ⟨i, hi, hreach⟩
    · rcases List.mem_append.1 hx with hx | hx
      · exact .inl hx
      · rw [List.mem_singleton.1 hx]
        exact .inr ⟨name, List.mem_cons_self, .refl⟩
    · rcases List.mem_append.1 hi with hi | hi
      · exact .inr ⟨name, List.mem_cons_self, hreach.head hi⟩
      · exact .inr ⟨i, List.mem_cons_of_mem _ hi, hreach⟩

/-- Names that are listed or looked at are listed in the end. -/
theorem mem_closureFrom (h : x ∈ listed ∨ x ∈ pending) : x ∈ m.closureFrom listed pending := by
  induction listed, pending using m.closure_induction with
  | nil listed =>
    rw [closureFrom_nil]
    simpa using h
  | skip listed name rest hmem ih =>
    rw [closureFrom_skip hmem]
    apply ih
    rcases h with h | h
    · exact .inl h
    · rcases List.mem_cons.1 h with rfl | h
      · exact .inl hmem
      · exact .inr h
  | expand listed name rest hnew ih =>
    rw [closureFrom_expand hnew]
    apply ih
    simp only [List.mem_append, List.mem_cons] at h ⊢
    tauto

/-- What a listed name names is listed in the end, when it is listed or looked at before. -/
theorem mem_closureFrom_of_hasInterface
    (hfrontier : ∀ i ∈ listed, ∀ j, m.HasInterface i j → j ∈ listed ∨ j ∈ pending)
    (hx : x ∈ m.closureFrom listed pending) (hxy : m.HasInterface x y) :
    y ∈ m.closureFrom listed pending := by
  induction listed, pending using m.closure_induction with
  | nil listed =>
    rw [closureFrom_nil] at hx ⊢
    simpa using hfrontier x hx y hxy
  | skip listed name rest hmem ih =>
    rw [closureFrom_skip hmem] at hx ⊢
    refine ih (fun i hi j hij => ?_) hx
    rcases hfrontier i hi j hij with hj | hj
    · exact .inl hj
    · rcases List.mem_cons.1 hj with rfl | hj
      · exact .inl hmem
      · exact .inr hj
  | expand listed name rest hnew ih =>
    rw [closureFrom_expand hnew] at hx ⊢
    refine ih (fun i hi j hij => ?_) hx
    rcases List.mem_append.1 hi with hi | hi
    · have hj := hfrontier i hi j hij
      simp only [List.mem_append, List.mem_cons] at hj ⊢
      tauto
    · rw [List.mem_singleton.1 hi] at hij
      exact .inr (List.mem_append_left _ hij)

theorem nodup_interfaceClosure (m : Manifest) (declared : List String) :
    (m.interfaceClosure declared).Nodup :=
  nodup_closureFrom List.nodup_nil declared

/-- What is listed from some names on is what can be reached from them. -/
theorem mem_interfaceClosure_iff {declared : List String} :
    x ∈ m.interfaceClosure declared ↔ ∃ i ∈ declared, ReflTransGen m.HasInterface i x := by
  constructor
  · intro h
    rcases reaches_of_mem_closureFrom h with hx | hreach
    · cases hx
    · exact hreach
  · rintro ⟨i, hi, hreach⟩
    induction hreach with
    | refl => exact mem_closureFrom (.inr hi)
    | tail _ hstep ih =>
      exact mem_closureFrom_of_hasInterface (fun _ hnone => nomatch hnone) ih hstep

/-- Every name in a list is one of some names, or can be reached from one of them that stands before
it in the list. -/
def Rooted (m : Manifest) (declared listed : List String) : Prop :=
  ∀ before x after, listed = before ++ x :: after →
    x ∈ declared ∨ ∃ d ∈ before, d ∈ declared ∧ TransGen m.HasInterface d x

theorem Rooted.concat {declared : List String} (h : m.Rooted declared listed)
    (hx : x ∈ declared ∨ ∃ d ∈ listed, d ∈ declared ∧ TransGen m.HasInterface d x) :
    m.Rooted declared (listed ++ [x]) := by
  intro before z after heq
  rcases List.eq_nil_or_concat after with rfl | ⟨rest, last, rfl⟩
  · obtain ⟨rfl, hz⟩ := List.append_inj' heq rfl
    obtain rfl := List.singleton_inj.1 hz
    exact hx
  · rw [List.concat_eq_append, ← List.cons_append, ← List.append_assoc] at heq
    exact h before z rest (List.append_inj' heq rfl).1

/-- Names are listed after one of those that listing began with, from which they can be reached. -/
theorem rooted_closureFrom {declared : List String} (hlisted : m.Rooted declared listed)
    (hpending : ∀ x ∈ pending, x ∈ declared ∨
      ∃ d ∈ listed, d ∈ declared ∧ TransGen m.HasInterface d x) :
    m.Rooted declared (m.closureFrom listed pending) := by
  induction listed, pending using m.closure_induction with
  | nil listed => rwa [closureFrom_nil]
  | skip listed name rest hmem ih =>
    rw [closureFrom_skip hmem]
    exact ih hlisted fun x hx => hpending x (List.mem_cons_of_mem _ hx)
  | expand listed name rest hnew ih =>
    rw [closureFrom_expand hnew]
    have hname := hpending name List.mem_cons_self
    refine ih (hlisted.concat hname) fun x hx => ?_
    rcases List.mem_append.1 hx with hx | hx
    · -- What the name leads to is reached from where the name itself is reached from.
      right
      rcases hname with hname | ⟨d, hd, hdeclared, hreach⟩
      · exact ⟨name, List.mem_append_right _ List.mem_cons_self, hname, .single hx⟩
      · exact ⟨d, List.mem_append_left _ hd, hdeclared, hreach.tail hx⟩
    · rcases hpending x (List.mem_cons_of_mem _ hx) with hx | ⟨d, hd, hdeclared, hreach⟩
      · exact .inl hx
      · exact .inr ⟨d, List.mem_append_left _ hd, hdeclared, hreach⟩

theorem rooted_interfaceClosure (m : Manifest) (declared : List String) :
    m.Rooted declared (m.interfaceClosure declared) :=
  rooted_closureFrom (fun _ _ _ heq => absurd heq (by simp)) fun _ => .inl

/-! ### All ways through the links -/

/-- Interfaces, each followed by everything that it extends, directly or not, with repetitions. -/
inductive Expands (m : Manifest) : List String → List String → Prop
  | nil : Expands m [] []
  | cons {name : String} {rest inner outer : List String}
      (hinner : Expands m (m.interfacesOf name) inner) (houter : Expands m rest outer) :
      Expands m (name :: rest) (name :: (inner ++ outer))

namespace Expands

variable {all : List String}

theorem unique {all' : List String} (h : m.Expands pending all) (h' : m.Expands pending all') :
    all = all' := by
  induction h generalizing all' with
  | nil =>
    cases h'
    rfl
  | cons _ _ ihinner ihouter =>
    cases h' with
    | cons hinner' houter' => rw [ihinner hinner', ihouter houter']

theorem subset (h : m.Expands pending all) : pending ⊆ all := by
  induction h with
  | nil => exact List.Subset.refl _
  | cons _ _ _ ihouter =>
    exact List.cons_subset_cons _ (List.Subset.trans ihouter (List.subset_append_right _ _))

theorem reaches (h : m.Expands pending all) (hx : x ∈ all) :
    ∃ i ∈ pending, ReflTransGen m.HasInterface i x := by
  induction h with
  | nil => cases hx
  | cons _ _ ihinner ihouter =>
    rcases List.mem_cons.1 hx with rfl | hx
    · exact ⟨x, List.mem_cons_self, .refl⟩
    · rcases List.mem_append.1 hx with hx | hx
      · obtain ⟨i, hi, hreach⟩ := ihinner hx
        exact ⟨_, List.mem_cons_self, hreach.head hi⟩
      · obtain ⟨i, hi, hreach⟩ := ihouter hx
        exact ⟨i, List.mem_cons_of_mem _ hi, hreach⟩

/-- What an interface names follows wherever the interface stands. -/
theorem mem_of_hasInterface (h : m.Expands pending all) (hx : x ∈ all)
    (hxy : m.HasInterface x y) : y ∈ all := by
  induction h with
  | nil => cases hx
  | cons hinner _ ihinner ihouter =>
    rcases List.mem_cons.1 hx with rfl | hx
    · exact List.mem_cons_of_mem _ (List.mem_append_left _ (hinner.subset hxy))
    · rcases List.mem_append.1 hx with hx | hx
      · exact List.mem_cons_of_mem _ (List.mem_append_left _ (ihinner hx))
      · exact List.mem_cons_of_mem _ (List.mem_append_right _ (ihouter hx))

/-- Names with everything they extend are in a list that has the names and, with a name, what that
one names. -/
theorem subset_of_closed (h : m.Expands pending all) (hpending : pending ⊆ listed)
    (hclosed : ∀ x ∈ all, x ∈ listed → ∀ y, m.HasInterface x y → y ∈ listed) : all ⊆ listed := by
  induction h with
  | nil => exact List.nil_subset _
  | cons _ _ ihinner ihouter =>
    obtain ⟨hname, hrest⟩ := List.cons_subset.1 hpending
    refine List.cons_subset.2 ⟨hname, List.append_subset.2 ⟨?_, ?_⟩⟩
    · refine ihinner (fun y hy => hclosed _ List.mem_cons_self hname y hy) fun x hx => ?_
      exact hclosed x (List.mem_cons_of_mem _ (List.mem_append_left _ hx))
    · refine ihouter hrest fun x hx => ?_
      exact hclosed x (List.mem_cons_of_mem _ (List.mem_append_right _ hx))

end Expands

/-- Lists a name, when it is not listed yet. -/
def addName (listed : List String) (name : String) : List String :=
  if name ∈ listed then listed else listed ++ [name]

theorem foldl_addName_of_subset {names : List String} (h : names ⊆ listed) :
    names.foldl addName listed = listed := by
  induction names with
  | nil => rfl
  | cons name rest ih =>
    obtain ⟨hname, hrest⟩ := List.cons_subset.1 h
    rw [List.foldl_cons, addName, if_pos hname, ih hrest]

theorem mem_foldl_addName {names : List String} :
    x ∈ names.foldl addName listed ↔ x ∈ listed ∨ x ∈ names := by
  induction names generalizing listed with
  | nil => simp
  | cons name rest ih =>
    rw [List.foldl_cons, ih, addName]
    split_ifs with hname
    · rw [List.mem_cons]
      refine ⟨Or.imp_right .inr, ?_⟩
      rintro (hx | rfl | hx)
      · exact .inl hx
      · exact .inl hname
      · exact .inr hx
    · rw [List.mem_append, List.mem_singleton, List.mem_cons, or_assoc]

/-- Listing names one after the other lists their first occurrences. -/
theorem foldl_addName_eq (names listed : List String) :
    names.foldl addName listed = listed ++ (names.removeAll listed).eraseDups := by
  induction names generalizing listed with
  | nil => simp
  | cons name rest ih =>
    rw [List.foldl_cons, ih, addName, List.cons_removeAll]
    by_cases hmem : name ∈ listed
    · simp [hmem]
    · have hfilter : (rest.removeAll listed).filter (fun other => !other == name) =
          rest.removeAll (listed ++ [name]) := by
        rw [List.removeAll, List.removeAll, List.filter_filter]
        congr 1
        funext other
        simp [Bool.and_comm, Bool.beq_eq_decide_eq]
      rw [if_neg hmem, if_pos (by simpa using hmem), List.eraseDups_cons, hfilter,
        List.append_assoc]
      rfl

/-- Without circles among the names that are met, listing them adds the first occurrences of all
that they lead to. The list has, with a name that is met again, all that this name extends. -/
theorem closureFrom_eq_foldl_addName {all : List String} (h : m.Expands pending all)
    (hacyclic : ∀ x ∈ all, ¬ TransGen m.HasInterface x x)
    (hclosed : ∀ x ∈ all, x ∈ listed → ∀ y, m.HasInterface x y → y ∈ listed) :
    m.closureFrom listed pending = all.foldl addName listed := by
  induction h generalizing listed with
  | nil => simp
  | @cons name rest inner outer hinner houter ihinner ihouter =>
    have hin : ∀ x ∈ inner, x ∈ name :: (inner ++ outer) := fun x hx =>
      List.mem_cons_of_mem _ (List.mem_append_left _ hx)
    have hout : ∀ x ∈ outer, x ∈ name :: (inner ++ outer) := fun x hx =>
      List.mem_cons_of_mem _ (List.mem_append_right _ hx)
    rw [List.foldl_cons, List.foldl_append, addName]
    by_cases hmem : name ∈ listed
    · have hsubset : inner ⊆ listed :=
        hinner.subset_of_closed (hclosed name List.mem_cons_self hmem) fun x hx =>
          hclosed x (hin x hx)
      rw [closureFrom_skip hmem, if_pos hmem, foldl_addName_of_subset hsubset]
      exact ihouter (fun x hx => hacyclic x (hout x hx)) fun x hx => hclosed x (hout x hx)
    · -- The name itself is not met among those that it leads to.
      have hname : name ∉ inner := fun hself => by
        obtain ⟨i, hi, hreach⟩ := hinner.reaches hself
        exact hacyclic name List.mem_cons_self (TransGen.head' hi hreach)
      have hlist : m.closureFrom (listed ++ [name]) (m.interfacesOf name) =
          inner.foldl addName (listed ++ [name]) := by
        refine ihinner (fun x hx => hacyclic x (hin x hx)) fun x hx hold y hxy => ?_
        rcases List.mem_append.1 hold with hold | hself
        · exact List.mem_append_left _ (hclosed x (hin x hx) hold y hxy)
        · exact absurd (List.mem_singleton.1 hself ▸ hx) hname
      rw [closureFrom_expand hmem, if_neg hmem, closureFrom_append, hlist]
      refine ihouter (fun x hx => hacyclic x (hout x hx)) fun x hx hold y hxy => ?_
      rw [mem_foldl_addName, List.mem_append, List.mem_singleton] at hold ⊢
      rcases hold with (hold | rfl) | hold
      · exact .inl (.inl (hclosed x (hout x hx) hold y hxy))
      · exact .inr (hinner.subset hxy)
      · exact .inr (hinner.mem_of_hasInterface hold hxy)

theorem interfaceClosure_eq_eraseDups {declared all : List String} (h : m.Expands declared all)
    (hacyclic : ∀ x ∈ all, ¬ TransGen m.HasInterface x x) :
    m.interfaceClosure declared = all.eraseDups := by
  rw [interfaceClosure, closureFrom_eq_foldl_addName h hacyclic
    (fun _ _ hnone => absurd hnone List.not_mem_nil), foldl_addName_eq, List.removeAll_nil,
    List.nil_append]

/-- An interface that is not on a circle leads to more names than any that it names. -/
theorem length_interfaceClosure_lt (hxy : m.HasInterface x y)
    (hacyclic : ¬ TransGen m.HasInterface x x) :
    (m.interfaceClosure [y]).length < (m.interfaceClosure [x]).length := by
  have hx : x ∉ m.interfaceClosure [y] := by
    intro hmem
    obtain ⟨i, hi, hreach⟩ := mem_interfaceClosure_iff.1 hmem
    rw [List.mem_singleton.1 hi] at hreach
    exact hacyclic (TransGen.head' hxy hreach)
  have hsubset : x :: m.interfaceClosure [y] ⊆ m.interfaceClosure [x] := by
    refine List.cons_subset.2 ⟨mem_interfaceClosure_iff.2 ⟨x, List.mem_cons_self, .refl⟩, ?_⟩
    intro z hz
    obtain ⟨i, hi, hreach⟩ := mem_interfaceClosure_iff.1 hz
    rw [List.mem_singleton.1 hi] at hreach
    exact mem_interfaceClosure_iff.2 ⟨x, List.mem_cons_self, hreach.head hxy⟩
  have hnodup := List.nodup_cons.2 ⟨hx, m.nodup_interfaceClosure [y]⟩
  exact (hnodup.subperm hsubset).length_le

theorem exists_expands_of_forall
    (h : ∀ i ∈ pending, ∃ inner, m.Expands (m.interfacesOf i) inner) :
    ∃ all, m.Expands pending all := by
  induction pending with
  | nil => exact ⟨[], .nil⟩
  | cons name rest ih =>
    obtain ⟨inner, hinner⟩ := h name List.mem_cons_self
    obtain ⟨outer, houter⟩ := ih fun i hi => h i (List.mem_cons_of_mem _ hi)
    exact ⟨_, .cons hinner houter⟩

/-- Without circles there are finitely many ways through the links. -/
theorem exists_expands
    (hacyclic : ∀ i ∈ pending, ∀ x, ReflTransGen m.HasInterface i x →
      ¬ TransGen m.HasInterface x x) :
    ∃ all, m.Expands pending all := by
  -- By induction on how many names an interface leads to.
  have hone (n : Nat) : ∀ i, (m.interfaceClosure [i]).length = n →
      (∀ x, ReflTransGen m.HasInterface i x → ¬ TransGen m.HasInterface x x) →
      ∃ inner, m.Expands (m.interfacesOf i) inner := by
    induction n using Nat.strongRecOn with
    | ind n ih =>
      intro i hn hi
      apply exists_expands_of_forall
      intro j hij
      refine ih _ ?_ j rfl fun x hx => hi x (hx.head hij)
      rw [← hn]
      exact length_interfaceClosure_lt hij (hi i .refl)
  exact exists_expands_of_forall fun i hi => hone _ i rfl (hacyclic i hi)

/-! ### The interfaces of a class -/

variable {entry : ClassEntry} {chain : List ClassEntry}

/-- What the classes of a lineage name is found under their names. -/
theorem Lineage.flatMap_interfaces (h : m.Lineage name entry chain) :
    (entry :: chain).flatMap (·.interfaces) =
      (name :: chain.map (·.name)).flatMap m.interfacesOf := by
  rw [h.names_eq, List.flatMap_map]
  refine List.flatMap_congr fun c hc => ?_
  exact (interfacesOf_of_get? (h.get?_name c hc)).symm

theorem Lineage.interfaces_eq (h : m.Lineage name entry chain) :
    (m.snapshotOf entry chain).interfaces =
      m.interfaceClosure ((name :: chain.map (·.name)).flatMap m.interfacesOf) := by
  rw [← h.flatMap_interfaces]
  rfl

/-- The interfaces of a class are what can be reached from it or one of its ancestors. -/
theorem Lineage.mem_interfaces_iff (h : m.Lineage name entry chain) :
    x ∈ (m.snapshotOf entry chain).interfaces ↔
      ∃ c ∈ name :: chain.map (·.name), TransGen m.HasInterface c x := by
  rw [h.interfaces_eq, mem_interfaceClosure_iff]
  constructor
  · rintro ⟨i, hi, hreach⟩
    obtain ⟨c, hc, hci⟩ := List.mem_flatMap.1 hi
    exact ⟨c, hc, TransGen.head' hci hreach⟩
  · rintro ⟨c, hc, hreach⟩
    obtain ⟨i, hci, hreach⟩ := TransGen.head'_iff.1 hreach
    exact ⟨i, List.mem_flatMap.2 ⟨c, hc, hci⟩, hreach⟩

/-- The interfaces of a class that is found: each once, all that can be reached by naming interfaces
from the class or one of its ancestors, and, when no interface leads back to itself, in the order in
which they first occur on all ways through the links. -/
theorem snapshot_interfaces (m : Manifest) (name : String) (s : Snapshot)
    (h : m.snapshot name = .ok s) :
    ∃ parents, m.parentChain name = .ok parents ∧ s.interfaces.Nodup ∧
      (∀ x, x ∈ s.interfaces ↔ ∃ c ∈ name :: parents, TransGen m.HasInterface c x) ∧
      ((∀ x ∈ s.interfaces, ¬ TransGen m.HasInterface x x) →
        (∃! all, m.Expands ((name :: parents).flatMap m.interfacesOf) all) ∧
        ∀ all, m.Expands ((name :: parents).flatMap m.interfacesOf) all →
          s.interfaces = all.eraseDups) := by
  obtain ⟨entry, chain, hlineage, rfl⟩ := snapshot_eq_ok_iff.1 h
  refine ⟨chain.map (·.name), hlineage.parentChain_eq, m.nodup_interfaceClosure _,
    fun _ => hlineage.mem_interfaces_iff, fun hacyclic => ⟨?_, fun all hall => ?_⟩⟩
  · simp only [hlineage.interfaces_eq, mem_interfaceClosure_iff] at hacyclic
    obtain ⟨all, hall⟩ := exists_expands fun i hi x hreach => hacyclic x ⟨i, hi, hreach⟩
    exact ⟨all, hall, fun all' hall' => hall'.unique hall⟩
  · rw [hlineage.interfaces_eq] at hacyclic ⊢
    refine interfaceClosure_eq_eraseDups hall fun x hx => ?_
    exact hacyclic x (mem_interfaceClosure_iff.2 (hall.reaches hx))

/-- A class that names an interface of its parent again. -/
def fileChild : ClassEntry :=
  { name := "BufferedFile", parent := some "File", interfaces := ["Readable", "Seekable"]
    methods := [{ name := "flush" }] }

/-- A class with an interface that is not known. -/
def fileParent : ClassEntry :=
  { name := "File", interfaces := ["Readable", "Stream"], methods := [{ name := "read" }] }

/-- An interface that extends another. -/
def fileReadable : ClassEntry :=
  { name := "Readable", kind := .interfaceKind, interfaces := ["Source"]
    methods := [{ name := "read" }] }

/-- An interface that extends two others. -/
def fileSeekable : ClassEntry :=
  { name := "Seekable", kind := .interfaceKind, interfaces := ["Source", "Stream"]
    methods := [{ name := "seek" }] }

/-- An interface that two others extend. -/
def fileSource : ClassEntry :=
  { name := "Source", kind := .interfaceKind, methods := [{ name := "close" }] }

/-- Sample classes with interfaces that extend others. -/
def files : Manifest :=
  ((((empty.put fileChild).put fileParent).put fileReadable).put fileSeekable).put fileSource

theorem lineage_files : files.Lineage "BufferedFile" fileChild [fileParent] :=
  .of_chainFrom (by decide)
    (chainFrom_parent rfl (by decide) (by decide) (files.chainFrom_root _ rfl))

/-- In the sample every interface comes after what names it, in the order of names. -/
theorem lt_of_hasInterface_files (h : files.HasInterface x y) : x < y := by
  have hentries : ∀ e ∈ files.classes.entries, ∀ i ∈ e.2.interfaces, e.1 < i := by decide
  obtain ⟨entry, hget, hy⟩ := hasInterface_iff.1 h
  exact hentries (x, entry) (SortedMap.get?_eq_some_iff.1 hget) y hy

theorem not_transGen_files (x : String) : ¬ TransGen files.HasInterface x x := by
  have hlt {a b : String} (h : TransGen files.HasInterface a b) : a < b := by
    induction h with
    | single hstep => exact lt_of_hasInterface_files hstep
    | tail _ hstep ih => exact String.lt_trans ih (lt_of_hasInterface_files hstep)
  exact fun h => String.lt_irrefl x (hlt h)

/-- All ways through the links of the sample, from a class and its parent. -/
theorem expands_files :
    files.Expands (["BufferedFile", "File"].flatMap files.interfacesOf)
      ["Readable", "Source", "Seekable", "Source", "Stream", "Readable", "Source", "Stream"] := by
  have hleaf (name : String) (hnone : files.interfacesOf name = []) {rest outer : List String}
      (houter : files.Expands rest outer) : files.Expands (name :: rest) (name :: outer) := by
    have hinner : files.Expands (files.interfacesOf name) [] := by
      rw [hnone]
      exact .nil
    exact .cons hinner houter
  have hsource : files.Expands (files.interfacesOf "Readable") ["Source"] :=
    hleaf "Source" (by decide) .nil
  have hboth : files.Expands (files.interfacesOf "Seekable") ["Source", "Stream"] :=
    hleaf "Source" (by decide) (hleaf "Stream" (by decide) .nil)
  exact .cons hsource (.cons hboth (.cons hsource (hleaf "Stream" (by decide) .nil)))

/-- The interfaces of a class with two interfaces that extend a third. -/
theorem snapshot_interfaces_files :
    ∃ s, files.snapshot "BufferedFile" = .ok s ∧
      (∀ x ∈ s.interfaces, ¬ TransGen files.HasInterface x x) ∧
      s.interfaces = ["Readable", "Source", "Seekable", "Stream"] := by
  have hs := lineage_files.snapshot_eq
  obtain ⟨parents, hparents, -, -, hacyclic⟩ := snapshot_interfaces files "BufferedFile" _ hs
  obtain rfl : ["File"] = parents :=
    Except.ok.inj (lineage_files.parentChain_eq.symm.trans hparents)
  refine ⟨_, hs, fun x _ => not_transGen_files x, ?_⟩
  exact (hacyclic fun x _ => not_transGen_files x).2 _ expands_files

end ClassDocs.Manifest
