import ClassDocs.Class.View
import ClassDocs.Proofs.Flattening

/-!
# Who owns the methods of a class

The ancestors of a class take the methods that they declare, from the root on, and the class keeps
the rest. The methods of a class that a manifest finds stand under their own names and its ancestors
are distinct, so each ancestor takes exactly the methods whose declaring class it is.

## Main definitions

* `SortedMap.NamedByKey`: methods that stand under their own names.
* `Ownership.claimant`: the class that owns a method.
* `Manifest.OwnedByNearest`: what the ownership of a class that is found is like.

## Main results

* `Ownership.take_empty`: taking methods one after the other parts them by their keys.
* `Ownership.get?_of_mem_claim`, `Ownership.get?_claim_left`: what each ancestor takes and what is
  left.
* `Ownership.get?_of_mem_buckets`: every bucket holds the methods that its class owns.
* `Manifest.Lineage.claimant_eq`: a method is owned by the nearest class that has an entry of it.
* `Manifest.ownership_of_snapshot`: the ownership of a class that a manifest finds.
-/

namespace ClassDocs

/-- Methods that stand under their own names. -/
def SortedMap.NamedByKey (methods : SortedMap Method) : Prop :=
  ∀ key a, methods.get? key = some a → a.name = key

theorem SortedMap.NamedByKey.filter {methods : SortedMap Method} (h : methods.NamedByKey)
    (p : String → Method → Bool) : (methods.filter p).NamedByKey := by
  intro key a ha
  rw [get?_filter] at ha
  exact h key a (Option.filter_eq_some_iff.1 ha).1

/-! ### Claims of the ancestors -/

namespace Ownership

variable {methods : SortedMap Method} {owner key : String}

/-- After some names have been taken, what stood under one of them has been claimed. A name that
comes twice finds nothing the second time, and what it found the first time stays. -/
theorem get?_take (claimed unclaimed : SortedMap Method) (names : List String) (key : String) :
    (take claimed unclaimed names).1.get? key =
        (if names.contains key then (unclaimed.get? key).or (claimed.get? key)
          else claimed.get? key) ∧
      (take claimed unclaimed names).2.get? key =
        if names.contains key then none else unclaimed.get? key := by
  induction names generalizing claimed unclaimed with
  | nil => exact ⟨rfl, rfl⟩
  | cons name rest ih =>
    rw [take, List.contains_cons]
    by_cases hkey : key = name
    · subst hkey
      cases hfound : unclaimed.get? key with
      | none => simp [ih, hfound]
      | some method => simp [ih, SortedMap.get?_insert, SortedMap.get?_erase]
    · rw [beq_false_of_ne hkey, Bool.false_or]
      cases unclaimed.get? name with
      | none => exact ih claimed unclaimed
      | some method =>
        simp only [ih, SortedMap.get?_insert, SortedMap.get?_erase, if_neg hkey, and_self]

/-- Taking methods one after the other parts them into those under the names and the others. -/
theorem take_empty (unclaimed : SortedMap Method) (names : List String) :
    take .empty unclaimed names =
      (unclaimed.filter fun key _ => names.contains key,
        unclaimed.filter fun key _ => !names.contains key) := by
  refine Prod.ext (SortedMap.ext_get? fun key => ?_) (SortedMap.ext_get? fun key => ?_)
  · rw [(get?_take _ _ _ key).1, SortedMap.get?_filter, SortedMap.get?_empty, Option.or_none]
    cases unclaimed.get? key <;> simp [Option.filter_some]
  · rw [(get?_take _ _ _ key).2, SortedMap.get?_filter]
    cases unclaimed.get? key <;> simp [Option.filter_some]

theorem claim_cons (methods : SortedMap Method) (owner : String) (rest : List String) :
    claim methods (owner :: rest) =
      let names := declaredBy owner methods
      let bucket := ⟨owner, methods.filter fun key _ => names.contains key⟩
      let (buckets, left) := claim (methods.filter fun key _ => !names.contains key) rest
      (bucket :: buckets, left) := by
  rw [claim, take_empty]

/-- A class claims the names of the methods that it declares, whatever keys they stand under. -/
theorem mem_declaredBy :
    key ∈ declaredBy owner methods ↔
      ∃ k a, methods.get? k = some a ∧ a.declaringClass = owner ∧ a.name = key := by
  simp only [declaredBy, List.mem_map, List.mem_filter, SortedMap.mem_values_iff, beq_iff_eq]
  constructor
  · rintro ⟨a, ⟨⟨k, hk⟩, howner⟩, hname⟩
    exact ⟨k, a, hk, howner, hname⟩
  · rintro ⟨k, a, hk, howner, hname⟩
    exact ⟨a, ⟨⟨k, hk⟩, howner⟩, hname⟩

/-- Under their own names, the methods that a class claims are those that it declares. -/
theorem mem_declaredBy_iff (hnamed : methods.NamedByKey) :
    key ∈ declaredBy owner methods ↔
      ∃ a, methods.get? key = some a ∧ a.declaringClass = owner := by
  rw [mem_declaredBy]
  constructor
  · rintro ⟨k, a, hk, howner, rfl⟩
    exact ⟨a, hnamed k a hk ▸ hk, howner⟩
  · rintro ⟨a, ha, howner⟩
    exact ⟨key, a, ha, howner, hnamed key a ha⟩

/-- Whether a class claims a method that is there depends on its declaring class alone. -/
theorem contains_declaredBy (hnamed : methods.NamedByKey) {a : Method}
    (ha : methods.get? key = some a) :
    (declaredBy owner methods).contains key = (a.declaringClass == owner) := by
  rw [Bool.eq_iff_iff, List.contains_iff_mem, mem_declaredBy_iff hnamed, ha]
  simp

/-- What is found among the methods that a class claims is found before, declared by the class. -/
theorem get?_filter_declaredBy (hnamed : methods.NamedByKey) (owner key : String) :
    (methods.filter fun k _ => (declaredBy owner methods).contains k).get? key =
      (methods.get? key).filter (·.declaringClass == owner) := by
  rw [SortedMap.get?_filter]
  cases ha : methods.get? key with
  | none => rfl
  | some a => simp only [Option.filter_some, contains_declaredBy hnamed ha]

/-- What is left by a class is what it does not declare. -/
theorem get?_filter_not_declaredBy (hnamed : methods.NamedByKey) (owner key : String) :
    (methods.filter fun k _ => !(declaredBy owner methods).contains k).get? key =
      (methods.get? key).filter (·.declaringClass != owner) := by
  rw [SortedMap.get?_filter]
  cases ha : methods.get? key with
  | none => rfl
  | some a => simp only [Option.filter_some, contains_declaredBy hnamed ha, bne]

theorem map_owner_claim (methods : SortedMap Method) (owners : List String) :
    (claim methods owners).1.map (·.owner) = owners := by
  induction owners generalizing methods with
  | nil => rfl
  | cons owner rest ih =>
    rw [claim_cons]
    exact congrArg _ (ih _)

/-- Each ancestor takes the methods that it declares. What earlier ancestors took is declared by
others, since no ancestor comes twice. -/
theorem get?_of_mem_claim {owners : List String} (hnamed : methods.NamedByKey)
    (hnodup : owners.Nodup) {b : Bucket} (hb : b ∈ (claim methods owners).1) (key : String) :
    b.methods.get? key = (methods.get? key).filter (·.declaringClass == b.owner) := by
  induction owners generalizing methods with
  | nil => cases hb
  | cons owner rest ih =>
    obtain ⟨hnew, hnodup⟩ := List.nodup_cons.1 hnodup
    rw [claim_cons] at hb
    rcases List.mem_cons.1 hb with rfl | hb
    · exact get?_filter_declaredBy hnamed owner key
    · have hother : b.owner ≠ owner := by
        rintro rfl
        exact hnew (map_owner_claim _ rest ▸ List.mem_map_of_mem hb)
      rw [ih (hnamed.filter _) hnodup hb, get?_filter_not_declaredBy hnamed, Option.filter_filter]
      congr 1
      funext a
      by_cases ha : a.declaringClass = b.owner
      · simp [ha, hother]
      · simp [ha]

/-- What is left to the class is what no ancestor declares. -/
theorem get?_claim_left (hnamed : methods.NamedByKey) (owners : List String) (key : String) :
    (claim methods owners).2.get? key =
      (methods.get? key).filter fun a => !owners.contains a.declaringClass := by
  induction owners generalizing methods with
  | nil =>
    rw [claim]
    cases methods.get? key <;> rfl
  | cons owner rest ih =>
    rw [claim_cons]
    refine (ih (hnamed.filter _)).trans ?_
    rw [get?_filter_not_declaredBy hnamed, Option.filter_filter]
    congr 1
    funext a
    by_cases ha : a.declaringClass = owner <;> simp [ha]

/-! ### The buckets -/

variable {snapshot : Snapshot} {parents : List String}

/-- The class that owns a method: its declaring class when that is an ancestor, else the class. -/
def claimant (own : String) (parents : List String) (a : Method) : String :=
  if a.declaringClass ∈ parents then a.declaringClass else own

theorem map_owner_buckets (snapshot : Snapshot) (parents : List String) :
    (resolve snapshot parents).buckets.map (·.owner) = parents.reverse ++ [snapshot.name] := by
  rw [resolve, buckets, List.map_append]
  exact congrArg (· ++ _) (map_owner_claim _ _)

theorem nodup_owners (hnodup : (snapshot.name :: parents).Nodup) :
    ((resolve snapshot parents).buckets.map (·.owner)).Nodup := by
  obtain ⟨hown, hparents⟩ := List.nodup_cons.1 hnodup
  rw [map_owner_buckets, List.nodup_append]
  refine ⟨List.nodup_reverse.2 hparents, List.nodup_singleton _, ?_⟩
  rintro parent hparent _ hname rfl
  rw [List.mem_singleton.1 hname] at hparent
  exact hown (List.mem_reverse.1 hparent)

/-- The owner of a bucket of an ancestor is among the ancestors. -/
theorem owner_mem_parents {b : Bucket} (hb : b ∈ (resolve snapshot parents).ancestors) :
    b.owner ∈ parents := by
  have howner : b.owner ∈ (claim snapshot.methods parents.reverse).1.map (·.owner) :=
    List.mem_map_of_mem hb
  rw [map_owner_claim] at howner
  exact List.mem_reverse.1 howner

/-- Every bucket holds the methods that its class owns. -/
theorem get?_of_mem_buckets (hnamed : snapshot.methods.NamedByKey)
    (hnodup : (snapshot.name :: parents).Nodup) {b : Bucket}
    (hb : b ∈ (resolve snapshot parents).buckets) (key : String) :
    b.methods.get? key =
      (snapshot.methods.get? key).filter (claimant snapshot.name parents · == b.owner) := by
  obtain ⟨hown, hparents⟩ := List.nodup_cons.1 hnodup
  rcases List.mem_append.1 hb with hb | hb
  · have howner : b.owner ∈ parents := owner_mem_parents hb
    rw [get?_of_mem_claim hnamed (List.nodup_reverse.2 hparents) hb]
    congr 1
    funext a
    rw [claimant]
    split_ifs with ha
    · rfl
    · have hdeclaring : a.declaringClass ≠ b.owner := fun heq => ha (heq ▸ howner)
      have hsnapshot : snapshot.name ≠ b.owner := fun heq => hown (heq ▸ howner)
      rw [beq_false_of_ne hdeclaring, beq_false_of_ne hsnapshot]
  · obtain rfl := List.mem_singleton.1 hb
    refine (get?_claim_left hnamed parents.reverse key).trans ?_
    congr 1
    funext a
    rw [claimant]
    split_ifs with ha
    · have hne : a.declaringClass ≠ snapshot.name := fun heq => hown (heq ▸ ha)
      simp [resolve, ha, hne]
    · simp [resolve, ha]

theorem contains_of_mem_buckets (hnamed : snapshot.methods.NamedByKey)
    (hnodup : (snapshot.name :: parents).Nodup) {b : Bucket}
    (hb : b ∈ (resolve snapshot parents).buckets) (key : String) :
    b.methods.contains key = true ↔
      ∃ a, snapshot.methods.get? key = some a ∧ claimant snapshot.name parents a = b.owner := by
  simp only [SortedMap.contains_iff, get?_of_mem_buckets hnamed hnodup hb,
    Option.filter_eq_some_iff, beq_iff_eq]

/-- Some bucket belongs to the class that owns a method. -/
theorem exists_bucket (snapshot : Snapshot) (parents : List String) (a : Method) :
    ∃ b ∈ (resolve snapshot parents).buckets, b.owner = claimant snapshot.name parents a := by
  have hmem : claimant snapshot.name parents a ∈
      (resolve snapshot parents).buckets.map (·.owner) := by
    rw [map_owner_buckets, claimant]
    split_ifs with ha <;> simp [ha]
  obtain ⟨b, hb, howner⟩ := List.mem_map.1 hmem
  exact ⟨b, hb, howner⟩

/-- Exactly one bucket has a method that the class reports. -/
theorem existsUnique_bucket (hnamed : snapshot.methods.NamedByKey)
    (hnodup : (snapshot.name :: parents).Nodup) {key : String} {a : Method}
    (ha : snapshot.methods.get? key = some a) :
    ∃! b, b ∈ (resolve snapshot parents).buckets ∧ b.methods.contains key = true := by
  obtain ⟨b, hb, howner⟩ := exists_bucket snapshot parents a
  refine ⟨b, ⟨hb, (contains_of_mem_buckets hnamed hnodup hb key).2 ⟨a, ha, howner.symm⟩⟩, ?_⟩
  rintro other ⟨hother, hcontains⟩
  obtain ⟨a', ha', howner'⟩ := (contains_of_mem_buckets hnamed hnodup hother key).1 hcontains
  obtain rfl := Option.some.inj (ha.symm.trans ha')
  exact List.inj_on_of_nodup_map (nodup_owners hnodup) hother hb (howner'.symm.trans howner.symm)

theorem ownerOf?_eq_some_iff (hnamed : snapshot.methods.NamedByKey)
    (hnodup : (snapshot.name :: parents).Nodup) {key owner : String} :
    (resolve snapshot parents).ownerOf? key = some owner ↔
      ∃ b ∈ (resolve snapshot parents).buckets, b.owner = owner ∧
        b.methods.contains key = true := by
  rw [ownerOf?, Option.map_eq_some_iff]
  constructor
  · rintro ⟨b, hfind, howner⟩
    have hcontains := List.find?_some hfind
    exact ⟨b, List.mem_of_find?_eq_some hfind, howner, hcontains⟩
  · rintro ⟨b, hb, howner, hcontains⟩
    have hsome :
        ((resolve snapshot parents).buckets.find? (·.methods.contains key)).isSome = true :=
      List.find?_isSome.2 ⟨b, hb, hcontains⟩
    obtain ⟨first, hfind⟩ := Option.isSome_iff_exists.1 hsome
    have hfirst := List.find?_some hfind
    obtain ⟨a, ha, -⟩ := (contains_of_mem_buckets hnamed hnodup hb key).1 hcontains
    have heq := (existsUnique_bucket hnamed hnodup ha).unique
      ⟨List.mem_of_find?_eq_some hfind, hfirst⟩ ⟨hb, hcontains⟩
    exact ⟨first, hfind, heq ▸ howner⟩

theorem ownerOf?_eq_none_iff (hnamed : snapshot.methods.NamedByKey)
    (hnodup : (snapshot.name :: parents).Nodup) {key : String} :
    (resolve snapshot parents).ownerOf? key = none ↔ snapshot.methods.get? key = none := by
  rw [ownerOf?, Option.map_eq_none_iff, List.find?_eq_none]
  constructor
  · intro h
    cases ha : snapshot.methods.get? key with
    | none => rfl
    | some a =>
      obtain ⟨b, ⟨hb, hcontains⟩, -⟩ := existsUnique_bucket hnamed hnodup ha
      exact absurd hcontains (h b hb)
  · intro h b hb hcontains
    obtain ⟨a, ha, -⟩ := (contains_of_mem_buckets hnamed hnodup hb key).1 hcontains
    simp [h] at ha

end Ownership

/-! ### Classes of a manifest -/

namespace Manifest

variable {m : Manifest} {name key : String} {entry : ClassEntry} {chain : List ClassEntry}

theorem namedByKey_snapshotOf (m : Manifest) (entry : ClassEntry) (chain : List ClassEntry) :
    (m.snapshotOf entry chain).methods.NamedByKey :=
  fun _ _ h => (method_of_get? h).1

/-- A class that is known under its name is the class of the lineage that has this name. -/
theorem Lineage.eq_of_name (h : m.Lineage name entry chain) {owner c : ClassEntry}
    (howner : m.classes.get? owner.name = some owner) (hc : c ∈ entry :: chain)
    (hname : owner.name = c.name) : owner = c := by
  rw [hname, h.get?_name c hc] at howner
  exact (Option.some.inj howner).symm

/-- The nearest class that has an entry of a method declares it. When there is none, the method
comes from an interface outside the lineage. -/
theorem Lineage.declaringClass_cases (h : m.Lineage name entry chain) {info : Method}
    (hinfo : (m.snapshotOf entry chain).methods.get? key = some info) :
    (∃ c, nearest? (entry :: chain) key = some c ∧ info.declaringClass = c.name) ∨
      nearest? (entry :: chain) key = none ∧
        ∀ c ∈ entry :: chain, info.declaringClass ≠ c.name := by
  obtain ⟨-, owner, e, hnearest | ⟨hnone, hnearest⟩, -, -, howner⟩ := method_of_get? hinfo
  · exact .inl ⟨owner, hnearest, howner⟩
  · refine .inr ⟨hnone, fun c hc heq => ?_⟩
    obtain ⟨interface, -, hget⟩ := List.mem_filterMap.1 (mem_of_nearest? hnearest)
    have hknown : m.classes.get? owner.name = some owner := by rwa [name_of_get? hget]
    obtain rfl := h.eq_of_name hknown hc (howner.symm.trans heq)
    have hdeclares := declares_of_nearest? hnearest
    rw [nearest?_eq_none_iff.1 hnone owner hc] at hdeclares
    cases hdeclares

/-- A method is owned by the nearest class that has an entry of it, or by the class itself when
there is none. -/
theorem Lineage.claimant_eq (h : m.Lineage name entry chain) {info : Method}
    (hinfo : (m.snapshotOf entry chain).methods.get? key = some info) :
    Ownership.claimant name (chain.map (·.name)) info =
      ((nearest? (entry :: chain) key).map (·.name)).getD name := by
  rw [Ownership.claimant]
  rcases h.declaringClass_cases hinfo with ⟨c, hnearest, hdeclaring⟩ | ⟨hnone, hother⟩
  · rw [hnearest, hdeclaring]
    rcases List.mem_cons.1 (mem_of_nearest? hnearest) with rfl | hc
    · simp [h.entry_name]
    · simp [List.mem_map_of_mem hc]
  · have houtside : info.declaringClass ∉ chain.map (·.name) := by
      intro hmem
      obtain ⟨c, hc, hname⟩ := List.mem_map.1 hmem
      exact hother c (List.mem_cons_of_mem _ hc) hname.symm
    rw [hnone, if_neg houtside]
    rfl

/-- A method that a class of the lineage has an entry of is reported. -/
theorem exists_method_of_nearest? {c : ClassEntry} (h : nearest? (entry :: chain) key = some c) :
    ∃ info, (m.snapshotOf entry chain).methods.get? key = some info :=
  SortedMap.mem_keys_iff.1 ((m.mem_keys_methods_iff entry chain key).2
    ⟨c, List.mem_append_left _ (mem_of_nearest? h),
      ClassEntry.declares_iff.1 (declares_of_nearest? h)⟩)

/-- Each method that a class reports is owned by the nearest class of its lineage that has an entry
of it, and those that no class has an entry of by the class itself. -/
structure OwnedByNearest (s : Snapshot) (parents : List String) (entry : ClassEntry)
    (ancestors : List ClassEntry) (o : Ownership) : Prop where
  /-- The buckets are those of the ancestors, the root first, and of the class, all distinct. -/
  owners : o.buckets.map (·.owner) = parents.reverse ++ [entry.name]
  nodup_owners : (o.buckets.map (·.owner)).Nodup
  /-- A reported method is in exactly one bucket, as it is reported and under its own name. -/
  exactly_one : ∀ key info, s.methods.get? key = some info →
    info.name = key ∧ (∃! b, b ∈ o.buckets ∧ b.methods.contains key = true) ∧
      ∀ b ∈ o.buckets, b.methods.contains key = true → b.methods.get? key = some info
  /-- The bucket of an ancestor has the methods that it is the nearest class with an entry of. -/
  mem_ancestor : ∀ b ∈ o.ancestors, ∀ key, b.methods.contains key = true ↔
    (nearest? (entry :: ancestors) key).map (·.name) = some b.owner
  /-- The last bucket has what the class declares, and what only an interface reports. -/
  mem_own : ∀ key, o.own.methods.contains key = true ↔
    entry.declares key = true ∨
      s.methods.contains key = true ∧ ∀ c ∈ entry :: ancestors, c.declares key = false
  ownerOf?_some : ∀ key owner, o.ownerOf? key = some owner ↔
    ∃ b ∈ o.buckets, b.owner = owner ∧ b.methods.contains key = true
  ownerOf?_none : ∀ key, o.ownerOf? key = none ↔ s.methods.get? key = none
  /-- A method that is not inherited is in the last bucket. -/
  own_of_not_inherited : ∀ view : View, view.snapshot = s → ∀ info ∈ view.methods,
    view.isInherited info = false → o.own.methods.get? info.name = some info

/-- The ownership of a class, given its lineage. -/
abbrev ownershipOf (m : Manifest) (entry : ClassEntry) (chain : List ClassEntry) : Ownership :=
  .resolve (m.snapshotOf entry chain) (chain.map (·.name))

namespace Lineage

variable (h : m.Lineage name entry chain)
include h

theorem snapshotOf_name : (m.snapshotOf entry chain).name = name :=
  h.entry_name

theorem own_owner : (m.ownershipOf entry chain).own.owner = name :=
  h.entry_name

theorem nodup_snapshotOf :
    ((m.snapshotOf entry chain).name :: chain.map (·.name)).Nodup := by
  rw [h.snapshotOf_name]
  exact h.nodup

/-- No ancestor has the name of the class. -/
theorem name_not_mem : name ∉ chain.map (·.name) :=
  (List.nodup_cons.1 h.nodup).1

/-- A bucket has the methods whose nearest class with an entry, or else the class, is its owner. -/
theorem contains_bucket {b : Bucket} (hb : b ∈ (m.ownershipOf entry chain).buckets)
    (key : String) :
    b.methods.contains key = true ↔
      (m.snapshotOf entry chain).methods.contains key = true ∧
        ((nearest? (entry :: chain) key).map (·.name)).getD name = b.owner := by
  rw [Ownership.contains_of_mem_buckets (m.namedByKey_snapshotOf entry chain) h.nodup_snapshotOf hb,
    SortedMap.contains_iff, h.snapshotOf_name]
  constructor
  · rintro ⟨info, hinfo, howner⟩
    exact ⟨⟨info, hinfo⟩, (h.claimant_eq hinfo).symm.trans howner⟩
  · rintro ⟨⟨info, hinfo⟩, howner⟩
    exact ⟨info, hinfo, (h.claimant_eq hinfo).trans howner⟩

theorem contains_ancestor {b : Bucket} (hb : b ∈ (m.ownershipOf entry chain).ancestors)
    (key : String) :
    b.methods.contains key = true ↔
      (nearest? (entry :: chain) key).map (·.name) = some b.owner := by
  have hother : name ≠ b.owner := by
    rintro rfl
    exact h.name_not_mem (Ownership.owner_mem_parents hb)
  rw [h.contains_bucket (List.mem_append_left _ hb)]
  cases hnearest : nearest? (entry :: chain) key with
  | none => simp [hother]
  | some c =>
    have hreported := SortedMap.contains_iff.2 (exists_method_of_nearest? (m := m) hnearest)
    simp [hreported]

theorem contains_own (key : String) :
    (m.ownershipOf entry chain).own.methods.contains key = true ↔
      entry.declares key = true ∨
        (m.snapshotOf entry chain).methods.contains key = true ∧
          ∀ c ∈ entry :: chain, c.declares key = false := by
  rw [h.contains_bucket (List.mem_append_right _ List.mem_cons_self), h.own_owner]
  by_cases hdeclares : entry.declares key = true
  · have hnearest : nearest? (entry :: chain) key = some entry := by
      rw [nearest?_cons, if_pos hdeclares]
    have hreported := SortedMap.contains_iff.2 (exists_method_of_nearest? (m := m) hnearest)
    simp [hdeclares, hnearest, hreported, h.entry_name]
  · rw [← nearest?_eq_none_iff]
    cases hnearest : nearest? (entry :: chain) key with
    | none => simp [hdeclares]
    | some c =>
      -- The nearest class is a proper ancestor, so it has another name than the class.
      have hc : c ∈ chain := by
        rcases List.mem_cons.1 (mem_of_nearest? hnearest) with rfl | hc
        · exact absurd (declares_of_nearest? hnearest) hdeclares
        · exact hc
      have hname : c.name ≠ name := fun heq => h.name_not_mem (heq ▸ List.mem_map_of_mem hc)
      simp [hdeclares, hname]

/-- A method that the class declares itself is left to it. -/
theorem get?_own_of_declaringClass {info : Method}
    (hinfo : (m.snapshotOf entry chain).methods.get? key = some info)
    (hdeclaring : info.declaringClass = name) :
    (m.ownershipOf entry chain).own.methods.get? key = some info := by
  have houtside : info.declaringClass ∉ chain.map (·.name) := by
    rw [hdeclaring]
    exact h.name_not_mem
  rw [Ownership.get?_of_mem_buckets (m.namedByKey_snapshotOf entry chain) h.nodup_snapshotOf
    (List.mem_append_right _ List.mem_cons_self), hinfo, h.snapshotOf_name]
  simp only [Option.filter_some, Ownership.claimant, if_neg houtside, h.own_owner,
    beq_self_eq_true, ↓reduceIte]

theorem ownedByNearest :
    OwnedByNearest (m.snapshotOf entry chain) (chain.map (·.name)) entry chain
      (m.ownershipOf entry chain) where
  owners := Ownership.map_owner_buckets _ _
  nodup_owners := Ownership.nodup_owners h.nodup_snapshotOf
  exactly_one := by
    intro key info hinfo
    have hnamed := m.namedByKey_snapshotOf entry chain
    refine ⟨hnamed key info hinfo,
      Ownership.existsUnique_bucket hnamed h.nodup_snapshotOf hinfo, ?_⟩
    intro b hb hcontains
    obtain ⟨other, hother⟩ := SortedMap.contains_iff.1 hcontains
    rw [Ownership.get?_of_mem_buckets hnamed h.nodup_snapshotOf hb, hinfo] at hother ⊢
    rw [hother, (Option.some.inj (Option.filter_eq_some_iff.1 hother).1)]
  mem_ancestor := fun _ hb key => h.contains_ancestor hb key
  mem_own := h.contains_own
  ownerOf?_some := fun _ _ =>
    Ownership.ownerOf?_eq_some_iff (m.namedByKey_snapshotOf entry chain) h.nodup_snapshotOf
  ownerOf?_none := fun _ =>
    Ownership.ownerOf?_eq_none_iff (m.namedByKey_snapshotOf entry chain) h.nodup_snapshotOf
  own_of_not_inherited := by
    intro view hview info hinfo hinherited
    rw [View.methods, hview, SortedMap.mem_values_iff] at hinfo
    obtain ⟨key, hkey⟩ := hinfo
    have hdeclaring : info.declaringClass = name := by
      simpa [View.isInherited, View.isDeclaredIn, View.name, hview, h.snapshotOf_name]
        using hinherited
    rw [m.namedByKey_snapshotOf entry chain key info hkey]
    exact h.get?_own_of_declaringClass hkey hdeclaring

end Lineage

/-- The methods of a class that is found are owned by the nearest classes along its parent chain. -/
theorem ownership_of_snapshot (m : Manifest) (name : String) (s : Snapshot)
    (h : m.snapshot name = .ok s) :
    ∃ parents entry ancestors,
      m.parentChain name = .ok parents ∧
      (name :: parents).map m.classes.get? = (entry :: ancestors).map some ∧
      entry.name = name ∧
      OwnedByNearest s parents entry ancestors (Ownership.resolve s parents) := by
  obtain ⟨entry, chain, hlineage, rfl⟩ := snapshot_eq_ok_iff.1 h
  exact ⟨chain.map (·.name), entry, chain, hlineage.parentChain_eq, hlineage.map_get?,
    hlineage.entry_name, hlineage.ownedByNearest⟩

/-- The ownership of a class that overrides one method and has another from an interface. -/
theorem ownership_of_snapshot_shapes :
    ∃ s, shapes.snapshot "Square" = .ok s ∧ ∃ parents entry ancestors,
      shapes.parentChain "Square" = .ok parents ∧
      ("Square" :: parents).map shapes.classes.get? = (entry :: ancestors).map some ∧
      entry.name = "Square" ∧
      OwnedByNearest s parents entry ancestors (Ownership.resolve s parents) := by
  have hs := snapshot_eq_ok_iff.2 ⟨_, _, lineage_shapes, rfl⟩
  exact ⟨_, hs, ownership_of_snapshot shapes "Square" _ hs⟩

end Manifest

end ClassDocs
