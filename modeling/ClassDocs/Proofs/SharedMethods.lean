import ClassDocs.Proofs.MethodOwnership
import Mathlib.Data.List.Nodup
import Mathlib.Data.List.Perm.Basic

/-!
# Methods shared out among any ancestors

An ancestor picks the methods that it declares, but takes what stands under their names. In a class
that a manifest finds these are the same methods. Here nothing is assumed: a method may stand under
another key than its name, an ancestor may come twice, and the class may be among its ancestors.
Still the methods are shared out, each to one bucket and under its key. A method can come to the
wrong ancestor only through another one that has its key as a name.

## Main definitions

* `Ownership.Attributed`: buckets that hold what their owners declare.

## Main results

* `Ownership.perm_buckets`: the buckets together have the methods of the class.
* `Ownership.get?_bucket_unique`: no key is in two buckets.
* `Ownership.methods_shared_out`: each method is in exactly one bucket.
* `Ownership.exists_declared_of_mem_claim`, `Ownership.get?_name_claim_left`: what an ancestor
  takes, and what it leaves.
* `Ownership.attributed_of_namedByKey`: methods under their own names are with the classes that
  declare them.
* `Ownership.declared_or_renamed`: which methods are with the class that declares them.
* `Ownership.not_forall_attributed`: not all are.
-/

namespace ClassDocs.Ownership

variable {methods : SortedMap Method} {owners : List String} {key : String} {a : Method}

/-! ### Nothing is lost or doubled -/

/-- What an ancestor claims and what it leaves are together what there was. -/
theorem perm_claim (methods : SortedMap Method) (owners : List String) :
    ((claim methods owners).1.flatMap (·.methods.entries) ++
      (claim methods owners).2.entries).Perm methods.entries := by
  induction owners generalizing methods with
  | nil => exact .refl _
  | cons owner rest ih =>
    let claimed := methods.filter fun key _ => (declaredBy owner methods).contains key
    let left := methods.filter fun key _ => !(declaredBy owner methods).contains key
    have hstep : (claim methods (owner :: rest)).1.flatMap (·.methods.entries) ++
          (claim methods (owner :: rest)).2.entries =
        claimed.entries ++ ((claim left rest).1.flatMap (·.methods.entries) ++
          (claim left rest).2.entries) := by
      rw [claim_cons, List.flatMap_cons, List.append_assoc]
    have hshare : (claimed.entries ++ left.entries).Perm methods.entries :=
      List.filter_append_perm _ _
    rw [hstep]
    exact ((ih left).append_left _).trans hshare

/-- The buckets share out the methods of a class. -/
theorem perm_buckets (snapshot : Snapshot) (parents : List String) :
    ((resolve snapshot parents).buckets.flatMap (·.methods.entries)).Perm
      snapshot.methods.entries := by
  rw [buckets, List.flatMap_append, List.flatMap_singleton]
  exact perm_claim snapshot.methods parents.reverse

/-- What is in a bucket is among the methods of the class, under the same key. -/
theorem get?_of_get?_bucket {snapshot : Snapshot} {parents : List String} {b : Bucket}
    (hb : b ∈ (resolve snapshot parents).buckets) (h : b.methods.get? key = some a) :
    snapshot.methods.get? key = some a := by
  rw [SortedMap.get?_eq_some_iff] at h ⊢
  exact (perm_buckets snapshot parents).subset (List.mem_flatMap.2 ⟨b, hb, h⟩)

/-- Some bucket has a method of the class. -/
theorem exists_bucket_of_get? {snapshot : Snapshot} (parents : List String)
    (h : snapshot.methods.get? key = some a) :
    ∃ b ∈ (resolve snapshot parents).buckets, b.methods.get? key = some a := by
  rw [SortedMap.get?_eq_some_iff] at h
  obtain ⟨b, hb, hmem⟩ := List.mem_flatMap.1 ((perm_buckets snapshot parents).symm.subset h)
  exact ⟨b, hb, SortedMap.get?_eq_some_iff.2 hmem⟩

/-- Two places in the list of buckets have no key in common, even when their buckets are equal. -/
theorem disjoint_buckets (snapshot : Snapshot) (parents : List String) :
    (resolve snapshot parents).buckets.Pairwise
      fun b c => b.methods.keys.Disjoint c.methods.keys := by
  have hkeys : ((resolve snapshot parents).buckets.flatMap (·.methods.keys)).Nodup := by
    have hmap := (perm_buckets snapshot parents).map Prod.fst
    rw [List.map_flatMap] at hmap
    exact hmap.nodup_iff.2 snapshot.methods.nodup_keys
  exact (List.nodup_flatMap.1 hkeys).2

/-- No key is in two buckets. -/
theorem get?_bucket_unique {snapshot : Snapshot} {parents : List String}
    {i j : Fin (resolve snapshot parents).buckets.length} (hne : j ≠ i)
    (h : ((resolve snapshot parents).buckets.get i).methods.get? key = some a) :
    ((resolve snapshot parents).buckets.get j).methods.get? key = none := by
  have hdisjoint := List.pairwise_iff_getElem.1 (disjoint_buckets snapshot parents)
  by_contra hsome
  obtain ⟨a', ha'⟩ := Option.ne_none_iff_exists'.1 hsome
  have hi := SortedMap.mem_keys_iff.2 ⟨a, h⟩
  have hj := SortedMap.mem_keys_iff.2 ⟨a', ha'⟩
  rcases Nat.lt_or_gt_of_ne (Fin.val_ne_of_ne hne) with hlt | hgt
  · exact hdisjoint j i j.isLt i.isLt hlt hj hi
  · exact hdisjoint i j i.isLt j.isLt hgt hi hj

/-- The buckets are those of the ancestors from the root on and of the class. Each method of the
class is in exactly one of them, unchanged and under its key, and nothing else is in any. -/
theorem methods_shared_out (snapshot : Snapshot) (parents : List String) :
    (resolve snapshot parents).buckets.map (·.owner) = parents.reverse ++ [snapshot.name] ∧
    (∀ key a, snapshot.methods.get? key = some a →
      ∃ i : Fin (resolve snapshot parents).buckets.length,
        ((resolve snapshot parents).buckets.get i).methods.get? key = some a ∧
        ∀ j ≠ i, ((resolve snapshot parents).buckets.get j).methods.get? key = none) ∧
    ∀ b ∈ (resolve snapshot parents).buckets, ∀ key a,
      b.methods.get? key = some a → snapshot.methods.get? key = some a := by
  refine ⟨map_owner_buckets snapshot parents, fun key a h => ?_, fun b hb key a h =>
    get?_of_get?_bucket hb h⟩
  obtain ⟨b, hb, hget⟩ := exists_bucket_of_get? parents h
  obtain ⟨i, rfl⟩ := List.mem_iff_get.1 hb
  exact ⟨i, hget, fun j hne => get?_bucket_unique hne hget⟩

/-! ### Whose methods they are -/

/-- An ancestor takes what stands under a key only if it declares a method of this name. -/
theorem exists_declared_of_mem_claim {b : Bucket} (hb : b ∈ (claim methods owners).1)
    (h : b.methods.get? key = some a) :
    ∃ k other, methods.get? k = some other ∧ other.declaringClass = b.owner ∧
      other.name = key := by
  induction owners generalizing methods with
  | nil => cases hb
  | cons owner rest ih =>
    rw [claim_cons] at hb
    rcases List.mem_cons.1 hb with rfl | hb
    · rw [SortedMap.get?_filter] at h
      have hnamed := (Option.filter_eq_some_iff.1 h).2
      exact mem_declaredBy.1 (List.contains_iff_mem.1 hnamed)
    · obtain ⟨k, other, hk, howner, hname⟩ := ih hb
      rw [SortedMap.get?_filter] at hk
      exact ⟨k, other, (Option.filter_eq_some_iff.1 hk).1, howner, hname⟩

/-- What is left in the end was there before. -/
theorem get?_of_get?_claim_left (h : (claim methods owners).2.get? key = some a) :
    methods.get? key = some a := by
  rw [SortedMap.get?_eq_some_iff] at h ⊢
  exact (perm_claim methods owners).subset (List.mem_append_right _ h)

/-- An ancestor leaves nothing under the name of a method that it declares. -/
theorem get?_name_claim_left (h : (claim methods owners).2.get? key = some a)
    (hmem : a.declaringClass ∈ owners) : (claim methods owners).2.get? a.name = none := by
  induction owners generalizing methods with
  | nil => cases hmem
  | cons owner rest ih =>
    rw [claim_cons] at h ⊢
    by_cases howner : a.declaringClass = owner
    · -- The method is still there when its ancestor comes, which takes what has its name.
      have hbefore := get?_of_get?_claim_left h
      rw [SortedMap.get?_filter] at hbefore
      have hnamed : a.name ∈ declaredBy owner methods :=
        mem_declaredBy.2 ⟨key, a, (Option.filter_eq_some_iff.1 hbefore).1, howner, rfl⟩
      by_contra hsome
      obtain ⟨a', ha'⟩ := Option.ne_none_iff_exists'.1 hsome
      have hkept := get?_of_get?_claim_left ha'
      rw [SortedMap.get?_filter] at hkept
      have hnot := (Option.filter_eq_some_iff.1 hkept).2
      rw [List.contains_iff_mem.2 hnamed] at hnot
      cases hnot
    · exact ih h ((List.mem_cons.1 hmem).resolve_left howner)

/-- Every method in the bucket of an ancestor is declared by it, and none that is left to the class
is declared by an ancestor. -/
def Attributed (o : Ownership) (parents : List String) : Prop :=
  (∀ b ∈ o.ancestors, ∀ key a, b.methods.get? key = some a → a.declaringClass = b.owner) ∧
    ∀ key a, o.own.methods.get? key = some a → a.declaringClass ∉ parents

variable {snapshot : Snapshot} {parents : List String}

/-- A method comes to an ancestor that does not declare it only through another method, which has
its key as a name. -/
theorem declaringClass_of_mem_ancestors {b : Bucket}
    (hb : b ∈ (resolve snapshot parents).ancestors) (h : b.methods.get? key = some a) :
    a.declaringClass = b.owner ∨
      ∃ k other, k ≠ key ∧ snapshot.methods.get? k = some other ∧ other.name = key ∧
        other.declaringClass = b.owner := by
  obtain ⟨k, other, hk, howner, hname⟩ := exists_declared_of_mem_claim hb h
  by_cases hkey : k = key
  · have hself := get?_of_get?_bucket (List.mem_append_left _ hb) h
    rw [hkey, hself] at hk
    exact .inl (Option.some.inj hk ▸ howner)
  · exact .inr ⟨k, other, hkey, hk, hname, howner⟩

/-- A method of an ancestor is left to the class only if nothing of its name is. -/
theorem declaringClass_of_own (h : (resolve snapshot parents).own.methods.get? key = some a) :
    a.declaringClass ∉ parents ∨ (resolve snapshot parents).own.methods.get? a.name = none := by
  by_cases hmem : a.declaringClass ∈ parents
  · exact .inr (get?_name_claim_left h (List.mem_reverse.2 hmem))
  · exact .inl hmem

/-- Methods that stand under their own names are with the classes that declare them, whatever the
ancestors are. -/
theorem attributed_of_namedByKey (hnamed : snapshot.methods.NamedByKey) (parents : List String) :
    Attributed (resolve snapshot parents) parents := by
  refine ⟨fun b hb key a h => ?_, fun key a h => ?_⟩
  · rcases declaringClass_of_mem_ancestors hb h with howner | ⟨k, other, hne, hk, hname, -⟩
    · exact howner
    · exact absurd ((hnamed k other hk).symm.trans hname) hne
  · have hself : snapshot.methods.get? key = some a :=
      get?_of_get?_bucket (List.mem_append_right _ List.mem_cons_self) h
    rcases declaringClass_of_own h with hnot | hnone
    · exact hnot
    · rw [hnamed key a hself, h] at hnone
      cases hnone

/-- A method in the bucket of an ancestor is declared by it, unless its key is the name of another
method, which the ancestor declares. A method that is left to the class is declared by no ancestor,
unless nothing of its name is left. So methods that stand under their own names are always with the
class that declares them. -/
theorem declared_or_renamed (snapshot : Snapshot) (parents : List String) :
    (∀ b ∈ (resolve snapshot parents).ancestors, ∀ key a, b.methods.get? key = some a →
      a.declaringClass = b.owner ∨
        ∃ k other, k ≠ key ∧ snapshot.methods.get? k = some other ∧ other.name = key ∧
          other.declaringClass = b.owner) ∧
    (∀ key a, (resolve snapshot parents).own.methods.get? key = some a →
      a.declaringClass ∉ parents ∨ (resolve snapshot parents).own.methods.get? a.name = none) ∧
    (snapshot.methods.NamedByKey → Attributed (resolve snapshot parents) parents) :=
  ⟨fun _ hb _ _ h => declaringClass_of_mem_ancestors hb h, fun _ _ h => declaringClass_of_own h,
    fun hnamed => attributed_of_namedByKey hnamed parents⟩

/-- A class with a method of its parent under another key, and one of its own under the name of that
method. -/
def renamedStore : Snapshot where
  name := "Store"
  methods := .ofList
    [("close", { name := "close", declaringClass := "Store" }),
      ("open", { name := "close", declaringClass := "Base" })]

/-- Methods that stand under other names can come to the wrong class: here the parent gets the one
of the class, and the class the one of the parent. -/
theorem not_forall_attributed :
    ¬ ∀ (snapshot : Snapshot) (parents : List String),
      Attributed (resolve snapshot parents) parents := by
  intro hall
  obtain ⟨hclaimed, -⟩ := hall renamedStore ["Base"]
  have hbucket : ∃ b ∈ (resolve renamedStore ["Base"]).ancestors, b.owner = "Base" ∧
      b.methods.get? "close" = some { name := "close", declaringClass := "Store" } := by
    decide
  obtain ⟨b, hb, howner, hget⟩ := hbucket
  have hdeclaring := hclaimed b hb "close" _ hget
  rw [howner] at hdeclaring
  revert hdeclaring
  decide

end ClassDocs.Ownership
