import ClassDocs.SortedMap
import Mathlib.Data.List.Nodup

/-!
# Looking keys up in maps

What each operation on maps does to the value of a key. The order of the entries plays a part only
in that no key has two of them, so that an entry is found under its key.

## Main results

* `SortedMap.get?_eq_some_iff`: the entries are what is found under a key.
* `SortedMap.ext_get?`: maps in which the same is found under every key are the same map.
* `SortedMap.exists_entries_eq_append_iff`: the first entry of a kind is the one with the smallest
  key.
* `SortedMap.get?_insert`, `SortedMap.get?_insertIfNew`, `SortedMap.get?_filter`,
  `SortedMap.get?_erase`: one operation.
* `SortedMap.get?_firstWins`: of some entries in a list the first of a key is found.
* `SortedMap.get?_ofList`: of some entries in a list the last of a key is found.
-/

namespace ClassDocs.SortedMap

variable {α : Type} {m : SortedMap α} {key k : String} {a v : α}

theorem nodup_keys (m : SortedMap α) : m.keys.Nodup := by
  rw [keys, List.Nodup, List.pairwise_map]
  refine m.sorted.imp ?_
  intro e f hlt heq
  exact String.lt_irrefl _ (heq ▸ hlt)

/-- The first of some entries is found when it has the key, otherwise one after it. -/
theorem lookup_entry_cons (k : String) (v : α) (rest : List (String × α)) (key : String) :
    ((k, v) :: rest).lookup key = if key = k then some v else rest.lookup key := by
  rw [List.lookup_cons]
  by_cases hk : key = k
  · simp [hk]
  · rw [if_neg hk, beq_false_of_ne hk]

/-- Entries made from a list: the first one that is made with the key is found. -/
theorem lookup_map_entry {β : Type} (f : β → String) (g : β → α) (xs : List β) (key : String) :
    (xs.map fun x => (f x, g x)).lookup key = (xs.find? (f · == key)).map g := by
  induction xs with
  | nil => rfl
  | cons x rest ih =>
    rw [List.map_cons, lookup_entry_cons, List.find?_cons, ih]
    by_cases hx : key = f x
    · simp [hx]
    · rw [if_neg hx, beq_false_of_ne (Ne.symm hx)]

/-- Entries of several lists, one after the other: the first list that has the key counts. -/
theorem lookup_flatMap {β : Type} (f : β → List (String × α)) (xs : List β) (key : String) :
    (xs.flatMap f).lookup key = xs.findSome? fun x => (f x).lookup key := by
  induction xs with
  | nil => rfl
  | cons x rest ih =>
    rw [List.flatMap_cons, List.lookup_append, List.findSome?_cons, ih]
    cases (f x).lookup key <;> rfl

/-- An entry is found under its key, since no other entry has the key. -/
theorem get?_eq_some_iff : m.get? key = some a ↔ (key, a) ∈ m.entries := by
  obtain ⟨entries, sorted⟩ := m
  simp only [get?]
  induction entries with
  | nil => simp
  | cons e rest ih =>
    obtain ⟨k, v⟩ := e
    obtain ⟨hfirst, hrest⟩ := List.pairwise_cons.1 sorted
    rw [lookup_entry_cons, List.mem_cons]
    split_ifs with hk
    · subst hk
      have hlater : (key, a) ∉ rest := fun hmem => String.lt_irrefl _ (hfirst (key, a) hmem)
      simp [hlater, eq_comm]
    · simp [hk, ih hrest]

/-- Entries in key order are told by what is found under each key. -/
theorem ext_get? {n : SortedMap α} (h : ∀ key, m.get? key = n.get? key) : m = n := by
  have hmem (e : String × α) : e ∈ m.entries ↔ e ∈ n.entries := by
    rw [← get?_eq_some_iff, ← get?_eq_some_iff, h]
  have hperm : m.entries.Perm n.entries :=
    (List.perm_ext_iff_of_nodup (.of_map _ m.nodup_keys) (.of_map _ n.nodup_keys)).2 hmem
  refine ext_entries (hperm.eq_of_pairwise ?_ m.sorted n.sorted)
  intro a b _ _ hab hba
  exact absurd hba (String.lt_asymm hab)

theorem contains_iff : m.contains key = true ↔ ∃ a, m.get? key = some a :=
  Option.isSome_iff_exists

theorem mem_keys_iff : key ∈ m.keys ↔ ∃ a, m.get? key = some a := by
  simp [keys, get?_eq_some_iff]

/-- The values are what is found under some key. -/
theorem mem_values_iff : a ∈ m.values ↔ ∃ key, m.get? key = some a := by
  simp only [values, List.mem_map, get?_eq_some_iff, Prod.exists, exists_eq_right]

@[simp] theorem get?_empty (key : String) : (empty : SortedMap α).get? key = none := rfl

theorem get?_insert (m : SortedMap α) (k : String) (v : α) (key : String) :
    (m.insert k v).get? key = if key = k then some v else m.get? key := by
  obtain ⟨entries, sorted⟩ := m
  simp only [get?, insert]
  clear sorted
  induction entries with
  | nil => rw [insertEntry, lookup_entry_cons]
  | cons e rest ih =>
    obtain ⟨k', v'⟩ := e
    rw [insertEntry]
    by_cases hlt : k < k'
    · rw [if_pos hlt, lookup_entry_cons]
    · rw [if_neg hlt]
      by_cases heq : k = k'
      · subst heq
        rw [if_pos rfl, lookup_entry_cons, lookup_entry_cons]
        split_ifs <;> rfl
      · rw [if_neg heq, lookup_entry_cons, lookup_entry_cons, ih]
        by_cases hkey : key = k
        · simp [hkey, heq]
        · simp [hkey]

theorem get?_insertIfNew (m : SortedMap α) (k : String) (v : α) (key : String) :
    (m.insertIfNew k v).get? key = (m.get? key).or (if key = k then some v else none) := by
  rw [insertIfNew]
  split_ifs with hold hkey hkey
  · obtain ⟨old, hold⟩ := contains_iff.1 hold
    rw [hkey, hold, Option.some_or]
  · rw [Option.or_none]
  · have hnew : m.get? k = none := by simpa [contains] using hold
    rw [get?_insert, if_pos hkey, hkey, hnew, Option.none_or]
  · rw [get?_insert, if_neg hkey, Option.or_none]

/-- Filtering keeps what is found under a key when it satisfies the predicate. -/
theorem get?_filter (p : String → α → Bool) (m : SortedMap α) (key : String) :
    (m.filter p).get? key = (m.get? key).filter (p key) := by
  apply Option.ext
  intro a
  rw [get?_eq_some_iff, Option.filter_eq_some_iff, get?_eq_some_iff]
  exact List.mem_filter

theorem get?_erase (m : SortedMap α) (k key : String) :
    (m.erase k).get? key = if key = k then none else m.get? key := by
  rw [erase, get?_filter]
  split_ifs with hkey
  · simp [hkey]
  · cases m.get? key <;> simp [hkey]

/-- Putting entries one after the other over what was there before. -/
theorem get?_foldl_insert (es : List (String × α)) (m : SortedMap α) (key : String) :
    (es.foldl (fun m e => m.insert e.1 e.2) m).get? key =
      (es.reverse.lookup key).or (m.get? key) := by
  induction es generalizing m with
  | nil => rfl
  | cons e rest ih =>
    obtain ⟨k, v⟩ := e
    rw [List.foldl_cons, ih, get?_insert, List.reverse_cons, List.lookup_append, Option.or_assoc,
      lookup_entry_cons]
    split_ifs <;> simp

/-- Of some entries in a list the last of a key is found. -/
theorem get?_ofList (es : List (String × α)) (key : String) :
    (ofList es).get? key = es.reverse.lookup key := by
  rw [ofList, get?_foldl_insert, get?_empty, Option.or_none]

theorem mem_of_get?_ofList {es : List (String × α)} (h : (ofList es).get? key = some a) :
    (key, a) ∈ es := by
  rw [get?_ofList] at h
  obtain ⟨before, after, heq, -⟩ := List.lookup_eq_some_iff.1 h
  exact List.mem_reverse.1 (heq ▸ List.mem_append_right _ List.mem_cons_self)

theorem mem_keys_ofList {es : List (String × α)} : key ∈ (ofList es).keys ↔ ∃ a, (key, a) ∈ es := by
  rw [mem_keys_iff]
  constructor
  · rintro ⟨a, ha⟩
    exact ⟨a, mem_of_get?_ofList ha⟩
  · rintro ⟨a, ha⟩
    cases hget : (ofList es).get? key with
    | some b => exact ⟨b, rfl⟩
    | none =>
      rw [get?_ofList, List.lookup_eq_none_iff] at hget
      simpa using hget (key, a) (List.mem_reverse.2 ha)

/-- Where all entries of a key have one value, this value is found. -/
theorem get?_ofList_eq_some_iff {es : List (String × α)}
    (h : ∀ a b, (key, a) ∈ es → (key, b) ∈ es → a = b) :
    (ofList es).get? key = some a ↔ (key, a) ∈ es := by
  refine ⟨mem_of_get?_ofList, fun ha => ?_⟩
  obtain ⟨b, hb⟩ := mem_keys_iff.1 (mem_keys_ofList.2 ⟨a, ha⟩)
  rw [hb, h b a (mem_of_get?_ofList hb) ha]

/-- Keys are listed in strictly increasing order. -/
theorem pairwise_keys (m : SortedMap α) : m.keys.Pairwise (· < ·) :=
  List.pairwise_map.2 m.sorted

/-- What stands before an entry is what is found under smaller keys. -/
theorem exists_entries_eq_append_iff {p q : String × α → Prop} :
    (∃ before e after, m.entries = before ++ e :: after ∧ (∀ f ∈ before, p f) ∧ q e) ↔
      ∃ key a, m.get? key = some a ∧ q (key, a) ∧
        ∀ k v, k < key → m.get? k = some v → p (k, v) := by
  constructor
  · rintro ⟨before, ⟨key, a⟩, after, heq, hbefore, hq⟩
    refine ⟨key, a, get?_eq_some_iff.2 (by simp [heq]), hq, fun k v hlt hfound => ?_⟩
    have hsorted := m.sorted
    rw [heq, List.pairwise_append, List.pairwise_cons] at hsorted
    obtain ⟨-, ⟨hafter, -⟩, -⟩ := hsorted
    rw [get?_eq_some_iff, heq, List.mem_append, List.mem_cons] at hfound
    rcases hfound with hmem | hsame | hmem
    · exact hbefore _ hmem
    · exact absurd (congrArg Prod.fst hsame) (String.ne_of_lt hlt)
    · exact absurd (hafter _ hmem) (String.lt_asymm hlt)
  · rintro ⟨key, a, hfound, hq, hsmaller⟩
    obtain ⟨before, after, heq⟩ := List.append_of_mem (get?_eq_some_iff.1 hfound)
    refine ⟨before, (key, a), after, heq, fun f hf => ?_, hq⟩
    have hsorted := m.sorted
    rw [heq, List.pairwise_append] at hsorted
    refine hsmaller f.1 f.2 (hsorted.2.2 f hf (key, a) List.mem_cons_self) ?_
    exact get?_eq_some_iff.2 (heq ▸ List.mem_append_left _ hf)

/-- Adding entries one after the other keeps what was there before. -/
theorem get?_foldl_insertIfNew (es : List (String × α)) (m : SortedMap α) (key : String) :
    (es.foldl (fun m e => m.insertIfNew e.1 e.2) m).get? key =
      (m.get? key).or (es.lookup key) := by
  induction es generalizing m with
  | nil => simp
  | cons e rest ih =>
    obtain ⟨k, v⟩ := e
    rw [List.foldl_cons, ih, get?_insertIfNew, Option.or_assoc, lookup_entry_cons]
    split_ifs <;> simp

/-- Of some entries in a list the first of a key is found. -/
theorem get?_firstWins (es : List (String × α)) (key : String) :
    (firstWins es).get? key = es.lookup key := by
  rw [firstWins, get?_foldl_insertIfNew, get?_empty, Option.none_or]

end ClassDocs.SortedMap
