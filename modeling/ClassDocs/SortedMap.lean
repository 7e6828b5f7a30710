/-!
# Maps in increasing key order

A map from text to values that lists its entries in strictly increasing order of their keys. Text
is ordered by its characters' code points.

## Main definitions

* `SortedMap`: entries in strictly increasing key order.
* `SortedMap.get?`, `SortedMap.insert`, `SortedMap.insertIfNew`, `SortedMap.getOrInsert`,
  `SortedMap.erase`: one key.
* `SortedMap.filter`, `SortedMap.map`: all keys.
* `SortedMap.ofList`, `SortedMap.firstWins`: maps from lists.

## Main results

* `SortedMap.ext_entries`: two maps with the same entries are the same map.
* `SortedMap.mem_keys_of_get?`: a key with a value is among the keys.
-/

namespace ClassDocs

/-- A map from text to values; `entries` lists it in strictly increasing key order. -/
structure SortedMap (α : Type) where
  /-- The keys with their values. -/
  entries : List (String × α)
  /-- Keys increase strictly, so each key has one value. -/
  sorted : entries.Pairwise fun a b => a.1 < b.1

namespace SortedMap

variable {α β : Type}

theorem ext_entries {m n : SortedMap α} (h : m.entries = n.entries) : m = n := by
  cases m; cases n; simp_all

instance [DecidableEq α] : DecidableEq (SortedMap α) := fun m n =>
  if h : m.entries = n.entries then isTrue (ext_entries h)
  else isFalse fun e => h (e ▸ rfl)

/-- The map without entries. -/
def empty : SortedMap α := ⟨[], .nil⟩

instance : Inhabited (SortedMap α) := ⟨empty⟩

/-- The value of a key. -/
def get? (m : SortedMap α) (key : String) : Option α :=
  m.entries.lookup key

/-- Whether a key has a value. -/
def contains (m : SortedMap α) (key : String) : Bool :=
  (m.get? key).isSome

/-- The keys in increasing order. -/
def keys (m : SortedMap α) : List String :=
  m.entries.map (·.1)

/-- The values in the order of their keys. -/
def values (m : SortedMap α) : List α :=
  m.entries.map (·.2)

theorem mem_keys_of_get? {m : SortedMap α} {key : String} {a : α}
    (h : m.get? key = some a) : key ∈ m.keys := by
  obtain ⟨entries, sorted⟩ := m
  simp only [get?, keys] at *
  clear sorted
  induction entries with
  | nil => simp at h
  | cons e rest ih =>
    obtain ⟨k, v⟩ := e
    rw [List.lookup_cons] at h
    split at h
    · rename_i heq
      exact List.mem_map.2 ⟨(k, v), List.mem_cons_self, (eq_of_beq heq).symm⟩
    · exact List.mem_cons_of_mem _ (ih h)

/-- The number of keys. -/
def size (m : SortedMap α) : Nat :=
  m.entries.length

/-- Whether there is no key. -/
def isEmpty (m : SortedMap α) : Bool :=
  m.entries.isEmpty

/-- Puts an entry at its place among entries in key order, over an entry of the same key. -/
def insertEntry (key : String) (value : α) : List (String × α) → List (String × α)
  | [] => [(key, value)]
  | (k, v) :: rest =>
    if key < k then (key, value) :: (k, v) :: rest
    else if key = k then (key, value) :: rest
    else (k, v) :: insertEntry key value rest

theorem mem_insertEntry {key : String} {value : α} {e : String × α} {es : List (String × α)}
    (h : e ∈ insertEntry key value es) : e = (key, value) ∨ e ∈ es := by
  induction es with
  | nil => simpa [insertEntry] using h
  | cons hd tl ih =>
    rw [insertEntry] at h
    split at h
    · simpa using h
    · split at h
      · rcases List.mem_cons.1 h with h | h
        · exact .inl h
        · exact .inr (List.mem_cons_of_mem _ h)
      · rcases List.mem_cons.1 h with h | h
        · exact .inr (h ▸ List.mem_cons_self)
        · exact (ih h).imp id (List.mem_cons_of_mem _)

theorem pairwise_insertEntry (key : String) (value : α) {es : List (String × α)}
    (h : es.Pairwise fun a b => a.1 < b.1) :
    (insertEntry key value es).Pairwise fun a b => a.1 < b.1 := by
  induction es with
  | nil => simp [insertEntry]
  | cons hd tl ih =>
    obtain ⟨hhd, htl⟩ := List.pairwise_cons.1 h
    rw [insertEntry]
    split
    · rename_i hlt
      refine List.pairwise_cons.2 ⟨fun e he => ?_, h⟩
      rcases List.mem_cons.1 he with rfl | he
      · exact hlt
      · exact String.lt_trans hlt (hhd e he)
    · rename_i hlt
      split
      · rename_i heq
        exact List.pairwise_cons.2 ⟨fun e he => heq ▸ hhd e he, htl⟩
      · rename_i hne
        refine List.pairwise_cons.2 ⟨fun e he => ?_, ih htl⟩
        rcases mem_insertEntry he with rfl | he
        · rcases String.le_total key hd.1 with hle | hle
          · exact absurd (String.le_antisymm hle (String.not_lt.1 hlt)) hne
          · exact String.not_le.1 fun hle' => hne (String.le_antisymm hle' hle)
        · exact hhd e he

/-- Gives a key a value, whatever it had before. -/
def insert (m : SortedMap α) (key : String) (value : α) : SortedMap α :=
  ⟨insertEntry key value m.entries, pairwise_insertEntry key value m.sorted⟩

/-- Gives a key a value when it has none. -/
def insertIfNew (m : SortedMap α) (key : String) (value : α) : SortedMap α :=
  if m.contains key then m else m.insert key value

/-- What is found under a key, or else a value that the key has from now on. -/
def getOrInsert (m : SortedMap α) (key : String) (value : Unit → α) : SortedMap α × α :=
  match m.get? key with
  | some a => (m, a)
  | none =>
    let a := value ()
    (m.insert key a, a)

/-- The entries whose key and value satisfy the predicate. -/
def filter (p : String → α → Bool) (m : SortedMap α) : SortedMap α :=
  ⟨m.entries.filter fun e => p e.1 e.2, m.sorted.filter _⟩

/-- The map without a key. -/
def erase (m : SortedMap α) (key : String) : SortedMap α :=
  m.filter fun k _ => k != key

/-- The map with every value replaced by its image. -/
def map (f : α → β) (m : SortedMap α) : SortedMap β :=
  ⟨m.entries.map fun e => (e.1, f e.2), List.pairwise_map.2 m.sorted⟩

/-- The map of a list of entries; of two entries with one key the later counts. -/
def ofList (es : List (String × α)) : SortedMap α :=
  es.foldl (fun m e => m.insert e.1 e.2) empty

/-- The map of a list of entries; of two entries with one key the earlier counts. -/
def firstWins (es : List (String × α)) : SortedMap α :=
  es.foldl (fun m e => m.insertIfNew e.1 e.2) empty

end SortedMap

end ClassDocs
