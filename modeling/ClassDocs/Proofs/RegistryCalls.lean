import ClassDocs.Doc.Registry
import ClassDocs.Proofs.KeyedMaps

/-!
# Registries that calls lead to

A registry starts without tags or with those known from the start, and changes by calls that
register a handler, register an alias or remove a name. Registering is refused for a text that
cannot name a tag, and a call that is refused leaves the registry as it is. So in every registry
that calls lead to, each handler stands under its own name, and that can name a tag.

## Main definitions

* `Registry.TagName`: the texts that can name a tag.
* `Registry.Call`, `Registry.after`: a call, and the registry after it.
* `Registry.Reachable`: the registries that calls lead to.
* `Registry.WellNamed`: registries whose handlers stand under their own names.

## Main results

* `Registry.isTagName_iff`: the check on names tells the texts that can name a tag.
* `Registry.find?_put`, `Registry.find?_remove`: what one change does to a name.
* `Registry.find?_foldl_put`, `Registry.find?_foldl_remove`: what a row of changes does to it.
* `Registry.after_cases`: all that a call can do.
* `Registry.Reachable.wellNamed`: calls lead to well-named registries only.
-/

namespace ClassDocs.Registry

variable {reg : Registry} {name : String} {handler : Handler}

/-! ### Tag names -/

/-- An ASCII letter. -/
def Letter (c : Char) : Prop :=
  'a' ≤ c ∧ c ≤ 'z' ∨ 'A' ≤ c ∧ c ≤ 'Z'

/-- A text that can name a tag: an ASCII letter, then ASCII letters, digits, `_` and `-`. -/
def TagName (name : String) : Prop :=
  ∃ first rest, name.toList = first :: rest ∧ Letter first ∧
    ∀ c ∈ rest, Letter c ∨ '0' ≤ c ∧ c ≤ '9' ∨ c = '_' ∨ c = '-'

theorem isNameStart_iff {c : Char} : isNameStart c = true ↔ Letter c := by
  simp [isNameStart, Letter]

theorem isNameChar_iff {c : Char} :
    isNameChar c = true ↔ Letter c ∨ '0' ≤ c ∧ c ≤ '9' ∨ c = '_' ∨ c = '-' := by
  simp [isNameChar, isNameStart_iff, or_assoc]

/-- The check on names tells the texts that can name a tag. -/
theorem isTagName_iff : isTagName name = true ↔ TagName name := by
  rw [isTagName, TagName]
  cases hname : name.toList with
  | nil => simp
  | cons first rest =>
    simp only [Bool.and_eq_true, List.all_eq_true, isNameStart_iff, isNameChar_iff]
    constructor
    · rintro ⟨hfirst, hrest⟩
      exact ⟨first, rest, rfl, hfirst, hrest⟩
    · rintro ⟨first', rest', heq, hfirst, hrest⟩
      obtain ⟨rfl, rfl⟩ := List.cons.inj heq
      exact ⟨hfirst, hrest⟩

instance (name : String) : Decidable (TagName name) :=
  decidable_of_iff _ isTagName_iff

namespace TagName

theorem ne_empty (h : TagName name) : name ≠ "" := by
  obtain ⟨first, rest, hname, -⟩ := h
  rintro rfl
  simp at hname

/-- The characters of a tag name lie between the space and the end of the ASCII letters. -/
theorem between (h : TagName name) {c : Char} (hc : c ∈ name.toList) :
    ' '.toNat < c.toNat ∧ c.toNat ≤ 'z'.toNat := by
  have hletter {d : Char} (hd : Letter d) : ' '.toNat < d.toNat ∧ d.toNat ≤ 'z'.toNat := by
    rcases hd with ⟨hlow, hhigh⟩ | ⟨hlow, hhigh⟩
    · exact ⟨Nat.lt_of_lt_of_le (by decide) (show 'a'.toNat ≤ d.toNat from hlow), hhigh⟩
    · exact ⟨Nat.lt_of_lt_of_le (by decide) (show 'A'.toNat ≤ d.toNat from hlow),
        Nat.le_trans (show d.toNat ≤ 'Z'.toNat from hhigh) (by decide)⟩
  obtain ⟨first, rest, hname, hfirst, hrest⟩ := h
  rw [hname, List.mem_cons] at hc
  rcases hc with rfl | hc
  · exact hletter hfirst
  · rcases hrest c hc with hc | ⟨hlow, hhigh⟩ | rfl | rfl
    · exact hletter hc
    · exact ⟨Nat.lt_of_lt_of_le (by decide) (show '0'.toNat ≤ c.toNat from hlow),
        Nat.le_trans (show c.toNat ≤ '9'.toNat from hhigh) (by decide)⟩
    · decide
    · decide

theorem space_not_mem (h : TagName name) : ' ' ∉ name.toList := fun hmem =>
  Nat.lt_irrefl _ (h.between hmem).1

end TagName

/-! ### Calls -/

/-- A call that changes a registry. -/
inductive Call where
  | add (handler : Handler)
  | addAlias (name : String) (kind : TagKind)
  | remove (name : String)

/-- The registry that a call asks for, unless the call is refused. -/
def attempt (reg : Registry) : Call → Except DocError Registry
  | .add handler => reg.add handler
  | .addAlias name kind => reg.addAlias name kind
  | .remove name => .ok (reg.remove name)

/-- The registry after a call. A call that is refused leaves it as it is. -/
def after (reg : Registry) (call : Call) : Registry :=
  match reg.attempt call with
  | .ok next => next
  | .error _ => reg

/-- The registries that calls lead to, from none of the tags or from those known from the start. -/
inductive Reachable : Registry → Prop
  | empty : Reachable empty
  | builtin : Reachable builtin
  | call {reg : Registry} (h : Reachable reg) (call : Call) : Reachable (reg.after call)

theorem Reachable.foldl_after (h : reg.Reachable) (calls : List Call) :
    (calls.foldl after reg).Reachable := by
  induction calls generalizing reg with
  | nil => exact h
  | cons call rest ih => exact ih (h.call call)

theorem find?_put (reg : Registry) (handler : Handler) (name : String) :
    (reg.put handler).find? name = if name = handler.name then some handler else reg.find? name :=
  SortedMap.get?_insert reg.handlers handler.name handler name

theorem find?_remove (reg : Registry) (removed name : String) :
    (reg.remove removed).find? name = if name = removed then none else reg.find? name := by
  rw [find?, remove, SortedMap.erase, SortedMap.get?_filter]
  split_ifs with hname
  · simp [hname]
  · change (reg.find? name).filter (fun _ => name != removed) = reg.find? name
    rw [bne_iff_ne.2 hname]
    cases reg.find? name <;> rfl

theorem find?_foldl_remove (removed : List String) (reg : Registry) (name : String) :
    (removed.foldl remove reg).find? name = if name ∈ removed then none else reg.find? name := by
  induction removed generalizing reg with
  | nil => simp
  | cons first rest ih =>
    rw [List.foldl_cons, ih, find?_remove]
    by_cases hrest : name ∈ rest
    · simp [hrest]
    · by_cases hfirst : name = first <;> simp [hrest, hfirst]

/-- Handlers with different names are all found, and what was there before under other names. -/
theorem find?_foldl_put {handlers : List Handler}
    (hnames : ∀ a ∈ handlers, ∀ b ∈ handlers, a.name = b.name → a = b) (reg : Registry) :
    (handlers.foldl put reg).find? name = some handler ↔
      handler ∈ handlers ∧ handler.name = name ∨
        (∀ other ∈ handlers, other.name ≠ name) ∧ reg.find? name = some handler := by
  induction handlers generalizing reg with
  | nil => simp
  | cons first rest ih =>
    have hrest : ∀ a ∈ rest, ∀ b ∈ rest, a.name = b.name → a = b := fun a ha b hb =>
      hnames a (List.mem_cons_of_mem _ ha) b (List.mem_cons_of_mem _ hb)
    have hfirst : ∀ a ∈ rest, a.name = first.name → a = first := fun a ha =>
      hnames a (List.mem_cons_of_mem _ ha) first List.mem_cons_self
    rw [List.foldl_cons, ih hrest, find?_put, List.mem_cons, List.forall_mem_cons]
    split_ifs with hname
    · subst hname
      constructor
      · rintro (⟨hmem, heq⟩ | ⟨-, hsome⟩)
        · exact .inl ⟨.inr hmem, heq⟩
        · obtain rfl := Option.some.inj hsome
          exact .inl ⟨.inl rfl, rfl⟩
      · rintro (⟨rfl | hmem, heq⟩ | ⟨⟨hne, -⟩, -⟩)
        · by_cases hagain : ∀ other ∈ rest, other.name ≠ handler.name
          · exact .inr ⟨hagain, rfl⟩
          · push Not at hagain
            obtain ⟨other, hother, heq⟩ := hagain
            exact .inl ⟨hfirst other hother heq ▸ hother, rfl⟩
        · exact .inl ⟨hmem, heq⟩
        · exact absurd rfl hne
    · constructor
      · rintro (⟨hmem, heq⟩ | ⟨hnone, hfound⟩)
        · exact .inl ⟨.inr hmem, heq⟩
        · exact .inr ⟨⟨Ne.symm hname, hnone⟩, hfound⟩
      · rintro (⟨rfl | hmem, heq⟩ | ⟨⟨-, hnone⟩, hfound⟩)
        · exact absurd heq.symm hname
        · exact .inl ⟨hmem, heq⟩
        · exact .inr ⟨hnone, hfound⟩

/-- Registries in which the same is found under every name are the same. -/
theorem ext_find? {other : Registry} (h : ∀ name, reg.find? name = other.find? name) :
    reg = other :=
  congrArg Registry.mk (SortedMap.ext_get? h)

/-- The tags known from the start are put in one after the other. -/
theorem builtin_eq : builtin =
    (TagKind.builtinNames.map fun b => Handler.builtin b.1 b.2).foldl put empty := by
  rw [List.foldl_map]
  rfl

theorem contains_iff_find? : reg.contains name = true ↔ ∃ handler, reg.find? name = some handler :=
  SortedMap.contains_iff

/-- Registering is refused exactly for a text that cannot name a tag. -/
theorem add_eq_error_iff {e : DocError} :
    reg.add handler = .error e ↔ ¬TagName handler.name ∧ e = .invalidTagName handler.name := by
  rw [add, ← isTagName_iff]
  split_ifs with hname
  · simp [hname]
  · simp [hname, eq_comm]

theorem after_add (reg : Registry) (handler : Handler) :
    reg.after (.add handler) = if TagName handler.name then reg.put handler else reg := by
  by_cases hname : TagName handler.name
  · rw [after, attempt, add, if_pos (isTagName_iff.2 hname), if_pos hname]
  · rw [after, attempt, add, if_neg (mt isTagName_iff.1 hname), if_neg hname]

theorem find?_after_add (reg : Registry) (handler : Handler) (name : String) :
    (reg.after (.add handler)).find? name =
      if TagName handler.name ∧ handler.name = name then some handler else reg.find? name := by
  rw [after_add]
  by_cases hname : TagName handler.name
  · simp only [hname, if_true, true_and, find?_put, eq_comm]
  · simp only [hname, if_false, false_and]

/-- A call puts a handler under a tag name, removes a name, or is refused. -/
theorem after_cases (reg : Registry) (call : Call) :
    (∃ handler, TagName handler.name ∧ reg.after call = reg.put handler) ∨
      (∃ name, reg.after call = reg.remove name) ∨ reg.after call = reg := by
  have hadd (handler : Handler) :
      (∃ handler', TagName handler'.name ∧ reg.after (.add handler) = reg.put handler') ∨
        reg.after (.add handler) = reg := by
    rw [after_add]
    split_ifs with hname
    · exact .inl ⟨handler, hname, rfl⟩
    · exact .inr rfl
  cases call with
  | add handler => exact (hadd handler).imp_right .inr
  | addAlias name kind => exact (hadd (.builtin name kind)).imp_right .inr
  | remove name => exact .inr (.inl ⟨name, rfl⟩)

/-! ### Handlers under their own names -/

/-- Every handler stands under its own name, and that can name a tag. -/
structure WellNamed (reg : Registry) : Prop where
  own_name : ∀ name handler, reg.find? name = some handler → handler.name = name
  tagName : ∀ name handler, reg.find? name = some handler → TagName name

namespace WellNamed

theorem empty : Registry.empty.WellNamed where
  own_name _ _ h := by simp [Registry.empty, find?] at h
  tagName _ _ h := by simp [Registry.empty, find?] at h

theorem put (h : reg.WellNamed) (hname : TagName handler.name) : (reg.put handler).WellNamed := by
  constructor <;> intro name found hfind <;> rw [find?_put] at hfind <;> split_ifs at hfind with heq
  · rw [← Option.some.inj hfind, heq]
  · exact h.own_name name found hfind
  · exact heq ▸ hname
  · exact h.tagName name found hfind

theorem remove (h : reg.WellNamed) (removed : String) : (reg.remove removed).WellNamed := by
  constructor <;> intro name found hfind <;> rw [find?_remove] at hfind <;> split_ifs at hfind
  · exact h.own_name name found hfind
  · exact h.tagName name found hfind

/-- A call keeps every handler under its own name. -/
theorem after (h : reg.WellNamed) (call : Call) : (reg.after call).WellNamed := by
  obtain ⟨handler, hname, heq⟩ | ⟨name, heq⟩ | heq := after_cases reg call
  · rw [heq]
    exact h.put hname
  · rw [heq]
    exact h.remove name
  · rw [heq]
    exact h

theorem foldl_put (h : reg.WellNamed) {handlers : List Handler}
    (hnames : ∀ handler ∈ handlers, TagName handler.name) :
    (handlers.foldl Registry.put reg).WellNamed := by
  induction handlers generalizing reg with
  | nil => exact h
  | cons handler rest ih =>
    exact ih (h.put (hnames handler List.mem_cons_self)) fun other hother =>
      hnames other (List.mem_cons_of_mem _ hother)

/-- The tags known from the start are put in without the check, but their names would pass it. -/
theorem builtin : Registry.builtin.WellNamed := by
  rw [builtin_eq]
  exact WellNamed.empty.foldl_put (by decide)

end WellNamed

theorem Reachable.wellNamed (h : reg.Reachable) : reg.WellNamed := by
  induction h with
  | empty => exact .empty
  | builtin => exact .builtin
  | call _ call ih => exact ih.after call

end ClassDocs.Registry
