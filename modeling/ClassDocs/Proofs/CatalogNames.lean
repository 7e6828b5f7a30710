import ClassDocs.Catalog.Basic
import ClassDocs.Proofs.TextLines

/-!
# Names in the catalog

The catalog writes a namespace without backslashes and without a slash at either end. Names of this
kind are joined to longer ones of the same kind, and where a name is cut does not matter when its
parts are joined again. The class name that such a name stands for has a backslash for every slash,
so that nothing is lost on the way there and back.

## Main definitions

* `Normalized`: names as the catalog writes them.

## Main results

* `normalized_normalizeNamespace`, `Normalized.normalizeNamespace_eq`: normalizing gives a
  normalized name and keeps one.
* `Normalized.normalizeNamespace_replaceChar`: a name can be taken back from its class name.
* `Catalog.joinParts_append`: parts may be joined in two steps.
* `Normalized.qualifiedClass_joinParts`: the class name of a key has a backslash for every slash.
* `slash_not_mem_qualifiedClass`: no class name holds a slash.
-/

namespace ClassDocs

/-! ### Trimming -/

namespace Text

variable {text : String}

theorem trimMatches_eq_self {p : Char → Bool} (hfirst : ∀ c ∈ text.toList.head?, p c = false)
    (hlast : ∀ c ∈ text.toList.getLast?, p c = false) : trimMatches p text = text := by
  rw [trimMatches, dropFront_eq_self hfirst, dropBack_eq_self hlast, String.ofList_toList]

theorem mem_of_mem_trimMatches {p : Char → Bool} {c : Char}
    (h : c ∈ (trimMatches p text).toList) : c ∈ text.toList := by
  rw [trimMatches, String.toList_ofList] at h
  exact (List.dropWhile_suffix _).subset ((dropBack_initial _ _).subset h)

end Text

/-! ### Normalized names -/

/-- Names as the catalog writes them: without backslashes, and without a slash at either end. -/
structure Normalized (name : String) : Prop where
  backslash : '\\' ∉ name.toList
  first : ∀ c ∈ name.toList.head?, c ≠ '/'
  last : ∀ c ∈ name.toList.getLast?, c ≠ '/'

theorem normalized_empty : Normalized "" :=
  ⟨by simp, by simp, by simp⟩

/-- A part of a name is normalized. -/
theorem Normalized.of_not_mem {name : String} (hslash : '/' ∉ name.toList)
    (hbackslash : '\\' ∉ name.toList) : Normalized name where
  backslash := hbackslash
  first := fun _ hc heq => hslash (heq ▸ List.mem_of_mem_head? hc)
  last := fun _ hc heq => hslash (heq ▸ List.mem_of_mem_getLast? hc)

theorem normalized_normalizeNamespace (name : String) : Normalized (normalizeNamespace name) := by
  refine ⟨fun hmem => ?_, fun c hc => ?_, fun c hc => ?_⟩
  · exact Text.not_mem_replaceChar (by decide) (Text.mem_of_mem_trimMatches hmem)
  · rw [normalizeNamespace, Text.trimMatches, String.toList_ofList] at hc
    have hfirst := Text.head?_dropBack_dropFront c hc
    simpa [namespaceSeparator] using hfirst
  · rw [normalizeNamespace, Text.trimMatches, String.toList_ofList] at hc
    have hlast := Text.getLast?_dropBack c hc
    simpa [namespaceSeparator] using hlast

theorem Normalized.normalizeNamespace_eq {name : String} (h : Normalized name) :
    normalizeNamespace name = name := by
  rw [normalizeNamespace, classSeparator, Text.replaceChar_of_not_mem h.backslash]
  refine Text.trimMatches_eq_self (fun c hc => ?_) fun c hc => ?_
  · exact beq_false_of_ne (h.first c hc)
  · exact beq_false_of_ne (h.last c hc)

/-- A name is taken back from its class name, which has backslashes for the slashes. -/
theorem Normalized.normalizeNamespace_replaceChar {name : String} (h : Normalized name) :
    normalizeNamespace (Text.replaceChar '/' '\\' name) = name := by
  have hback : Text.replaceChar '\\' '/' (Text.replaceChar '/' '\\' name) =
      Text.replaceChar '\\' '/' name := by
    rw [Text.replaceChar_replaceChar h.backslash, Text.replaceChar_of_not_mem h.backslash]
  have hname := h.normalizeNamespace_eq
  rw [normalizeNamespace, classSeparator, namespaceSeparator] at hname ⊢
  rw [hback, hname]

/-- Two names with a slash between them, neither of which is empty. -/
theorem Normalized.append {front back : String} (hfront : Normalized front)
    (hback : Normalized back) (hfirst : front ≠ "") (hlast : back ≠ "") :
    Normalized (front ++ "/" ++ back) where
  backslash := by
    simpa using ⟨hfront.backslash, hback.backslash⟩
  first := by
    intro c hc
    refine hfront.first c ?_
    cases hchars : front.toList with
    | nil => exact absurd (String.toList_eq_nil_iff.1 hchars) hfirst
    | cons d rest => simpa [hchars] using hc
  last := by
    intro c hc
    refine hback.last c ?_
    cases hchars : back.toList with
    | nil => exact absurd (String.toList_eq_nil_iff.1 hchars) hlast
    | cons d rest => simpa [hchars] using hc

/-! ### Joined names -/

namespace Catalog

variable {front back name : String} {parts : List String}

theorem joinParts_eq_intercalate (h : ∀ part ∈ parts, part ≠ "") :
    joinParts parts = String.intercalate "/" parts := by
  have hparts : parts.filter (· != "") = parts :=
    List.filter_eq_self.2 fun part hpart => by simp [h part hpart]
  rw [joinParts, hparts]
  rfl

theorem joinParts_pair (hfront : front ≠ "") (hback : back ≠ "") :
    joinParts [front, back] = front ++ "/" ++ back := by
  rw [joinParts_eq_intercalate (by simp [hfront, hback]), String.intercalate_cons_cons,
    String.intercalate_singleton]

theorem joinParts_singleton (part : String) : joinParts [part] = part := by
  by_cases h : part = ""
  · rw [h]
    rfl
  · rw [joinParts_eq_intercalate (by simpa using h), String.intercalate_singleton]

theorem joinParts_empty_left (back : String) : joinParts ["", back] = back :=
  joinParts_singleton back

theorem joinParts_empty_right (front : String) : joinParts [front, ""] = front := by
  by_cases h : front = ""
  · rw [h]
    rfl
  · have hparts : [front, ""].filter (· != "") = [front] := by simp [h]
    rw [joinParts, hparts, String.intercalate_singleton]

theorem joinParts_of_filter_eq_nil (h : parts.filter (· != "") = []) : joinParts parts = "" := by
  rw [joinParts, h, String.intercalate_nil]

theorem joinParts_ne_empty (h : parts.filter (· != "") ≠ []) : joinParts parts ≠ "" := by
  obtain ⟨part, rest, hparts⟩ := List.exists_cons_of_ne_nil h
  have hpart : part ≠ "" := by
    have hmem : part ∈ parts.filter (· != "") := hparts ▸ List.mem_cons_self
    simpa using (List.mem_filter.1 hmem).2
  rw [joinParts, hparts]
  cases rest with
  | nil => rwa [String.intercalate_singleton]
  | cons next rest =>
    rw [String.intercalate_cons_cons]
    simp

theorem intercalate_ne_empty (h : ∀ part ∈ parts, part ≠ "") (hne : parts ≠ []) :
    String.intercalate "/" parts ≠ "" := by
  rw [← joinParts_eq_intercalate h]
  refine joinParts_ne_empty ?_
  rwa [List.filter_eq_self.2 fun part hpart => bne_iff_ne.2 (h part hpart)]

/-- Parts may be joined in two steps. -/
theorem joinParts_append (xs ys : List String) :
    joinParts (xs ++ ys) = joinParts [joinParts xs, joinParts ys] := by
  by_cases hxs : xs.filter (· != "") = []
  · rw [joinParts_of_filter_eq_nil hxs, joinParts_empty_left, joinParts, List.filter_append, hxs,
      List.nil_append, joinParts]
  · by_cases hys : ys.filter (· != "") = []
    · rw [joinParts_of_filter_eq_nil hys, joinParts_empty_right, joinParts, List.filter_append, hys,
        List.append_nil, joinParts]
    · rw [joinParts_pair (joinParts_ne_empty hxs) (joinParts_ne_empty hys), joinParts,
        List.filter_append, String.intercalate_append_of_ne_nil hxs hys]
      rfl

/-- The joined parts of a name serve as one part of a longer name. -/
theorem joinParts_joinParts_cons (xs ys : List String) :
    joinParts (joinParts xs :: ys) = joinParts (xs ++ ys) := by
  rw [joinParts_append xs ys, ← List.singleton_append, joinParts_append [joinParts xs] ys,
    joinParts_singleton]

theorem normalized_pair (hfront : Normalized front) (hback : Normalized back) :
    Normalized (joinParts [front, back]) := by
  by_cases hfirst : front = ""
  · rwa [hfirst, joinParts_empty_left]
  · by_cases hlast : back = ""
    · rwa [hlast, joinParts_empty_right]
    · rw [joinParts_pair hfirst hlast]
      exact hfront.append hback hfirst hlast

theorem normalized_joinParts (h : ∀ part ∈ parts, Normalized part) :
    Normalized (joinParts parts) := by
  induction parts with
  | nil => exact normalized_empty
  | cons part rest ih =>
    rw [← List.singleton_append, joinParts_append, joinParts_singleton]
    exact normalized_pair (h part List.mem_cons_self)
      (ih fun other hother => h other (List.mem_cons_of_mem _ hother))

end Catalog

/-! ### Class names -/

section SplitLast

variable {c : Char} {text front back : String}

theorem splitLast?_of_not_mem (h : c ∉ text.toList) : splitLast? c text = none := by
  simp [splitLast?, h]

/-- A text is cut at its last separator. -/
theorem splitLast?_append (h : c ∉ back.toList) (front : String) :
    splitLast? c (front ++ c.toString ++ back) = some (front, back) := by
  have hchars : (front ++ c.toString ++ back).toList.reverse =
      back.toList.reverse ++ c :: front.toList.reverse := by
    simp [Char.toString]
  have hback : ∀ d ∈ back.toList.reverse, (d != c) = true := by
    intro d hd
    have hne : d ≠ c := fun heq => h (heq ▸ List.mem_reverse.1 hd)
    exact bne_iff_ne.2 hne
  rw [splitLast?, hchars]
  rw [if_pos (by simp), List.dropWhile_append_of_pos hback, List.takeWhile_append_of_pos hback]
  simp

/-- A text that holds a separator has a last one. -/
theorem exists_append_of_mem (h : c ∈ text.toList) :
    ∃ front back, text = front ++ c.toString ++ back ∧ c ∉ back.toList := by
  obtain ⟨after, before, hchars, hafter⟩ :=
    List.eq_append_cons_of_mem (List.mem_reverse.2 h)
  refine ⟨String.ofList before.reverse, String.ofList after.reverse, ?_, by simpa using hafter⟩
  rw [← String.toList_inj, ← List.reverse_inj, hchars]
  simp [Char.toString]

end SplitLast

section ClassNames

variable {front name : String}

theorem className_empty (name : String) : className "" name = name := rfl

theorem Normalized.className_eq (h : Normalized front) (hne : front ≠ "") (name : String) :
    className front name = Text.replaceChar '/' '\\' front ++ "\\" ++ name := by
  have hinner {c : Char} (hmem : c ∈ front.toList) (hc : c ≠ '/') : isSeparator c = false := by
    have hbackslash : c ≠ '\\' := fun heq => h.backslash (heq ▸ hmem)
    simp [isSeparator, namespaceSeparator, classSeparator, hc, hbackslash]
  have htrim : Text.trimMatches isSeparator front = front := Text.trimMatches_eq_self
    (fun c hc => hinner (List.mem_of_mem_head? hc) (h.first c hc))
    (fun c hc => hinner (List.mem_of_mem_getLast? hc) (h.last c hc))
  rw [className, htrim, if_neg hne]
  rfl

theorem qualifiedClass_of_not_mem (h : '/' ∉ name.toList) : qualifiedClass name = name := by
  rw [qualifiedClass, namespaceSeparator, splitLast?_of_not_mem h]

theorem qualifiedClass_append (h : '/' ∉ name.toList) (front : String) :
    qualifiedClass (front ++ "/" ++ name) = className front name := by
  have hsplit : splitLast? namespaceSeparator (front ++ "/" ++ name) = some (front, name) :=
    splitLast?_append h front
  rw [qualifiedClass, hsplit]

theorem slash_not_mem_className (h : '/' ∉ name.toList) (front : String) :
    '/' ∉ (className front name).toList := by
  rw [className]
  split_ifs
  · exact h
  · have hfront : '/' ∉ (Text.replaceChar namespaceSeparator classSeparator
        (Text.trimMatches isSeparator front)).toList := Text.not_mem_replaceChar (by decide)
    simpa [h, classSeparator, Char.toString] using hfront

/-- No class name that a text stands for holds a slash. -/
theorem slash_not_mem_qualifiedClass (text : String) : '/' ∉ (qualifiedClass text).toList := by
  by_cases hmem : '/' ∈ text.toList
  · obtain ⟨front, name, rfl, hname⟩ := exists_append_of_mem hmem
    rw [show '/'.toString = "/" from rfl, qualifiedClass_append hname]
    exact slash_not_mem_className hname front
  · rwa [qualifiedClass_of_not_mem hmem]

/-- The class name of a key has a backslash for every slash of the key. -/
theorem Normalized.qualifiedClass_joinParts (h : Normalized front) (hslash : '/' ∉ name.toList)
    (hname : name ≠ "") :
    qualifiedClass (Catalog.joinParts [front, name]) =
      Text.replaceChar '/' '\\' (Catalog.joinParts [front, name]) := by
  by_cases hfront : front = ""
  · rw [hfront, Catalog.joinParts_empty_left, qualifiedClass_of_not_mem hslash,
      Text.replaceChar_of_not_mem hslash]
  · rw [Catalog.joinParts_pair hfront hname, qualifiedClass_append hslash, h.className_eq hfront,
      Text.replaceChar_append, Text.replaceChar_append, Text.replaceChar_of_not_mem hslash]
    rfl

end ClassNames

end ClassDocs
