import ClassDocs.Proofs.RegistryCalls
import ClassDocs.Proofs.TagRuns
import Mathlib.Data.String.Basic

/-!
# Lines that open a tag

In a registry that calls lead to, a line opens a tag when it is the marker and a registered name,
or starts with these and a space where the name has at least three characters. A line can also be
read by byte offsets: the name stands between the marker and the first space, which must lie beyond
offset three, and the text of the line starts behind a space after the name. Both readings agree
for any text, and no offset falls inside a character, because the names of such a registry have one
byte a character.

## Main definitions

* `Text.offsetOf?`, `Text.slice?`: byte offsets, and the text between two of them.
* `Registry.classifyBytes`: the tag that a line opens, by byte offsets.

## Main results

* `Registry.marked_cases`: what a line can start with.
* `Registry.candidate?_eq_some_iff`: the lines that offer a name.
* `Registry.WellNamed.classify_eq_some_iff`: the lines that open a tag.
* `Registry.WellNamed.classifyBytes_eq`: the two readings agree.
* `Registry.grammar_of_reachable`: names, calls and tag lines of a registry that calls lead to.
-/

namespace ClassDocs

/-! ### Byte offsets -/

namespace Text

variable {c : Char} {cs : List Char}

/-- The byte offset of the first occurrence of a character. -/
def offsetOf? (c : Char) : List Char → Option Nat
  | [] => none
  | d :: rest => if d = c then some 0 else (offsetOf? c rest).map (· + d.utf8Size)

theorem offsetOf?_of_not_mem (h : c ∉ cs) : offsetOf? c cs = none := by
  induction cs with
  | nil => rfl
  | cons d rest ih =>
    obtain ⟨hd, hrest⟩ := List.ne_and_not_mem_of_not_mem_cons h
    rw [offsetOf?, if_neg hd.symm, ih hrest, Option.map_none]

/-- The first occurrence comes after the bytes of what stands in front of it. -/
theorem offsetOf?_append (h : c ∉ cs) (more : List Char) :
    offsetOf? c (cs ++ c :: more) = some (String.utf8Len cs) := by
  induction cs with
  | nil => rw [List.nil_append, offsetOf?, if_pos rfl, String.utf8Len_nil]
  | cons d rest ih =>
    obtain ⟨hd, hrest⟩ := List.ne_and_not_mem_of_not_mem_cons h
    rw [List.cons_append, offsetOf?, if_neg hd.symm, ih hrest, Option.map_some,
      String.utf8Len_cons]

/-- Characters up to U+007F have one byte each. -/
theorem utf8Len_eq_length (h : ∀ c ∈ cs, c.toNat ≤ 127) : String.utf8Len cs = cs.length := by
  induction cs with
  | nil => rfl
  | cons c rest ih =>
    obtain ⟨hc, hrest⟩ := List.forall_mem_cons.1 h
    have hsize : c.utf8Size = 1 := Char.utf8Size_eq_one_iff.2 (UInt32.le_iff_toNat_le.2 hc)
    rw [String.utf8Len_cons, hsize, ih hrest, List.length_cons]

/-- The text between two byte offsets; there is none unless both fall between characters. -/
def slice? (text : String) (start stop : Nat) : Option String :=
  if start ≤ stop ∧ String.Pos.Raw.isValid text ⟨start⟩ = true ∧
      String.Pos.Raw.isValid text ⟨stop⟩ = true then
    some (String.Pos.Raw.extract text ⟨start⟩ ⟨stop⟩)
  else none

/-- An offset that comes after the bytes of some characters falls between characters. -/
theorem isValid_append {text : String} (front back : List Char)
    (h : text.toList = front ++ back) :
    String.Pos.Raw.isValid text ⟨String.utf8Len front⟩ = true := by
  refine String.Pos.Raw.isValid_eq_true_iff.2 (String.Pos.Raw.isValid_iff_exists_append.2 ?_)
  refine ⟨String.ofList front, String.ofList back, ?_, ?_⟩
  · exact String.toList_injective (by simp [h])
  · rw [String.rawEndPos, String.utf8ByteSize_ofList]

/-- What stands between two such offsets is cut out. -/
theorem slice?_append {text : String} (front middle back : List Char)
    (h : text.toList = front ++ middle ++ back) :
    slice? text (String.utf8Len front) (String.utf8Len front + String.utf8Len middle) =
      some (String.ofList middle) := by
  have hstart := isValid_append front (middle ++ back) (by rw [h, List.append_assoc])
  have hstop := isValid_append (front ++ middle) back h
  rw [String.utf8Len_append] at hstop
  rw [slice?, if_pos ⟨Nat.le_add_right _ _, hstart, hstop⟩, ← String.ofList_toList (s := text), h,
    String.extract_of_valid]

end Text

namespace Registry

variable {reg : Registry} {line tag : String}

/-- A tag name has one byte a character. -/
theorem TagName.utf8Len_eq {name : String} (h : TagName name) :
    String.utf8Len name.toList = name.toList.length :=
  Text.utf8Len_eq_length fun _ hc => (h.between hc).2.trans (by decide)

/-! ### Offered names -/

/-- A line has no marker, or a marker and characters up to its end or up to a first space. -/
theorem marked_cases (line : String) :
    (∀ rest, line.toList ≠ '@' :: rest) ∨
      (∃ name, ' ' ∉ name ∧ line.toList = '@' :: name) ∨
      ∃ name text, ' ' ∉ name ∧ line.toList = '@' :: (name ++ ' ' :: text) := by
  by_cases hmark : ∃ rest, line.toList = '@' :: rest
  · obtain ⟨rest, hline⟩ := hmark
    by_cases hspace : ' ' ∈ rest
    · obtain ⟨name, text, rfl, hname⟩ := List.eq_append_cons_of_mem hspace
      exact .inr (.inr ⟨name, text, hname, hline⟩)
    · exact .inr (.inl ⟨rest, hspace, hline⟩)
  · exact .inl (not_exists.1 hmark)

theorem candidate?_of_unmarked (h : ∀ rest, line.toList ≠ '@' :: rest) :
    candidate? line = none := by
  unfold candidate?
  split
  · rename_i rest hline
    exact absurd hline (h rest)
  · rfl

/-- Up to the end of the line any name is offered, but for the empty one. -/
theorem candidate?_bare {name : List Char} (hname : ' ' ∉ name)
    (h : line.toList = '@' :: name) :
    candidate? line = if name = [] then none else some (String.ofList name) := by
  have htake : name.takeWhile (· != ' ') = name :=
    List.takeWhile_eq_self_iff.2 fun c hc => bne_iff_ne.2 fun heq => hname (heq ▸ hc)
  simp only [candidate?, h, htake, Nat.lt_irrefl, false_and, or_false]

/-- In front of a space only a name of at least three characters is offered. -/
theorem candidate?_space {name text : List Char} (hname : ' ' ∉ name)
    (h : line.toList = '@' :: (name ++ ' ' :: text)) :
    candidate? line = if name.length < 3 then none else some (String.ofList name) := by
  have hchars : ∀ c ∈ name, (c != ' ') = true := fun c hc =>
    bne_iff_ne.2 fun heq => hname (heq ▸ hc)
  have htake : (name ++ ' ' :: text).takeWhile (· != ' ') = name := by
    rw [List.takeWhile_append_of_pos hchars, List.takeWhile_cons_of_neg (by simp),
      List.append_nil]
  have hlength : name.length < (name ++ ' ' :: text).length := by simp
  have hcond : (name = [] ∨ name.length < (name ++ ' ' :: text).length ∧ name.length < 3) ↔
      name.length < 3 := by
    constructor
    · rintro (rfl | ⟨-, hshort⟩)
      · decide
      · exact hshort
    · exact fun hshort => .inr ⟨hlength, hshort⟩
  simp only [candidate?, h, htake, hcond]

/-- The lines that offer a name as a tag. -/
theorem candidate?_eq_some_iff :
    candidate? line = some tag ↔ tag ≠ "" ∧ ' ' ∉ tag.toList ∧
      (line = "@" ++ tag ∨ 3 ≤ tag.length ∧ ∃ text, line = "@" ++ tag ++ " " ++ text) := by
  constructor
  · intro h
    obtain hmark | ⟨name, hname, hline⟩ | ⟨name, text, hname, hline⟩ := marked_cases line
    · rw [candidate?_of_unmarked hmark] at h
      cases h
    · rw [candidate?_bare hname hline] at h
      split_ifs at h with hempty
      obtain rfl := Option.some.inj h
      refine ⟨by simpa using hempty, by simpa using hname, .inl ?_⟩
      exact String.toList_injective (by simp [hline])
    · rw [candidate?_space hname hline] at h
      split_ifs at h with hshort
      obtain rfl := Option.some.inj h
      have hlong : 3 ≤ (String.ofList name).length := by
        rw [String.length_ofList]
        omega
      have hempty : name ≠ [] := by
        rintro rfl
        exact hshort (by decide)
      refine ⟨by simpa using hempty, by simpa using hname, .inr ⟨hlong, String.ofList text, ?_⟩⟩
      exact String.toList_injective (by simp [hline])
  · rintro ⟨hempty, hspace, rfl | ⟨hlong, text, rfl⟩⟩
    · have hline : ("@" ++ tag).toList = '@' :: tag.toList := by simp
      rw [candidate?_bare hspace hline, if_neg (by simpa using hempty), String.ofList_toList]
    · have hline : ("@" ++ tag ++ " " ++ text).toList =
          '@' :: (tag.toList ++ ' ' :: text.toList) := by simp
      have hshort : ¬tag.toList.length < 3 := by
        rw [String.length_toList]
        omega
      rw [candidate?_space hspace hline, if_neg hshort, String.ofList_toList]

/-! ### Opened tags -/

/-- A line opens a registered name that is all it has after the marker, or that has at least three
characters and a space after it. -/
theorem WellNamed.classify_eq_some_iff (h : reg.WellNamed) :
    reg.classify line = some tag ↔ reg.contains tag = true ∧
      (line = "@" ++ tag ∨ 3 ≤ tag.length ∧ ∃ text, line = "@" ++ tag ++ " " ++ text) := by
  rw [classify, Option.filter_eq_some_iff, candidate?_eq_some_iff]
  constructor
  · rintro ⟨⟨-, -, hline⟩, hcontains⟩
    exact ⟨hcontains, hline⟩
  · rintro ⟨hcontains, hline⟩
    obtain ⟨handler, hfind⟩ := contains_iff_find?.1 hcontains
    have hname := h.tagName tag handler hfind
    exact ⟨⟨hname.ne_empty, hname.space_not_mem, hline⟩, hcontains⟩

/-- A tag that was cut out of a line, when it is not empty and registered. -/
def registered? (reg : Registry) (tag : String) : Option String :=
  if tag = "" ∨ reg.contains tag = false then none else some tag

/-- The tag that a line opens, by byte offsets: what stands between the marker and the first space,
which must lie beyond offset three, or the end. There is no answer when an offset at which the line
is cut falls inside a character. -/
def classifyBytes (reg : Registry) (line : String) : Option (Option String) :=
  match line.toList with
  | '@' :: _ =>
    match Text.offsetOf? ' ' line.toList with
    | none => (Text.slice? line 1 line.utf8ByteSize).map reg.registered?
    | some stop => if 3 < stop then (Text.slice? line 1 stop).map reg.registered? else some none
  | _ => some none

theorem classifyBytes_of_unmarked (h : ∀ rest, line.toList ≠ '@' :: rest) :
    reg.classifyBytes line = some none := by
  unfold classifyBytes
  split
  · rename_i rest hline
    exact absurd hline (h rest)
  · rfl

theorem classifyBytes_bare {name : List Char} (hname : ' ' ∉ name)
    (h : line.toList = '@' :: name) :
    reg.classifyBytes line = some (reg.registered? (String.ofList name)) := by
  have hspace : ' ' ∉ '@' :: name := List.not_mem_cons_of_ne_of_not_mem (by decide) hname
  have hsize : line.utf8ByteSize = String.utf8Len ['@'] + String.utf8Len name := by
    rw [← String.ofList_toList (s := line), h, String.utf8ByteSize_ofList, ← String.utf8Len_append]
    rfl
  have hslice : Text.slice? line 1 line.utf8ByteSize = some (String.ofList name) := by
    rw [hsize]
    exact Text.slice?_append ['@'] name [] (by simp [h])
  simp only [classifyBytes, h, Text.offsetOf?_of_not_mem hspace, hslice, Option.map_some]

theorem classifyBytes_space {name text : List Char} (hname : ' ' ∉ name)
    (h : line.toList = '@' :: (name ++ ' ' :: text)) :
    reg.classifyBytes line =
      some (if String.utf8Len name < 3 then none else reg.registered? (String.ofList name)) := by
  have hspace : ' ' ∉ '@' :: name := List.not_mem_cons_of_ne_of_not_mem (by decide) hname
  have hoffset : Text.offsetOf? ' ' line.toList = some (1 + String.utf8Len name) := by
    rw [h, ← List.cons_append, Text.offsetOf?_append hspace, String.utf8Len_cons, Nat.add_comm]
    rfl
  have hslice : Text.slice? line 1 (1 + String.utf8Len name) = some (String.ofList name) :=
    Text.slice?_append ['@'] name (' ' :: text) (by simp [h])
  rw [h] at hoffset
  simp only [classifyBytes, h, hoffset, hslice, Option.map_some]
  by_cases hshort : String.utf8Len name < 3
  · rw [if_neg (by omega), if_pos hshort]
  · rw [if_pos (by omega), if_neg hshort]

/-- The reading by byte offsets never cuts inside a character and finds the tag that a line opens.
Three bytes are three characters for a name that is registered. -/
theorem WellNamed.classifyBytes_eq (h : reg.WellNamed) (line : String) :
    reg.classifyBytes line = some (reg.classify line) := by
  rw [classify]
  obtain hmark | ⟨name, hname, hline⟩ | ⟨name, text, hname, hline⟩ := marked_cases line
  · rw [classifyBytes_of_unmarked hmark, candidate?_of_unmarked hmark, Option.filter_none]
  · rw [classifyBytes_bare hname hline, candidate?_bare hname hline, registered?]
    by_cases hempty : name = []
    · simp [hempty]
    · cases hcontains : reg.contains (String.ofList name) <;>
        simp [hempty, hcontains, Option.filter_some]
  · rw [classifyBytes_space hname hline, candidate?_space hname hline, registered?]
    cases hcontains : reg.contains (String.ofList name) with
    | false =>
      split_ifs <;> simp_all [Option.filter_some]
    | true =>
      obtain ⟨handler, hfind⟩ := contains_iff_find?.1 hcontains
      have htag := h.tagName _ handler hfind
      have hbytes : String.utf8Len name = name.length := by
        simpa using htag.utf8Len_eq
      have hempty : String.ofList name ≠ "" := htag.ne_empty
      rw [hbytes]
      split_ifs <;> simp_all [Option.filter_some]

/-- The offset behind a tag and a space lies just past the end of a line that is the tag alone.
Otherwise it falls between characters, and the text of the line starts there. -/
theorem slice?_textAfter (h : reg.classify line = some tag) :
    (line = "@" ++ tag ∧ tag.utf8ByteSize + 2 = line.utf8ByteSize + 1 ∧ textAfter tag line = "") ∨
      Text.slice? line (tag.utf8ByteSize + 2) line.utf8ByteSize = some (textAfter tag line) := by
  obtain ⟨-, ⟨hline, htext⟩ | hline⟩ := opens_textAfter h
  · refine .inl ⟨hline, ?_, htext⟩
    have hmark : "@".utf8ByteSize = 1 := rfl
    rw [hline, String.utf8ByteSize_append, hmark]
    omega
  · right
    generalize textAfter tag line = text at hline
    subst hline
    have hsize : ("@" ++ tag ++ " " ++ text).utf8ByteSize =
        tag.utf8ByteSize + 2 + String.utf8Len text.toList := by
      have hmark : "@".utf8ByteSize = 1 := rfl
      have hspace : " ".utf8ByteSize = 1 := rfl
      have htext : text.utf8ByteSize = String.utf8Len text.toList := by
        rw [← String.utf8ByteSize_ofList, String.ofList_toList]
      simp only [String.utf8ByteSize_append, hmark, hspace, htext]
      omega
    have hfront : tag.utf8ByteSize + 2 = String.utf8Len ('@' :: tag.toList ++ [' ']) := by
      have htag : tag.utf8ByteSize = String.utf8Len tag.toList := by
        rw [← String.utf8ByteSize_ofList, String.ofList_toList]
      rw [String.utf8Len_append, String.utf8Len_cons, htag]
      rfl
    rw [hsize, hfront]
    have hline : ("@" ++ tag ++ " " ++ text).toList =
        ('@' :: tag.toList ++ [' ']) ++ text.toList ++ [] := by simp
    rw [Text.slice?_append _ _ _ hline, String.ofList_toList]

/-! ### Registries that calls lead to -/

/-- In a registry that calls lead to, each handler stands under its own name, which can name a tag;
the names are listed in increasing order; registering is refused exactly for what cannot name a tag,
and then changes nothing. A line opens a tag exactly when it starts with it as it should, and
reading it by byte offsets finds the same without ever cutting inside a character. -/
theorem grammar_of_reachable (reg : Registry) (h : reg.Reachable) :
    (∀ name handler, reg.find? name = some handler → handler.name = name ∧ TagName name) ∧
    (reg.names.Pairwise (· < ·) ∧
      (∀ name, name ∈ reg.names ↔ ∃ handler, reg.find? name = some handler) ∧
      reg.size = reg.names.length) ∧
    (∀ handler, ((∃ e, reg.add handler = .error e) ↔ ¬TagName handler.name) ∧
      (¬TagName handler.name → reg.after (.add handler) = reg)) ∧
    (∀ line tag, reg.classify line = some tag ↔ reg.contains tag = true ∧
      (line = "@" ++ tag ∨ 3 ≤ tag.length ∧ ∃ text, line = "@" ++ tag ++ " " ++ text)) ∧
    (∀ line, reg.classifyBytes line = some (reg.classify line)) ∧
    ∀ line tag, reg.classify line = some tag →
      (line = "@" ++ tag ∧ tag.utf8ByteSize + 2 = line.utf8ByteSize + 1 ∧
        textAfter tag line = "") ∨
      Text.slice? line (tag.utf8ByteSize + 2) line.utf8ByteSize = some (textAfter tag line) := by
  have hnamed := h.wellNamed
  refine ⟨fun name handler hfind => ⟨hnamed.own_name _ _ hfind, hnamed.tagName _ _ hfind⟩,
    ⟨List.pairwise_map.2 reg.handlers.sorted, fun _ => SortedMap.mem_keys_iff, ?_⟩, ?_,
    fun _ _ => hnamed.classify_eq_some_iff, hnamed.classifyBytes_eq, fun _ _ => slice?_textAfter⟩
  · rw [names, SortedMap.keys, List.length_map]
    rfl
  · intro handler
    refine ⟨?_, fun hname => by rw [after_add, if_neg hname]⟩
    simp only [add_eq_error_iff, exists_and_left, exists_eq, and_true]

/-- Registries after calls of which one is refused; two names are too short to stand before a
space. -/
def shortNames : Registry :=
  [.addAlias "x" .todo, .addAlias "two words" .see, .addAlias "ab" .todo, .addAlias "see" .see,
    .remove "x"].foldl after empty

/-- A short name alone, a short name before a space, and a line that is not ASCII before its first
space, which lies beyond offset three. -/
theorem grammar_of_reachable_shortNames :
    shortNames.Reachable ∧ shortNames.classify "@ab" = some "ab" ∧
      shortNames.classify "@ab text" ≠ some "ab" ∧ shortNames.classify "@see " = some "see" ∧
      shortNames.classifyBytes "@éé see" = some (shortNames.classify "@éé see") := by
  have hreach : shortNames.Reachable := Reachable.empty.foldl_after _
  obtain ⟨-, -, -, hgrammar, hbytes, -⟩ := grammar_of_reachable shortNames hreach
  refine ⟨hreach, (hgrammar _ _).2 ⟨by decide, .inl (by decide)⟩, fun hopen => ?_,
    (hgrammar _ _).2 ⟨by decide, .inr ⟨by decide, "", by decide⟩⟩, hbytes _⟩
  obtain ⟨-, hline | ⟨hlong, -⟩⟩ := (hgrammar _ _).1 hopen
  · exact absurd hline (by decide)
  · exact absurd hlong (by decide)

end Registry

end ClassDocs
