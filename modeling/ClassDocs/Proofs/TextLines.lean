import ClassDocs.Text.Blank
import Mathlib.Data.List.TakeWhile

/-!
# Trimmed texts and lines

What trimming and splitting do to texts that are put together from parts: blanks at the ends of a
text are trimmed and nothing else, and a separator ends a part and nothing else does. Replacing a
character treats the parts of a text alike.

## Main definitions

* `Text.Trimmed`: texts without blanks at both ends.
* `Text.TrimsTo`: a text with the part that is kept when its end is trimmed.

## Main results

* `Text.trimmed_trim`, `Text.Trimmed.trim_eq`: trimming gives a trimmed text and keeps one.
* `Text.trim_blank_append`, `Text.trim_append_blank`: blanks around a text are trimmed.
* `Text.trimEnd_eq_iff`: trimming the end of a text.
* `Text.splitOn_append`, `Text.splitOn_intercalate`: the parts of texts that are put together.
* `Text.lines_append_feed`, `Text.lines_of_not_mem`: the lines of a text, one after the other.
* `Text.not_mem_of_mem_lines`, `Text.intercalate_lines`: no line holds a line feed, and joined they
  are the text.
* `Text.replaceChar_append`, `Text.replaceChar_replaceChar`: replacing a character, and taking it
  back.
-/

namespace ClassDocs.Text

variable {text front back line : String}

/-! ### Trimming -/

/-- Characters without a blank at either end. -/
def TrimmedChars (cs : List Char) : Prop :=
  (∀ c ∈ cs.head?, isBlank c = false) ∧ ∀ c ∈ cs.getLast?, isBlank c = false

/-- A text without a blank at either end. -/
def Trimmed (text : String) : Prop :=
  TrimmedChars text.toList

-- The instance is named, so that only the two ends are looked at and not every character there is.
instance (text : String) : Decidable (Trimmed text) :=
  @instDecidableAnd _ _ (Option.decidableForallMem _) (Option.decidableForallMem _)

theorem getLast?_dropBack {p : Char → Bool} {cs : List Char} :
    ∀ c ∈ (dropBack p cs).getLast?, p c = false := by
  intro c hc
  rw [dropBack, List.getLast?_reverse] at hc
  have hstop := List.head?_dropWhile_not p cs.reverse
  rw [hc] at hstop
  simpa using hstop

/-- What is left before the trailing characters is an initial part. -/
theorem dropBack_initial (p : Char → Bool) (cs : List Char) : dropBack p cs <+: cs := by
  have hsuffix := List.dropWhile_suffix (l := cs.reverse) p
  simpa [dropBack] using List.reverse_prefix.2 hsuffix

theorem head?_of_initial {xs ys : List Char} (h : xs <+: ys) {c : Char} (hc : c ∈ xs.head?) :
    c ∈ ys.head? := by
  obtain ⟨zs, rfl⟩ := h
  cases xs with
  | nil => simp at hc
  | cons x xs => simpa using hc

theorem head?_dropBack_dropFront {p : Char → Bool} {cs : List Char} :
    ∀ c ∈ (dropBack p (dropFront p cs)).head?, p c = false := by
  intro c hc
  have hfront := head?_of_initial (dropBack_initial p (dropFront p cs)) hc
  have hstop := List.head?_dropWhile_not p cs
  rw [dropFront, Option.mem_def] at hfront
  rw [hfront] at hstop
  simpa using hstop

theorem trimmedChars_trimChars (cs : List Char) : TrimmedChars (trimChars cs) :=
  ⟨head?_dropBack_dropFront, getLast?_dropBack⟩

theorem trimmed_trim (text : String) : Trimmed (trim text) := by
  rw [Trimmed, trim, String.toList_ofList]
  exact trimmedChars_trimChars _

/-- A trimmed text does not end in a space. -/
theorem Trimmed.getLast?_ne_space {text : String} (h : Trimmed text) :
    text.toList.getLast? ≠ some ' ' := by
  intro hlast
  have hblank := h.2 ' ' hlast
  exact absurd hblank (by decide)

theorem isBlankText_iff : isBlankText text = true ↔ ∀ c ∈ text.toList, isBlank c = true :=
  List.all_eq_true

theorem isBlankText_append :
    isBlankText (front ++ back) = (isBlankText front && isBlankText back) := by
  simp [isBlankText]

theorem dropFront_eq_self {p : Char → Bool} {cs : List Char} (h : ∀ c ∈ cs.head?, p c = false) :
    dropFront p cs = cs := by
  cases cs with
  | nil => rfl
  | cons c cs => exact List.dropWhile_cons_of_neg (by simp [h c rfl])

theorem dropBack_eq_self {p : Char → Bool} {cs : List Char} (h : ∀ c ∈ cs.getLast?, p c = false) :
    dropBack p cs = cs := by
  rw [← List.head?_reverse] at h
  have hfront := dropFront_eq_self h
  rw [dropFront] at hfront
  rw [dropBack, hfront, List.reverse_reverse]

/-- Trailing blanks are dropped with what is dropped before them. -/
theorem dropBack_append {cs bs : List Char} (h : ∀ c ∈ bs, isBlank c = true) :
    dropBack isBlank (cs ++ bs) = dropBack isBlank cs := by
  rw [dropBack, List.reverse_append,
    List.dropWhile_append_of_pos fun c hc => h c (List.mem_reverse.1 hc), dropBack]

theorem trimChars_eq_self {cs : List Char} (h : TrimmedChars cs) : trimChars cs = cs := by
  rw [trimChars, dropFront_eq_self h.1, dropBack_eq_self h.2]

theorem trimChars_append {cs bs : List Char} (h : ∀ c ∈ bs, isBlank c = true) :
    trimChars (cs ++ bs) = trimChars cs := by
  rw [trimChars, trimChars, dropFront, dropFront, List.dropWhile_append]
  split_ifs with hempty
  · rw [List.dropWhile_eq_nil_iff.2 h, List.isEmpty_iff.1 hempty]
  · exact dropBack_append h

theorem Trimmed.trim_eq (h : Trimmed text) : trim text = text := by
  rw [trim, trimChars_eq_self h, String.ofList_toList]

theorem trim_blank_append (h : isBlankText front = true) (text : String) :
    trim (front ++ text) = trim text := by
  rw [trim, trim, trimChars, trimChars, String.toList_append, dropFront, dropFront,
    List.dropWhile_append_of_pos (isBlankText_iff.1 h)]

theorem trim_append_blank (h : isBlankText back = true) (text : String) :
    trim (text ++ back) = trim text := by
  rw [trim, trim, String.toList_append, trimChars_append (isBlankText_iff.1 h)]

/-- Text between two trimmed ones is not at an end, unless one of these is empty. -/
theorem trimmed_append (hfront : Trimmed front) (hback : Trimmed back) (hfirst : front ≠ "")
    (hlast : back ≠ "") (between : String) : Trimmed (front ++ between ++ back) := by
  constructor
  · intro c hc
    refine hfront.1 c ?_
    simpa [List.head?_append, hfirst] using hc
  · intro c hc
    refine hback.2 c ?_
    simpa [List.getLast?_append, hlast] using hc

/-- A text is what is kept, which does not end in a blank, and blanks at the end. -/
structure TrimsTo (text kept : String) : Prop where
  blanks : ∃ tail, isBlankText tail = true ∧ text = kept ++ tail
  last : ∀ c ∈ kept.toList.getLast?, isBlank c = false

theorem TrimsTo.trimEnd_eq {kept : String} (h : TrimsTo text kept) : trimEnd text = kept := by
  obtain ⟨tail, htail, rfl⟩ := h.blanks
  rw [trimEnd, String.toList_append, dropBack_append (isBlankText_iff.1 htail),
    dropBack_eq_self h.last, String.ofList_toList]

/-- What is dropped at the end satisfies the predicate. -/
theorem exists_eq_dropBack_append (p : Char → Bool) (cs : List Char) :
    ∃ tail, (∀ c ∈ tail, p c = true) ∧ cs = dropBack p cs ++ tail := by
  refine ⟨(cs.reverse.takeWhile p).reverse, fun c hc => ?_, ?_⟩
  · exact List.mem_takeWhile_imp (List.mem_reverse.1 hc)
  · rw [dropBack, ← List.reverse_append, List.takeWhile_append_dropWhile, List.reverse_reverse]

theorem trimsTo_trimEnd (text : String) : TrimsTo text (trimEnd text) where
  blanks := by
    obtain ⟨tail, htail, htext⟩ := exists_eq_dropBack_append isBlank text.toList
    refine ⟨String.ofList tail, isBlankText_iff.2 (by simpa using htail), ?_⟩
    exact String.toList_injective (by simpa [trimEnd] using htext)
  last := by
    rw [trimEnd, String.toList_ofList]
    exact getLast?_dropBack

/-- Trimming the end of a text finds the one part that is kept. -/
theorem trimEnd_eq_iff {kept : String} : trimEnd text = kept ↔ TrimsTo text kept :=
  ⟨fun h => h ▸ trimsTo_trimEnd text, TrimsTo.trimEnd_eq⟩

theorem trimEnd_append_blank (h : isBlankText back = true) (text : String) :
    trimEnd (text ++ back) = trimEnd text := by
  rw [trimEnd, String.toList_append, dropBack_append (isBlankText_iff.1 h), trimEnd]

theorem trimEnd_trimEnd (text : String) : trimEnd (trimEnd text) = trimEnd text :=
  TrimsTo.trimEnd_eq ⟨⟨"", rfl, by simp⟩, (trimsTo_trimEnd text).last⟩

theorem trimEnd_of_blank (h : isBlankText text = true) : trimEnd text = "" :=
  TrimsTo.trimEnd_eq ⟨⟨text, h, by simp⟩, by simp⟩

theorem TrimsTo.isBlankText_eq {kept : String} (h : TrimsTo text kept) :
    isBlankText kept = isBlankText text := by
  obtain ⟨tail, htail, rfl⟩ := h.blanks
  rw [isBlankText_append, htail, Bool.and_true]

/-- Trimming leaves characters of the text only. -/
theorem mem_of_mem_trimChars {cs : List Char} {c : Char} (h : c ∈ trimChars cs) : c ∈ cs :=
  (List.dropWhile_suffix _).subset ((dropBack_initial _ _).subset h)

/-! ### Splitting -/

theorem splitChars_ne_nil (separator : Char) (cs : List Char) : splitChars separator cs ≠ [] := by
  cases cs with
  | nil => exact List.cons_ne_nil _ _
  | cons c cs =>
    rw [splitChars]
    split_ifs
    · exact List.cons_ne_nil _ _
    · split <;> exact List.cons_ne_nil _ _

/-- A character other than the separator belongs to the first part. -/
theorem splitChars_cons {separator c : Char} (hc : c ≠ separator) (cs : List Char) :
    ∃ part parts, splitChars separator cs = part :: parts ∧
      splitChars separator (c :: cs) = (c :: part) :: parts := by
  obtain ⟨part, parts, hparts⟩ := List.exists_cons_of_ne_nil (splitChars_ne_nil separator cs)
  exact ⟨part, parts, hparts, by rw [splitChars, if_neg hc, hparts]⟩

theorem splitChars_of_not_mem {separator : Char} {cs : List Char} (h : separator ∉ cs) :
    splitChars separator cs = [cs] := by
  induction cs with
  | nil => rfl
  | cons c cs ih =>
    obtain ⟨hc, hcs⟩ := List.ne_and_not_mem_of_not_mem_cons h
    rw [splitChars, if_neg hc.symm, ih hcs]

theorem splitChars_append (separator : Char) (cs more : List Char) :
    splitChars separator (cs ++ separator :: more) =
      splitChars separator cs ++ splitChars separator more := by
  induction cs with
  | nil => simp [splitChars]
  | cons c cs ih =>
    by_cases hc : c = separator
    · rw [List.cons_append, splitChars, if_pos hc, ih, splitChars, if_pos hc, List.cons_append]
    · obtain ⟨part, parts, hparts, hsplit⟩ := splitChars_cons hc cs
      rw [List.cons_append, splitChars, if_neg hc, ih, hparts, hsplit]
      rfl

/-- Joining puts the parts together again. -/
theorem intercalate_splitChars (separator : Char) (cs : List Char) :
    [separator].intercalate (splitChars separator cs) = cs := by
  induction cs with
  | nil => rfl
  | cons c cs ih =>
    by_cases hc : c = separator
    · rw [splitChars, if_pos hc, List.intercalate_cons_of_ne_nil (splitChars_ne_nil _ _), ih, hc]
      rfl
    · obtain ⟨part, parts, hparts, hsplit⟩ := splitChars_cons hc cs
      rw [hparts] at ih
      rw [hsplit, ← ih]
      cases parts <;> simp [List.intercalate]

/-- No part holds the separator. -/
theorem not_mem_of_mem_splitChars {separator : Char} {cs part : List Char}
    (h : part ∈ splitChars separator cs) : separator ∉ part := by
  induction cs generalizing part with
  | nil =>
    rw [splitChars, List.mem_singleton] at h
    simp [h]
  | cons c cs ih =>
    by_cases hc : c = separator
    · rw [splitChars, if_pos hc, List.mem_cons] at h
      rcases h with rfl | h
      · exact List.not_mem_nil
      · exact ih h
    · obtain ⟨first, parts, hparts, hsplit⟩ := splitChars_cons hc cs
      rw [hsplit, List.mem_cons] at h
      rw [hparts] at ih
      rcases h with rfl | h
      · exact List.not_mem_cons_of_ne_of_not_mem (Ne.symm hc) (ih List.mem_cons_self)
      · exact ih (List.mem_cons_of_mem _ h)

theorem splitOn_ne_nil (separator : Char) (text : String) : splitOn separator text ≠ [] :=
  fun h => splitChars_ne_nil separator text.toList (List.map_eq_nil_iff.1 h)

theorem splitOn_of_not_mem {separator : Char} (h : separator ∉ text.toList) :
    splitOn separator text = [text] := by
  rw [splitOn, splitChars_of_not_mem h, List.map_singleton, String.ofList_toList]

theorem splitOn_append (separator : Char) (front back : String) :
    splitOn separator (front ++ separator.toString ++ back) =
      splitOn separator front ++ splitOn separator back := by
  have hchars : (front ++ separator.toString ++ back).toList =
      front.toList ++ separator :: back.toList := by simp [Char.toString]
  rw [splitOn, hchars, splitChars_append, List.map_append, splitOn, splitOn]

/-- Splitting takes joined parts apart. -/
theorem splitOn_intercalate {separator : Char} {parts : List String} (hne : parts ≠ [])
    (h : ∀ part ∈ parts, separator ∉ part.toList) :
    splitOn separator (String.intercalate separator.toString parts) = parts := by
  induction parts with
  | nil => exact absurd rfl hne
  | cons part rest ih =>
    obtain ⟨hpart, hrest⟩ := List.forall_mem_cons.1 h
    cases rest with
    | nil => rw [String.intercalate_singleton, splitOn_of_not_mem hpart]
    | cons next rest =>
      rw [String.intercalate_cons_cons, splitOn_append, splitOn_of_not_mem hpart,
        ih (List.cons_ne_nil _ _) hrest, List.singleton_append]

/-- A text without a line feed is one line. -/
theorem lines_of_not_mem (h : '\n' ∉ line.toList) : lines line = [line] :=
  splitOn_of_not_mem h

/-- A line feed ends the first line of a text. -/
theorem lines_append_feed (h : '\n' ∉ line.toList) (rest : String) :
    lines (line ++ "\n" ++ rest) = line :: lines rest := by
  have hsplit : lines (line ++ "\n" ++ rest) = lines line ++ lines rest :=
    splitOn_append '\n' line rest
  rw [hsplit, lines_of_not_mem h, List.singleton_append]

/-- The lines of a text, joined, are the text. -/
theorem intercalate_lines (text : String) : String.intercalate "\n" (lines text) = text := by
  rw [← String.toList_inj, String.toList_intercalate, lines, splitOn, List.map_map]
  simp only [Function.comp_def, String.toList_ofList, List.map_id']
  exact intercalate_splitChars '\n' text.toList

theorem not_mem_of_mem_lines (h : line ∈ lines text) : '\n' ∉ line.toList := by
  obtain ⟨part, hpart, rfl⟩ := List.mem_map.1 h
  rw [String.toList_ofList]
  exact not_mem_of_mem_splitChars hpart

/-! ### Replacing -/

section Replacing

variable {old new : Char}

theorem toList_replaceChar (old new : Char) (text : String) :
    (replaceChar old new text).toList = text.toList.map fun c => if c = old then new else c :=
  String.toList_ofList

theorem replaceChar_append (old new : Char) (front back : String) :
    replaceChar old new (front ++ back) =
      replaceChar old new front ++ replaceChar old new back := by
  rw [← String.toList_inj]
  simp [toList_replaceChar]

theorem replaceChar_of_not_mem (h : old ∉ text.toList) : replaceChar old new text = text := by
  rw [← String.toList_inj, toList_replaceChar]
  refine (List.map_congr_left fun c hc => ?_).trans (List.map_id _)
  have hne : c ≠ old := fun heq => h (heq ▸ hc)
  exact if_neg hne

theorem not_mem_replaceChar (h : old ≠ new) : old ∉ (replaceChar old new text).toList := by
  rw [toList_replaceChar, List.mem_map]
  rintro ⟨c, -, hc⟩
  split_ifs at hc with heq
  · exact h hc.symm
  · exact heq hc

/-- Replacing a character by one that is new to the text can be taken back. -/
theorem replaceChar_replaceChar (h : new ∉ text.toList) :
    replaceChar new old (replaceChar old new text) = text := by
  rw [← String.toList_inj, toList_replaceChar, toList_replaceChar, List.map_map]
  refine (List.map_congr_left fun c hc => ?_).trans (List.map_id _)
  have hne : c ≠ new := fun heq => h (heq ▸ hc)
  by_cases heq : c = old <;> simp [heq, hne]

end Replacing

end ClassDocs.Text
