import ClassDocs.Proofs.RecordInvariant
import ClassDocs.Proofs.TagGrammar

/-!
# Words and blanks

A text is cut at its first blank into a word and what follows that blank. `Text.Splits` says so
without saying where the blank is looked for. The word is the longest one in front, nothing but the
blank is lost, and which blank it is does not matter. The cut can also be made at byte offsets,
where the width of the blank counts, and no offset falls inside a character.

## Main definitions

* `Text.whiteSpace`: the blanks.
* `Text.Splits`: a text with its first word and what follows the blank after it.
* `Text.IsFirstWord`: the longest start of a text without blanks.
* `Text.condensed`: a text without its blanks.
* `Text.splitTokenBytes`: the first word of a text, by byte offsets.

## Main results

* `Text.exists_splits`, `Text.Splits.splitToken_eq`: every text has a cut, and cutting finds it.
* `Text.Splits.isFirstWord`, `Text.Splits.condensed_eq`: the word is the longest, and nothing else
  than a blank is lost.
* `Text.Splits.replaceChar`, `Text.trim_replaceChar`: one blank is as good as another.
* `Text.splitTokenBytes_eq`: the cut by byte offsets.
-/

namespace ClassDocs

namespace Text

variable {text word : String} {rest : Option String}

/-! ### Blanks and words -/

/-- The code points with the White_Space property. -/
def whiteSpace : List Nat :=
  [0x9, 0xa, 0xb, 0xc, 0xd, 0x20, 0x85, 0xa0, 0x1680, 0x2000, 0x2001, 0x2002, 0x2003, 0x2004,
    0x2005, 0x2006, 0x2007, 0x2008, 0x2009, 0x200a, 0x2028, 0x2029, 0x202f, 0x205f, 0x3000]

theorem isBlank_iff {c : Char} : isBlank c = true ↔ c.toNat ∈ whiteSpace := by
  generalize hn : c.toNat = n
  have hcontrols : 9 ≤ n ∧ n ≤ 13 ↔ n = 9 ∨ n = 10 ∨ n = 11 ∨ n = 12 ∨ n = 13 := by omega
  have hspaces : 0x2000 ≤ n ∧ n ≤ 0x200a ↔ n = 0x2000 ∨ n = 0x2001 ∨ n = 0x2002 ∨ n = 0x2003 ∨
      n = 0x2004 ∨ n = 0x2005 ∨ n = 0x2006 ∨ n = 0x2007 ∨ n = 0x2008 ∨ n = 0x2009 ∨ n = 0x200a := by
    omega
  simp only [isBlank, whiteSpace, hn, List.mem_cons, List.not_mem_nil, or_false, Bool.or_eq_true,
    Bool.and_eq_true, decide_eq_true_eq, beq_iff_eq, hcontrols, hspaces, or_assoc]

instance (text : String) : Decidable (IsWord text) :=
  decidable_of_iff (text.toList.all (fun c => !isBlank c) = true) (by simp [IsWord])

/-! ### Cutting at the first blank -/

/-- A text is a word alone, or a word, a blank that ends it, and the rest. -/
inductive Splits : String → String → Option String → Prop
  | word {word : String} (hword : IsWord word) : Splits word word none
  | blank {word : String} {c : Char} (hword : IsWord word) (hc : isBlank c = true)
      (rest : String) : Splits (word ++ String.singleton c ++ rest) word (some rest)

theorem splitTokenChars_of_word {cs : List Char} (h : ∀ c ∈ cs, isBlank c = false) :
    splitTokenChars cs = (cs, none) := by
  induction cs with
  | nil => rfl
  | cons c cs ih =>
    obtain ⟨hc, hcs⟩ := List.forall_mem_cons.1 h
    rw [splitTokenChars, if_neg (by simp [hc]), ih hcs]

theorem splitTokenChars_append {cs : List Char} {c : Char} (h : ∀ d ∈ cs, isBlank d = false)
    (hc : isBlank c = true) (more : List Char) :
    splitTokenChars (cs ++ c :: more) = (cs, some more) := by
  induction cs with
  | nil => rw [List.nil_append, splitTokenChars, if_pos hc]
  | cons d cs ih =>
    obtain ⟨hd, hcs⟩ := List.forall_mem_cons.1 h
    rw [List.cons_append, splitTokenChars, if_neg (by simp [hd]), ih hcs]

theorem Splits.splitToken_eq (h : Splits text word rest) : splitToken text = (word, rest) := by
  cases h with
  | word hword => simp [splitToken, splitTokenChars_of_word hword]
  | blank hword hc rest => simp [splitToken, splitTokenChars_append hword hc]

/-- Every text is cut at its first blank, if it has one. -/
theorem exists_splits (text : String) : ∃ word rest, Splits text word rest := by
  have hcut := List.takeWhile_append_dropWhile (p := fun c => !isBlank c) (l := text.toList)
  have hword : IsWord (String.ofList (text.toList.takeWhile fun c => !isBlank c)) := by
    intro c hc
    rw [String.toList_ofList] at hc
    simpa using List.mem_takeWhile_imp hc
  cases hback : text.toList.dropWhile fun c => !isBlank c with
  | nil =>
    rw [hback, List.append_nil] at hcut
    rw [hcut, String.ofList_toList] at hword
    exact ⟨text, none, .word hword⟩
  | cons c more =>
    have hstop := List.head?_dropWhile_not (fun c => !isBlank c) text.toList
    rw [hback] at hcut hstop
    have hc : isBlank c = true := by simpa using hstop
    generalize text.toList.takeWhile (fun c => !isBlank c) = front at hcut hword
    have htext : text = String.ofList front ++ String.singleton c ++ String.ofList more :=
      String.toList_injective (by simpa using hcut.symm)
    rw [htext]
    exact ⟨_, _, .blank hword hc _⟩

theorem Splits.unique {other : String} {rest' : Option String} (h : Splits text word rest)
    (h' : Splits text other rest') : other = word ∧ rest' = rest := by
  rw [← Prod.mk.injEq, ← h.splitToken_eq, ← h'.splitToken_eq]

/-- A word that ends where the text does, or at a blank, is split off. -/
theorem splits_append (hword : IsWord word) {back : String}
    (hback : ∀ c ∈ back.toList.head?, isBlank c = true) :
    ∃ rest, Splits (word ++ back) word rest := by
  cases hchars : back.toList with
  | nil =>
    rw [String.toList_eq_nil_iff] at hchars
    rw [hchars, String.append_empty]
    exact ⟨none, .word hword⟩
  | cons c more =>
    have hc : isBlank c = true := hback c (by rw [hchars]; rfl)
    have hsplits : back = String.singleton c ++ String.ofList more :=
      String.toList_injective (by simp [hchars])
    rw [hsplits, ← String.append_assoc]
    exact ⟨some _, .blank hword hc _⟩

/-- What follows a word that is split off is nothing, or starts with a blank. -/
theorem Splits.exists_append (h : Splits text word rest) :
    ∃ back, text = word ++ back ∧ ∀ c ∈ back.toList.head?, isBlank c = true := by
  cases h with
  | word => exact ⟨"", by simp, by simp⟩
  | @blank _ c _ hc rest =>
    refine ⟨String.singleton c ++ rest, String.append_assoc, ?_⟩
    simpa using hc

theorem Splits.isWord (h : Splits text word rest) : IsWord word := by
  cases h with
  | word hword => exact hword
  | blank hword => exact hword

/-- The longest start of a text without blanks. -/
structure IsFirstWord (word text : String) : Prop where
  isWord : IsWord word
  start : word.toList <+: text.toList
  longest : ∀ other : String, IsWord other → other.toList <+: text.toList →
    other.length ≤ word.length

theorem Splits.isFirstWord (h : Splits text word rest) : IsFirstWord word text := by
  cases h with
  | word hword => exact ⟨hword, List.prefix_rfl, fun _ _ hother => hother.length_le⟩
  | @blank _ c hword hc rest =>
    have htext : (word ++ String.singleton c ++ rest).toList =
        word.toList ++ [c] ++ rest.toList := by simp
    have hstart : word.toList <+: word.toList ++ [c] ++ rest.toList :=
      (List.prefix_append _ _).trans (List.prefix_append _ _)
    refine ⟨hword, htext ▸ hstart, fun other hother hfront => ?_⟩
    -- A longer start would hold the blank.
    by_contra! hlong
    have hlonger : (word.toList ++ [c]).length ≤ other.toList.length := by
      rw [List.length_append, String.length_toList, String.length_toList]
      exact hlong
    have hmem : c ∈ other.toList :=
      (List.prefix_of_prefix_length_le (List.prefix_append _ _) (htext ▸ hfront) hlonger).subset
        (by simp)
    exact absurd hc (by simp [hother c hmem])

/-! ### Texts without their blanks -/

/-- A text without its blanks. -/
def condensed (text : String) : String :=
  String.ofList (text.toList.filter fun c => !isBlank c)

theorem toList_condensed (text : String) :
    (condensed text).toList = text.toList.filter fun c => !isBlank c :=
  String.toList_ofList

@[simp] theorem condensed_empty : condensed "" = "" := rfl

@[simp] theorem condensed_append (front back : String) :
    condensed (front ++ back) = condensed front ++ condensed back := by
  rw [← String.toList_inj]
  simp [toList_condensed]

theorem condensed_eq_empty_iff : condensed text = "" ↔ isBlankText text = true := by
  rw [← String.toList_inj, toList_condensed, isBlankText_iff]
  simp

theorem condensed_singleton {c : Char} (hc : isBlank c = true) :
    condensed (String.singleton c) = "" :=
  condensed_eq_empty_iff.2 (isBlankText_iff.2 (by simpa using hc))

/-- Dropping blanks in front of characters leaves those that are not blank. -/
theorem filter_dropWhile_isBlank (cs : List Char) :
    ((cs.dropWhile isBlank).filter fun c => !isBlank c) = cs.filter fun c => !isBlank c := by
  induction cs with
  | nil => rfl
  | cons c cs ih =>
    by_cases hc : isBlank c = true
    · rw [List.dropWhile_cons_of_pos hc, ih, List.filter_cons_of_neg (by simp [hc])]
    · rw [List.dropWhile_cons_of_neg hc]

theorem condensed_trim (text : String) : condensed (trim text) = condensed text := by
  rw [← String.toList_inj, toList_condensed, toList_condensed, trim, String.toList_ofList,
    trimChars, dropBack, dropFront, List.filter_reverse, filter_dropWhile_isBlank,
    List.filter_reverse, List.reverse_reverse, filter_dropWhile_isBlank]

/-- Trimming leaves nothing of blanks and something of any other text. -/
theorem trim_eq_empty_iff : trim text = "" ↔ isBlankText text = true := by
  constructor
  · intro h
    rw [← condensed_eq_empty_iff, ← condensed_trim, h, condensed_empty]
  · intro h
    have hblank := trim_append_blank h ""
    rwa [String.empty_append] at hblank

/-- A cut loses one blank and nothing else. -/
theorem Splits.condensed_eq (h : Splits text word rest) :
    condensed text = condensed word ++ condensed (rest.getD "") := by
  cases h with
  | word => simp
  | blank hword hc rest =>
    rw [condensed_append, condensed_append, condensed_singleton hc, String.append_empty]
    rfl

/-- Behind a word there are only blanks when there are only blanks behind the one that ends it. -/
theorem Splits.isBlankText_iff {back : String} (h : Splits (word ++ back) word rest) :
    isBlankText back = true ↔ isBlankText (rest.getD "") = true := by
  have hcut := h.condensed_eq
  rw [condensed_append, String.append_right_inj] at hcut
  rw [← condensed_eq_empty_iff, ← condensed_eq_empty_iff, hcut]

/-! ### One blank for another -/

section Replacing

variable {old new : Char} (hold : isBlank old = true) (hnew : isBlank new = true)
include hold

theorem IsWord.replaceChar_eq (hword : IsWord word) : replaceChar old new word = word :=
  replaceChar_of_not_mem fun hmem => absurd (hword old hmem) (by simp [hold])

include hnew

theorem isBlank_ite (c : Char) : isBlank (if c = old then new else c) = isBlank c := by
  split_ifs with heq
  · rw [heq, hold, hnew]
  · rfl

/-- A text is cut at the same place whichever blanks it has. -/
theorem Splits.replaceChar (h : Splits text word rest) :
    Splits (replaceChar old new text) word (rest.map (Text.replaceChar old new)) := by
  cases h with
  | word hword =>
    rw [hword.replaceChar_eq hold]
    exact .word hword
  | @blank _ c hword hc rest =>
    have hblank : Text.replaceChar old new (String.singleton c) =
        String.singleton (if c = old then new else c) :=
      String.toList_injective (by simp [toList_replaceChar])
    rw [replaceChar_append, replaceChar_append, hword.replaceChar_eq hold, hblank]
    exact .blank hword ((isBlank_ite hold hnew c).trans hc) _

theorem trim_replaceChar (text : String) :
    trim (replaceChar old new text) = replaceChar old new (trim text) := by
  have hblank : isBlank ∘ (fun c => if c = old then new else c) = isBlank :=
    funext (isBlank_ite hold hnew)
  rw [← String.toList_inj, toList_replaceChar, trim, trim, String.toList_ofList,
    String.toList_ofList, toList_replaceChar, trimChars, trimChars, dropFront, dropFront, dropBack,
    dropBack, List.dropWhile_map, hblank, ← List.map_reverse, List.dropWhile_map, hblank,
    List.map_reverse]

end Replacing

/-! ### Byte offsets -/

/-- The byte offset of the first blank. -/
def blankOffset? (text : String) : Option Nat :=
  if text.toList.any isBlank then
    some (String.utf8Len (text.toList.takeWhile fun c => !isBlank c))
  else none

/-- The first word of a text and what follows the blank after it, by byte offsets: the width of the
blank is that of the first character behind the word. There is no answer when an offset at which the
text is cut falls inside a character. -/
def splitTokenBytes (text : String) : Option (String × Option String) :=
  match blankOffset? text with
  | none => some (text, none)
  | some start => do
    let back ← slice? text start text.utf8ByteSize
    let width := (back.toList.head?.map Char.utf8Size).getD 1
    let word ← slice? text 0 start
    let rest ← slice? text (start + width) text.utf8ByteSize
    return (word, some rest)

/-- What stands behind some characters is cut out up to the end. -/
theorem slice?_toEnd (front back : List Char) (h : text.toList = front ++ back) :
    slice? text (String.utf8Len front) text.utf8ByteSize = some (String.ofList back) := by
  have hsize : text.utf8ByteSize = String.utf8Len front + String.utf8Len back := by
    rw [← String.ofList_toList (s := text), h, String.utf8ByteSize_ofList, String.utf8Len_append]
  rw [hsize]
  exact slice?_append front back [] (by rw [h, List.append_nil])

theorem splitTokenBytes_of_word (hword : IsWord word) :
    splitTokenBytes word = some (word, none) := by
  have hnone : blankOffset? word = none := by
    rw [blankOffset?, if_neg]
    simpa using fun c hc => hword c hc
  rw [splitTokenBytes, hnone]

theorem blankOffset?_append {c : Char} (hword : IsWord word) (hc : isBlank c = true)
    (rest : String) :
    blankOffset? (word ++ String.singleton c ++ rest) = some (String.utf8Len word.toList) := by
  have htext : (word ++ String.singleton c ++ rest).toList = word.toList ++ c :: rest.toList := by
    simp
  have hfront :
      (word.toList ++ c :: rest.toList).takeWhile (fun c => !isBlank c) = word.toList := by
    rw [List.takeWhile_append_of_pos fun d hd => by simp [hword d hd],
      List.takeWhile_cons_of_neg (by simp [hc]), List.append_nil]
  rw [blankOffset?, htext, if_pos (by simp [hc]), hfront]

theorem splitTokenBytes_append {c : Char} (hword : IsWord word) (hc : isBlank c = true)
    (rest : String) :
    splitTokenBytes (word ++ String.singleton c ++ rest) = some (word, some rest) := by
  have hoffset := blankOffset?_append hword hc rest
  have hchars : (word ++ String.singleton c ++ rest).toList = word.toList ++ c :: rest.toList := by
    simp
  generalize word ++ String.singleton c ++ rest = text at hoffset hchars
  have hback := slice?_toEnd word.toList (c :: rest.toList) hchars
  have hfront : slice? text 0 (String.utf8Len word.toList) = some word := by
    have hslice := slice?_append [] word.toList (c :: rest.toList) hchars
    rwa [String.utf8Len_nil, Nat.zero_add, String.ofList_toList] at hslice
  have hrest : slice? text (String.utf8Len word.toList + c.utf8Size) text.utf8ByteSize =
      some rest := by
    have hslice := slice?_toEnd (word.toList ++ [c]) rest.toList
      (hchars.trans (List.append_cons _ _ _))
    rwa [String.utf8Len_append, String.utf8Len_cons, String.utf8Len_nil, Nat.zero_add,
      String.ofList_toList] at hslice
  simp only [splitTokenBytes, hoffset, hback, hfront, String.toList_ofList, List.head?_cons,
    Option.map_some, Option.getD_some, hrest, Option.bind_eq_bind, Option.bind_some,
    Option.pure_def]

/-- Cutting by byte offsets finds the first word, whatever the width of the blank behind it, and
never cuts inside a character. -/
theorem splitTokenBytes_eq (text : String) : splitTokenBytes text = some (splitToken text) := by
  obtain ⟨word, rest, h⟩ := exists_splits text
  rw [h.splitToken_eq]
  cases h with
  | word hword => exact splitTokenBytes_of_word hword
  | blank hword hc rest => exact splitTokenBytes_append hword hc rest

end Text

end ClassDocs
