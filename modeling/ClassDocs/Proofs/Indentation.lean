import ClassDocs.Class.Source
import ClassDocs.Proofs.TextWords
import Mathlib.Order.Bounds.Basic

/-!
# Shared indentation

Cutting the indentation that lines share takes the same number of spaces and tabs from every line
that is not blank, and from a blank line as many of them as it has. Where something is cut, the text
ends with the last line that is not blank, and blanks at the end of that line go too. Three kinds of
white space are told apart: spaces and tabs are indentation, other blanks behind them are content,
and a line of nothing but blanks has no indentation to share.

## Main definitions

* `IsMargin`: texts of spaces and tabs.
* `Loses`, `Cut`: what a line has left when its indentation is cut.
* `contentWidths`: how far the lines that are not blank are indented.
* `ended`: lines one after the other, each with a line feed at its end.
* `dedentBytes`: lines without their shared indentation, by byte offsets.

## Main results

* `loses_cutIndent`: cutting takes spaces and tabs and nothing else.
* `isLeast_sharedIndent`: the shared indentation is the least one.
* `trimEnd_ended`: trimming drops blank lines at the end and blanks behind the last other line.
* `dedentBytes_eq`: no cut falls inside a character.
* `dedent_keeps_content`: the lines that are left, and what each has lost.
-/

namespace ClassDocs

variable {margin line rest : String} {lines front blanks : List String} {count : Nat}

/-! ### Indentation of a line -/

/-- A text of spaces and tabs. -/
def IsMargin (text : String) : Prop :=
  ∀ c ∈ text.toList, c = ' ' ∨ c = '\t'

theorem isIndent_iff {c : Char} : isIndent c = true ↔ c = ' ' ∨ c = '\t' := by
  simp [isIndent]

theorem isMargin_iff : IsMargin margin ↔ ∀ c ∈ margin.toList, isIndent c = true := by
  simp only [IsMargin, isIndent_iff]

theorem IsMargin.isBlankText (h : IsMargin margin) : Text.isBlankText margin = true := by
  refine Text.isBlankText_iff.2 fun c hc => ?_
  rcases h c hc with rfl | rfl <;> decide

theorem IsMargin.isBlankText_append (h : IsMargin margin) (line : String) :
    Text.isBlankText (margin ++ line) = Text.isBlankText line := by
  rw [Text.isBlankText_append, h.isBlankText, Bool.true_and]

theorem IsMargin.indentWidth_append (h : IsMargin margin) (line : String) :
    indentWidth (margin ++ line) = margin.length + indentWidth line := by
  rw [indentWidth, String.toList_append, List.takeWhile_append_of_pos (isMargin_iff.1 h),
    List.length_append, String.length_toList, indentWidth]

/-- Text behind a line that is not blank is not indentation. -/
theorem indentWidth_append_of_not_blank (h : Text.isBlankText line = false) (back : String) :
    indentWidth (line ++ back) = indentWidth line := by
  have hstop : (line.toList.takeWhile isIndent).length ≠ line.toList.length := by
    intro hall
    have hmargin : line.toList.takeWhile isIndent = line.toList :=
      (List.takeWhile_prefix _).eq_of_length hall
    have hblank := IsMargin.isBlankText (isMargin_iff.2 (List.takeWhile_eq_self_iff.1 hmargin))
    exact absurd hblank (by simp [h])
  rw [indentWidth, String.toList_append, List.takeWhile_append, if_neg hstop, indentWidth]

theorem indentWidth_eq_zero_iff :
    indentWidth line = 0 ↔ ∀ c ∈ line.toList.head?, c ≠ ' ' ∧ c ≠ '\t' := by
  rw [indentWidth, List.length_eq_zero_iff]
  cases line.toList with
  | nil => simp
  | cons c cs => simp [List.takeWhile_cons, isIndent]

/-- A line starts with a number of spaces and tabs, and `rest` stands behind them. -/
def Loses (count : Nat) (line rest : String) : Prop :=
  ∃ margin, line = margin ++ rest ∧ margin.length = count ∧ IsMargin margin

theorem Loses.indentWidth_eq (h : Loses count line rest) :
    indentWidth line = count + indentWidth rest := by
  obtain ⟨margin, rfl, rfl, hmargin⟩ := h
  exact hmargin.indentWidth_append rest

theorem Loses.isBlankText_eq (h : Loses count line rest) :
    Text.isBlankText rest = Text.isBlankText line := by
  obtain ⟨margin, rfl, -, hmargin⟩ := h
  exact (hmargin.isBlankText_append rest).symm

theorem Loses.mem (h : Loses count line rest) {c : Char} (hc : c ∈ rest.toList) :
    c ∈ line.toList := by
  obtain ⟨margin, rfl, -⟩ := h
  rw [String.toList_append]
  exact List.mem_append_right _ hc

/-- Cutting takes spaces and tabs and nothing else. -/
theorem loses_cutIndent (count : Nat) (line : String) :
    Loses (min count (indentWidth line)) line (cutIndent count line) := by
  have hfront := List.takeWhile_prefix (l := line.toList) isIndent
  have hle : min count (indentWidth line) ≤ line.toList.length :=
    (Nat.min_le_right _ _).trans hfront.length_le
  refine ⟨String.ofList (line.toList.take (min count (indentWidth line))), ?_, ?_, ?_⟩
  · exact String.toList_injective (by simp [cutIndent])
  · rw [← String.length_toList, String.toList_ofList, List.length_take, Nat.min_eq_left hle]
  · rw [isMargin_iff, String.toList_ofList]
    intro c hc
    -- No more characters are taken than there are spaces and tabs in front.
    rw [← List.take_take, indentWidth, ← List.prefix_iff_eq_take.1 hfront] at hc
    exact List.mem_takeWhile_imp (List.mem_of_mem_take hc)

/-- A line that is indented further loses the margin as well. -/
theorem IsMargin.cutIndent_append (h : IsMargin margin) (count : Nat) (line : String) :
    cutIndent (margin.length + count) (margin ++ line) = cutIndent count line := by
  rw [cutIndent, h.indentWidth_append, Nat.add_min_add_left, String.toList_append,
    ← String.length_toList, List.drop_length_add_append, cutIndent]

theorem indentWidth_cutIndent (count : Nat) (line : String) :
    indentWidth (cutIndent count line) = indentWidth line - count := by
  have hwidth := (loses_cutIndent count line).indentWidth_eq
  omega

/-- Blanks at the end of a line that is not blank are not indentation. -/
theorem indentWidth_trimEnd (h : Text.isBlankText line = false) :
    indentWidth (Text.trimEnd line) = indentWidth line := by
  have htrims := Text.trimsTo_trimEnd line
  obtain ⟨tail, -, hline⟩ := htrims.blanks
  have hkept : Text.isBlankText (Text.trimEnd line) = false := htrims.isBlankText_eq.trans h
  rw [← indentWidth_append_of_not_blank hkept tail, ← hline]

@[simp] theorem cutIndent_zero (line : String) : cutIndent 0 line = line := by
  rw [cutIndent, Nat.zero_min, List.drop_zero, String.ofList_toList]

/-! ### Indentation that lines share -/

/-- How far the lines that are not blank are indented. -/
def contentWidths (lines : List String) : Set Nat :=
  {n | ∃ line ∈ lines, Text.isBlankText line = false ∧ indentWidth line = n}

theorem mem_map_indentWidth_iff {n : Nat} :
    n ∈ (lines.filter fun line => !Text.isBlankText line).map indentWidth ↔
      n ∈ contentWidths lines := by
  simp [contentWidths, and_assoc]

theorem isLeast_sharedIndent (h : ∃ line ∈ lines, Text.isBlankText line = false) :
    IsLeast (contentWidths lines) (sharedIndent lines) := by
  obtain ⟨line, hline, hcontent⟩ := h
  have hmem := mem_map_indentWidth_iff.2 ⟨line, hline, hcontent, rfl⟩
  rw [sharedIndent]
  cases hmin : ((lines.filter fun line => !Text.isBlankText line).map indentWidth).min? with
  | none =>
    rw [List.min?_eq_none_iff.1 hmin] at hmem
    cases hmem
  | some k =>
    obtain ⟨hk, hle⟩ := List.min?_eq_some_iff.1 hmin
    exact ⟨mem_map_indentWidth_iff.1 hk, fun n hn => hle n (mem_map_indentWidth_iff.2 hn)⟩

theorem sharedIndent_of_blank (h : ∀ line ∈ lines, Text.isBlankText line = true) :
    sharedIndent lines = 0 := by
  have hnone : (lines.filter fun line => !Text.isBlankText line) = [] := by simpa using h
  rw [sharedIndent, hnone]
  rfl

theorem sharedIndent_eq_zero (hline : line ∈ lines) (hcontent : Text.isBlankText line = false)
    (hwidth : indentWidth line = 0) : sharedIndent lines = 0 :=
  Nat.le_zero.1 ((isLeast_sharedIndent ⟨line, hline, hcontent⟩).2 ⟨line, hline, hcontent, hwidth⟩)

/-! ### Lines that are cut and joined -/

/-- Lines one after the other, each with a line feed at its end. -/
def ended (lines : List String) : String :=
  String.join (lines.map (· ++ "\n"))

theorem dedent_of_zero (h : sharedIndent lines = 0) :
    dedent lines = String.intercalate "\n" lines := by
  rw [dedent, h]
  rfl

theorem dedent_of_pos (h : 0 < sharedIndent lines) :
    dedent lines = Text.trimEnd (ended (lines.map (cutIndent (sharedIndent lines)))) := by
  obtain ⟨k, hk⟩ := Nat.exists_eq_succ_of_ne_zero h.ne'
  rw [dedent, hk, ended, List.map_map]
  rfl

theorem ended_append (xs ys : List String) : ended (xs ++ ys) = ended xs ++ ended ys := by
  rw [ended, List.map_append, String.join_append, ended, ended]

theorem isBlankText_feed : Text.isBlankText "\n" = true := by decide

theorem isBlankText_ended (h : ∀ line ∈ lines, Text.isBlankText line = true) :
    Text.isBlankText (ended lines) = true := by
  induction lines with
  | nil => rfl
  | cons line rest ih =>
    obtain ⟨hline, hrest⟩ := List.forall_mem_cons.1 h
    rw [← List.singleton_append, ended_append, Text.isBlankText_append, ih hrest, ended,
      List.map_singleton, String.join_cons, String.join_nil, String.append_empty,
      Text.isBlankText_append, hline, isBlankText_feed]
    rfl

theorem ended_eq_intercalate (h : lines ≠ []) :
    ended lines = String.intercalate "\n" lines ++ "\n" := by
  induction lines with
  | nil => exact absurd rfl h
  | cons line rest ih =>
    rw [ended, List.map_cons, String.join_cons, ← ended]
    cases rest with
    | nil => simp [ended]
    | cons next rest =>
      rw [ih (List.cons_ne_nil _ _), String.intercalate_cons_cons]
      simp only [String.append_assoc]

/-- Joining puts the last line behind something that does not depend on it. -/
theorem exists_intercalate_concat (separator : String) (front : List String) :
    ∃ before, ∀ last, separator.intercalate (front ++ [last]) = before ++ last := by
  cases front with
  | nil => exact ⟨"", by simp⟩
  | cons line front =>
    refine ⟨separator.intercalate (line :: front) ++ separator, fun last => ?_⟩
    rw [String.intercalate_append_of_ne_nil (List.cons_ne_nil _ _) (List.cons_ne_nil _ _),
      String.intercalate_singleton]

/-- Trimming drops blank lines at the end, and blanks behind the last line that is not blank. -/
theorem trimEnd_ended {last kept : String} (hlast : Text.isBlankText last = false)
    (hkept : Text.TrimsTo last kept) (hblanks : ∀ line ∈ blanks, Text.isBlankText line = true)
    (front : List String) :
    Text.trimEnd (ended (front ++ last :: blanks)) = String.intercalate "\n" (front ++ [kept]) := by
  obtain ⟨before, hbefore⟩ := exists_intercalate_concat "\n" front
  obtain ⟨tail, htail, hsplit⟩ := hkept.blanks
  have hcontent : kept ≠ "" := by
    rintro rfl
    rw [← hkept.isBlankText_eq] at hlast
    cases hlast
  rw [Text.trimEnd_eq_iff]
  constructor
  · refine ⟨tail ++ "\n" ++ ended blanks, ?_, ?_⟩
    · rw [Text.isBlankText_append, Text.isBlankText_append, htail, isBlankText_feed,
        isBlankText_ended hblanks]
      rfl
    · rw [List.append_cons, ended_append, ended_eq_intercalate (by simp), hbefore, hbefore, hsplit]
      simp only [String.append_assoc]
  · intro c hc
    refine hkept.last c ?_
    simpa [hbefore, List.getLast?_append, hcontent] using hc

/-- The lines up to the last one that is not blank, and blank lines behind it. -/
theorem exists_last_content (h : ∃ line ∈ lines, Text.isBlankText line = false) :
    ∃ front last blanks, lines = front ++ last :: blanks ∧ Text.isBlankText last = false ∧
      ∀ line ∈ blanks, Text.isBlankText line = true := by
  induction lines using List.reverseRecOn with
  | nil => simp at h
  | append_singleton front last ih =>
    cases hlast : Text.isBlankText last with
    | false => exact ⟨front, last, [], rfl, hlast, by simp⟩
    | true =>
      have hfront : ∃ line ∈ front, Text.isBlankText line = false := by
        obtain ⟨line, hline, hcontent⟩ := h
        rcases List.mem_append.1 hline with hline | hline
        · exact ⟨line, hline, hcontent⟩
        · rw [List.mem_singleton.1 hline, hlast] at hcontent
          cases hcontent
      obtain ⟨before, found, blanks, rfl, hfound, hblanks⟩ := ih hfront
      refine ⟨before, found, blanks ++ [last], by simp, hfound, fun line hline => ?_⟩
      rcases List.mem_append.1 hline with hline | hline
      · exact hblanks line hline
      · rw [List.mem_singleton.1 hline, hlast]

/-! ### Byte offsets -/

/-- The width in bytes of the spaces and tabs in front of a line: what the rest is shorter by. -/
def indentBytes (line : String) : Nat :=
  line.utf8ByteSize - (String.ofList (Text.dropFront isIndent line.toList)).utf8ByteSize

/-- A line from a byte offset on; there is none when the offset falls inside a character. -/
def cutBytes (indent : Nat) (line : String) : Option String :=
  Text.slice? line (min indent (indentBytes line)) line.utf8ByteSize

/-- Lines without the indentation that they share, by byte offsets. There is no answer when an
offset at which a line or the joined text is cut falls inside a character. -/
def dedentBytes (lines : List String) : Option String :=
  match (((lines.filter fun line => Text.trim line != "").map indentBytes).min?).getD 0 with
  | 0 => some (String.intercalate "\n" lines)
  | indent => do
    let rests ← lines.mapM (cutBytes indent)
    Text.slice? (ended rests) 0 (Text.trimEnd (ended rests)).utf8ByteSize

theorem IsMargin.utf8Len_eq (h : IsMargin margin) :
    String.utf8Len margin.toList = margin.length := by
  rw [← String.length_toList]
  refine Text.utf8Len_eq_length fun c hc => ?_
  rcases h c hc with rfl | rfl <;> decide

theorem indentBytes_eq (line : String) : indentBytes line = indentWidth line := by
  have hcut := List.takeWhile_append_dropWhile (p := isIndent) (l := line.toList)
  have hmargin : IsMargin (String.ofList (line.toList.takeWhile isIndent)) := by
    rw [isMargin_iff, String.toList_ofList]
    exact fun c hc => List.mem_takeWhile_imp hc
  have hbytes := hmargin.utf8Len_eq
  rw [String.toList_ofList, ← String.length_toList, String.toList_ofList] at hbytes
  have hsize : line.utf8ByteSize =
      indentWidth line + String.utf8Len (line.toList.dropWhile isIndent) := by
    rw [← String.ofList_toList (s := line), String.utf8ByteSize_ofList, String.ofList_toList,
      ← hcut, String.utf8Len_append, hcut, hbytes, indentWidth]
  rw [indentBytes, hsize, String.utf8ByteSize_ofList, Text.dropFront, Nat.add_sub_cancel]

theorem cutBytes_eq (indent : Nat) (line : String) :
    cutBytes indent line = some (cutIndent indent line) := by
  obtain ⟨margin, hline, hlength, hmargin⟩ := loses_cutIndent indent line
  have hchars : line.toList = margin.toList ++ (cutIndent indent line).toList := by
    rw [← String.toList_append, ← hline]
  rw [cutBytes, indentBytes_eq, ← hlength, ← hmargin.utf8Len_eq, Text.slice?_toEnd _ _ hchars,
    String.ofList_toList]

/-- What is kept of a text when its end is trimmed is cut out by its length in bytes. -/
theorem slice?_trimEnd (text : String) :
    Text.slice? text 0 (Text.trimEnd text).utf8ByteSize = some (Text.trimEnd text) := by
  obtain ⟨tail, -, htext⟩ := (Text.trimsTo_trimEnd text).blanks
  have hchars : text.toList = [] ++ (Text.trimEnd text).toList ++ tail.toList := by
    rw [List.nil_append, ← String.toList_append, ← htext]
  have hslice := Text.slice?_append [] (Text.trimEnd text).toList tail.toList hchars
  rwa [String.utf8Len_nil, Nat.zero_add, ← String.utf8ByteSize_ofList,
    String.ofList_toList] at hslice

/-- Cutting by byte offsets gives the same, whatever blanks stand behind the indentation, and no cut
falls inside a character. -/
theorem dedentBytes_eq (lines : List String) : dedentBytes lines = some (dedent lines) := by
  have hcontent : (fun line => Text.trim line != "") = fun line => !Text.isBlankText line := by
    funext line
    rw [Bool.eq_iff_iff, bne_iff_ne, Ne, Text.trim_eq_empty_iff]
    simp
  have hshared : (((lines.filter fun line => Text.trim line != "").map indentBytes).min?).getD 0 =
      sharedIndent lines := by
    rw [hcontent, funext indentBytes_eq, sharedIndent]
  rw [dedentBytes, hshared]
  cases hk : sharedIndent lines with
  | zero =>
    rw [dedent_of_zero hk]
    rfl
  | succ k =>
    have hrests : lines.mapM (cutBytes (k + 1)) = some (lines.map (cutIndent (k + 1))) := by
      rw [funext (cutBytes_eq (k + 1))]
      exact List.mapM_pure
    rw [dedent_of_pos (by omega), hk]
    simp only [hrests, Option.bind_eq_bind, Option.bind_some, slice?_trimEnd]

/-! ### What is left of the lines -/

/-- What a line has left when its indentation is cut: it loses spaces and tabs up to a number, and
that very number of them unless it is blank. -/
structure Cut (count : Nat) (line rest : String) : Prop where
  loses : Loses (min count (indentWidth line)) line rest
  content : Text.isBlankText line = false → Loses count line rest

theorem cut_cutIndent (hline : line ∈ lines) :
    Cut (sharedIndent lines) line (cutIndent (sharedIndent lines) line) where
  loses := loses_cutIndent _ line
  content := by
    intro hcontent
    have hle := (isLeast_sharedIndent ⟨line, hline, hcontent⟩).2 ⟨line, hline, hcontent, rfl⟩
    have hloses := loses_cutIndent (sharedIndent lines) line
    rwa [Nat.min_eq_left hle] at hloses

/-- Nothing is cut when no indentation is shared. -/
theorem lines_dedent_of_zero (hfeeds : ∀ line ∈ lines, '\n' ∉ line.toList) (hne : lines ≠ [])
    (hk : sharedIndent lines = 0) : Text.lines (dedent lines) = lines := by
  rw [dedent_of_zero hk]
  exact Text.splitOn_intercalate hne hfeeds

/-- The lines that are left end with the last one that is not blank. -/
theorem lines_dedent_of_pos {last : String}
    (hfeeds : ∀ line ∈ front ++ last :: blanks, '\n' ∉ line.toList)
    (hlast : Text.isBlankText last = false)
    (hblanks : ∀ line ∈ blanks, Text.isBlankText line = true)
    {k : Nat} (hk : sharedIndent (front ++ last :: blanks) = k) (hpos : 0 < k) :
    Text.lines (dedent (front ++ last :: blanks)) =
      front.map (cutIndent k) ++ [Text.trimEnd (cutIndent k last)] := by
  have hblank (line : String) : Text.isBlankText (cutIndent k line) = Text.isBlankText line :=
    (loses_cutIndent k line).isBlankText_eq
  have htrims := Text.trimsTo_trimEnd (cutIndent k last)
  have hdedent : dedent (front ++ last :: blanks) =
      String.intercalate "\n" (front.map (cutIndent k) ++ [Text.trimEnd (cutIndent k last)]) := by
    rw [dedent_of_pos (by omega), hk, List.map_append, List.map_cons]
    refine trimEnd_ended ((hblank last).trans hlast) htrims ?_ _
    rw [List.forall_mem_map]
    exact fun line hline => (hblank line).trans (hblanks line hline)
  have hcut {line : String} (hline : line ∈ front ++ last :: blanks) :
      '\n' ∉ (cutIndent k line).toList :=
    fun hfeed => hfeeds line hline ((loses_cutIndent k line).mem hfeed)
  rw [hdedent]
  refine Text.splitOn_intercalate (by simp) fun line hline => ?_
  rcases List.mem_append.1 hline with hline | hline
  · obtain ⟨whole, hwhole, rfl⟩ := List.mem_map.1 hline
    exact hcut (List.mem_append_left _ hwhole)
  · rw [List.mem_singleton.1 hline]
    obtain ⟨tail, -, hsplit⟩ := htrims.blanks
    intro hfeed
    refine hcut (List.mem_append_right _ List.mem_cons_self) ?_
    rw [hsplit, String.toList_append]
    exact List.mem_append_left _ hfeed

/-- Some line that is left and is not blank is not indented any more. -/
theorem exists_flush_line (hfeeds : ∀ line ∈ lines, '\n' ∉ line.toList)
    (hsome : ∃ line ∈ lines, Text.isBlankText line = false) :
    ∃ line ∈ Text.lines (dedent lines), Text.isBlankText line = false ∧ indentWidth line = 0 := by
  obtain ⟨line, hline, hcontent, hwidth⟩ := (isLeast_sharedIndent hsome).1
  have hblank := (loses_cutIndent (sharedIndent lines) line).isBlankText_eq.trans hcontent
  have hflush : indentWidth (cutIndent (sharedIndent lines) line) = 0 := by
    rw [indentWidth_cutIndent, hwidth, Nat.sub_self]
  rcases Nat.eq_zero_or_pos (sharedIndent lines) with hk | hk
  · rw [lines_dedent_of_zero hfeeds (List.ne_nil_of_mem hline) hk]
    exact ⟨line, hline, hcontent, hwidth.trans hk⟩
  · obtain ⟨front, last, blanks, rfl, hlast, hblanks⟩ := exists_last_content hsome
    rw [lines_dedent_of_pos hfeeds hlast hblanks rfl hk]
    rcases List.mem_append.1 hline with hfront | hrest
    · exact ⟨_, List.mem_append_left _ (List.mem_map_of_mem hfront), hblank, hflush⟩
    · rcases List.mem_cons.1 hrest with rfl | hmem
      · refine ⟨_, List.mem_append_right _ List.mem_cons_self, ?_, ?_⟩
        · rw [(Text.trimsTo_trimEnd _).isBlankText_eq, hblank]
        · rw [indentWidth_trimEnd hblank, hflush]
      · exact absurd (hblanks line hmem) (by simp [hcontent])

/-- What becomes of lines of which some are not blank. Without an indentation that they share they
stay as they are. Otherwise the lines up to the last one that is not blank are left; each has lost
spaces and tabs in front, as many as are shared unless it is blank and has fewer, and the last one
has lost blanks at its end, and nothing else is lost. Then some line is not indented any more.
Cutting at byte offsets gives the same. -/
theorem dedent_keeps_content (lines : List String)
    (hfeeds : ∀ line ∈ lines, '\n' ∉ line.toList)
    (hsome : ∃ line ∈ lines, Text.isBlankText line = false) :
    ∃ k, IsLeast (contentWidths lines) k ∧
      (k = 0 → Text.lines (dedent lines) = lines) ∧
      (0 < k → ∃ front last blanks rests rest kept,
        lines = front ++ last :: blanks ∧ Text.isBlankText last = false ∧
        (∀ line ∈ blanks, Text.isBlankText line = true) ∧
        List.Forall₂ (Cut k) front rests ∧ Cut k last rest ∧ Text.TrimsTo rest kept ∧
        Text.lines (dedent lines) = rests ++ [kept]) ∧
      (∃ line ∈ Text.lines (dedent lines), Text.isBlankText line = false ∧
        ∀ c ∈ line.toList.head?, c ≠ ' ' ∧ c ≠ '\t') ∧
      dedentBytes lines = some (dedent lines) := by
  refine ⟨sharedIndent lines, isLeast_sharedIndent hsome, fun hk => ?_, fun hk => ?_, ?_,
    dedentBytes_eq lines⟩
  · obtain ⟨line, hline, -⟩ := hsome
    exact lines_dedent_of_zero hfeeds (List.ne_nil_of_mem hline) hk
  · obtain ⟨front, last, blanks, rfl, hlast, hblanks⟩ := exists_last_content hsome
    refine ⟨front, last, blanks, _, _, _, rfl, hlast, hblanks, ?_,
      cut_cutIndent (List.mem_append_right _ List.mem_cons_self), Text.trimsTo_trimEnd _,
      lines_dedent_of_pos hfeeds hlast hblanks rfl hk⟩
    rw [List.forall₂_map_right_iff, List.forall₂_same]
    exact fun line hline => cut_cutIndent (List.mem_append_left _ hline)
  · obtain ⟨line, hline, hcontent, hwidth⟩ := exists_flush_line hfeeds hsome
    exact ⟨line, hline, hcontent, indentWidth_eq_zero_iff.1 hwidth⟩

/-- Lines that share two spaces, with blanks that are not indentation behind them, a blank line that
is shorter, and blank lines at the end. -/
def wideLines : List String :=
  ["    a", " ", "  \u3000b\u00a0", "\t\u2003", ""]

theorem isLeast_wideLines : IsLeast (contentWidths wideLines) 2 := by
  have hsome : ∃ line ∈ wideLines, Text.isBlankText line = false := by decide
  exact isLeast_sharedIndent hsome

theorem dedent_keeps_content_wide :
    (∀ line ∈ wideLines, '\n' ∉ line.toList) ∧
    (∃ line ∈ wideLines, Text.isBlankText line = false) ∧
    (∃ front last blanks rests rest kept,
      wideLines = front ++ last :: blanks ∧ Text.isBlankText last = false ∧
      (∀ line ∈ blanks, Text.isBlankText line = true) ∧
      List.Forall₂ (Cut 2) front rests ∧ Cut 2 last rest ∧ Text.TrimsTo rest kept ∧
      Text.lines (dedent wideLines) = rests ++ [kept]) ∧
    (∃ line ∈ Text.lines (dedent wideLines), Text.isBlankText line = false ∧
      ∀ c ∈ line.toList.head?, c ≠ ' ' ∧ c ≠ '\t') ∧
    dedentBytes wideLines = some (dedent wideLines) := by
  have hfeeds : ∀ line ∈ wideLines, '\n' ∉ line.toList := by decide
  have hsome : ∃ line ∈ wideLines, Text.isBlankText line = false := by decide
  obtain ⟨k, hk, -, hpos, hflush, hbytes⟩ := dedent_keeps_content wideLines hfeeds hsome
  obtain rfl := hk.unique isLeast_wideLines
  exact ⟨hfeeds, hsome, hpos Nat.two_pos, hflush, hbytes⟩

end ClassDocs
