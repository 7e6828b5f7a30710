import ClassDocs.Proofs.CommentLayout
import ClassDocs.Proofs.Lockstep
import ClassDocs.Proofs.TagGrammar

/-!
# Names of the same kind

Two names that stand for the same built-in kind can be used one for the other. Where the new name
has at least three characters, a line that opens the old one opens the new one after the
replacement, alone or in front of a text, and hands the same text to a handler of the same effect.
All other lines stay as they are, so the record stays the same. The content of a comment can still
be written in a block after the replacement.

## Main definitions

* `Registry.retag`: a line with one tag in the place of another.

## Main results

* `Registry.Reachable.sameLine_retag`: the replacement in one line.
* `Registry.content_retag`: a line of a comment is still one after the replacement.
* `Registry.aliases_interchangeable`: the replacement in lists of lines and in comments.
-/

namespace ClassDocs.Registry

variable {reg : Registry} {old new line : String} {kind : TagKind}

/-- A line that opens the old tag, with the new one in its place. Other lines stay as they are. -/
def retag (reg : Registry) (old new line : String) : String :=
  if reg.classify line = some old then
    "@" ++ new ++ String.ofList (line.toList.drop (old.length + 1))
  else line

theorem retag_of_ne (h : reg.classify line ≠ some old) (new : String) :
    reg.retag old new line = line :=
  if_neg h

/-- Behind the tag the line goes on as before, with nothing or with a space and a text. -/
theorem exists_retag (h : reg.classify line = some old) (new : String) :
    ∃ tail, (tail = [] ∨ ∃ text, tail = ' ' :: text) ∧ line.toList = '@' :: (old.toList ++ tail) ∧
      (reg.retag old new line).toList = '@' :: (new.toList ++ tail) := by
  have hretag : ∀ tail, line.toList = '@' :: (old.toList ++ tail) →
      (reg.retag old new line).toList = '@' :: (new.toList ++ tail) := by
    intro tail hline
    rw [retag, if_pos h, hline, List.drop_succ_cons, ← String.length_toList, List.drop_left]
    simp
  obtain hline | ⟨text, hline⟩ := candidate?_eq_some (candidate?_of_classify h)
  · rw [← List.append_nil old.toList] at hline
    exact ⟨[], .inl rfl, hline, hretag [] hline⟩
  · exact ⟨' ' :: text, .inr ⟨text, rfl⟩, hline, hretag _ hline⟩

/-! ### One line -/

/-- Names that stand for the same kind have the same effect. -/
theorem sameEffect_of_kind (hold : reg.find? old = some (.builtin old kind))
    (hnew : reg.find? new = some (.builtin new kind)) : SameEffect reg reg old new := by
  intro r lines
  simp only [dispatch, hold, hnew]
  rfl

/-- A line is read the same way after the replacement. -/
theorem Reachable.sameLine_retag (h : reg.Reachable)
    (hold : reg.find? old = some (.builtin old kind))
    (hnew : reg.find? new = some (.builtin new kind)) (hlong : 3 ≤ new.length) (line : String) :
    SameLine reg reg line (reg.retag old new line) := by
  by_cases hline : reg.classify line = some old
  · have hcontains : reg.contains new = true := contains_iff_find?.2 ⟨_, hnew⟩
    have heffect := sameEffect_of_kind hold hnew
    obtain ⟨tail, rfl | ⟨text, rfl⟩, hchars, hretag⟩ := exists_retag hline new
    · rw [List.append_nil] at hchars hretag
      have hopen : reg.retag old new line = "@" ++ new :=
        String.toList_injective (by simp [hretag])
      refine .opened hline (h.wellNamed.classify_eq_some_iff.2 ⟨hcontains, .inl hopen⟩) ?_ heffect
      rw [textAfter_of_bare hchars, textAfter_of_bare hretag]
    · have hopen : reg.retag old new line = "@" ++ new ++ " " ++ String.ofList text :=
        String.toList_injective (by simp [hretag])
      refine .opened hline
        (h.wellNamed.classify_eq_some_iff.2 ⟨hcontains, .inr ⟨hlong, _, hopen⟩⟩) ?_ heffect
      rw [textAfter_of_space hchars, textAfter_of_space hretag]
  · rw [retag_of_ne hline]
    cases htag : reg.classify line with
    | none => exact .continued htag htag
    | some tag => exact .opened htag htag rfl fun _ _ => rfl

/-! ### Lines of a comment -/

theorem TagName.not_isBlank {name : String} (h : TagName name) {c : Char} (hc : c ∈ name.toList) :
    Text.isBlank c = false := by
  obtain ⟨hlow, hhigh⟩ := h.between hc
  have hspace : ' '.toNat = 32 := rfl
  have hlast : 'z'.toNat = 122 := rfl
  simp only [Text.isBlank, Bool.or_eq_false_iff, Bool.and_eq_false_imp, decide_eq_true_eq,
    decide_eq_false_iff_not, beq_eq_false_iff_ne]
  omega

/-- A line that a block can have is still one after the replacement. -/
theorem content_retag (hnew : TagName new) (h : Comment.Content line) :
    Comment.Content (reg.retag old new line) := by
  by_cases hline : reg.classify line = some old
  · obtain ⟨tail, -, hchars, hretag⟩ := exists_retag hline new
    rw [← List.cons_append] at hchars hretag
    have htag : ∀ c ∈ '@' :: new.toList, Text.isBlank c = false := by
      intro c hc
      rcases List.mem_cons.1 hc with rfl | hc
      · decide
      · exact hnew.not_isBlank hc
    refine ⟨⟨fun c hc => ?_, fun c hc => ?_⟩, fun hfeed => ?_⟩
    · rw [hretag] at hc
      exact htag c (List.mem_of_mem_head? (by simpa using hc))
    · rw [hretag, List.getLast?_append] at hc
      cases hlast : tail.getLast? with
      | none =>
        rw [hlast, Option.none_or] at hc
        exact htag c (List.mem_of_getLast? hc)
      | some d =>
        rw [hlast, Option.some_or] at hc
        refine h.trimmed.2 c ?_
        rwa [hchars, List.getLast?_append, hlast, Option.some_or]
    · rw [hretag] at hfeed
      rcases List.mem_append.1 hfeed with hfeed | hfeed
      · exact absurd (htag _ hfeed) (by decide)
      · exact h.oneLine (hchars ▸ List.mem_append_right _ hfeed)
  · rw [retag_of_ne hline]
    exact h

/-! ### Lists of lines and comments -/

/-- One name can stand for another of the same built-in kind, if it has at least three characters:
with it in the place of the other, lines leave the same record, and so do the content lines of a
comment, in every block in which they are written. -/
theorem aliases_interchangeable (reg : Registry) (h : reg.Reachable) (old new : String)
    (kind : TagKind) (hold : reg.find? old = some (.builtin old kind))
    (hnew : reg.find? new = some (.builtin new kind)) (hlong : 3 ≤ new.length) :
    (∀ r lines, reg.applyTags r (lines.map (reg.retag old new)) = reg.applyTags r lines) ∧
    (∀ comment other, Comment.contentLines other =
        (Comment.contentLines comment).map (reg.retag old new) →
      reg.parse other = reg.parse comment) ∧
    ∀ comment block,
      Comment.Layout ((Comment.contentLines comment).map (reg.retag old new)) block →
      Comment.contentLines block = (Comment.contentLines comment).map (reg.retag old new) ∧
        reg.parse block = reg.parse comment := by
  have hlines (lines : List String) :
      List.Forall₂ (SameLine reg reg) lines (lines.map (reg.retag old new)) :=
    List.forall₂_map_right_iff.2
      (List.forall₂_same.2 fun line _ => h.sameLine_retag hold hnew hlong line)
  have hparse : ∀ comment other, Comment.contentLines other =
      (Comment.contentLines comment).map (reg.retag old new) →
      reg.parse other = reg.parse comment := by
    intro comment other hother
    refine (parse_of_forall₂ ?_).symm
    rw [hother]
    exact hlines _
  refine ⟨fun r lines => (applyTags_of_forall₂ (hlines lines) r).symm, hparse, ?_⟩
  intro comment block hlayout
  have htag : TagName new := h.wellNamed.tagName new _ hnew
  have hcontent : ∀ line ∈ (Comment.contentLines comment).map (reg.retag old new),
      Comment.Content line := by
    intro line hline
    obtain ⟨plain, hplain, rfl⟩ := List.mem_map.1 hline
    exact content_retag htag (Comment.content_of_mem_contentLines hplain)
  have hblock := hlayout.contentLines_eq hcontent
  exact ⟨hblock, hparse comment block hblock⟩

/-- A registry with two names for tasks, one of them too short to stand before a space. -/
def taskNames : Registry :=
  [.addAlias "do" .todo, .addAlias "fixme" .todo, .addAlias "see" .see].foldl after empty

/-- The short name alone and with a text, which opens no tag, beside other tags. -/
theorem aliases_interchangeable_taskNames :
    let lines := ["lead", "@do", "more", "@do it", "@fixme now", "@see Other"]
    taskNames.Reachable ∧
      lines.map (taskNames.retag "do" "fixme") =
        ["lead", "@fixme", "more", "@do it", "@fixme now", "@see Other"] ∧
      taskNames.applyTags {} (lines.map (taskNames.retag "do" "fixme")) =
        taskNames.applyTags {} lines ∧
      taskNames.parse (Comment.canonical
          ((Comment.contentLines (Comment.canonical lines)).map (taskNames.retag "do" "fixme"))) =
        taskNames.parse (Comment.canonical lines) := by
  intro lines
  have hreach : taskNames.Reachable := Reachable.empty.foldl_after _
  obtain ⟨hlines, -, hblock⟩ :=
    aliases_interchangeable taskNames hreach "do" "fixme" .todo rfl rfl (by decide)
  exact ⟨hreach, by decide, hlines {} lines, (hblock _ _ (Comment.layout_canonical _)).2⟩

end ClassDocs.Registry
