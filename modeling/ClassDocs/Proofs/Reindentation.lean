import ClassDocs.Proofs.Indentation

/-!
# Indenting lines and cutting again

Lines without their shared indentation share none, so cutting a second time changes nothing. Lines
that are all moved to the right by one margin are told apart by their shared indentation only, and
that is what is cut. The two ways of joining lines differ in the blanks at the end: these stay where
no indentation is shared and go where some is.

## Main results

* `sharedIndent_lines_dedent`: nothing is left to cut.
* `sharedIndent_map_append`: a margin adds to what the lines share.
* `trimEnd_dedent`: both ways of joining, up to blanks at the end.
* `dedent_stable`: cutting again, and cutting after lines were indented.
-/

namespace ClassDocs

variable {margin line : String} {lines : List String}

/-! ### Cutting again -/

/-- Lines without their shared indentation share none. -/
theorem sharedIndent_lines_dedent (hfeeds : ∀ line ∈ lines, '\n' ∉ line.toList) :
    sharedIndent (Text.lines (dedent lines)) = 0 := by
  by_cases hsome : ∃ line ∈ lines, Text.isBlankText line = false
  · obtain ⟨line, hline, hcontent, hwidth⟩ := exists_flush_line hfeeds hsome
    exact sharedIndent_eq_zero hline hcontent hwidth
  · have hblank : ∀ line ∈ lines, Text.isBlankText line = true := by simpa using hsome
    have hzero := sharedIndent_of_blank hblank
    by_cases hne : lines = []
    · subst hne
      decide
    · rw [lines_dedent_of_zero hfeeds hne hzero, hzero]

theorem dedent_lines_dedent (hfeeds : ∀ line ∈ lines, '\n' ∉ line.toList) :
    dedent (Text.lines (dedent lines)) = dedent lines := by
  rw [dedent_of_zero (sharedIndent_lines_dedent hfeeds), Text.intercalate_lines]

/-! ### Lines moved to the right -/

section Margin

variable (hmargin : IsMargin margin)
include hmargin

theorem contentWidths_map_append :
    contentWidths (lines.map (margin ++ ·)) = (margin.length + ·) '' contentWidths lines := by
  ext n
  constructor
  · rintro ⟨moved, hmoved, hcontent, rfl⟩
    obtain ⟨line, hline, rfl⟩ := List.mem_map.1 hmoved
    rw [hmargin.isBlankText_append] at hcontent
    exact ⟨_, ⟨line, hline, hcontent, rfl⟩, (hmargin.indentWidth_append line).symm⟩
  · rintro ⟨_, ⟨line, hline, hcontent, rfl⟩, rfl⟩
    exact ⟨margin ++ line, List.mem_map_of_mem hline,
      (hmargin.isBlankText_append line).trans hcontent, hmargin.indentWidth_append line⟩

/-- A margin adds to what the lines share. -/
theorem sharedIndent_map_append (hsome : ∃ line ∈ lines, Text.isBlankText line = false) :
    sharedIndent (lines.map (margin ++ ·)) = margin.length + sharedIndent lines := by
  have hmoved : ∃ line ∈ lines.map (margin ++ ·), Text.isBlankText line = false := by
    obtain ⟨line, hline, hcontent⟩ := hsome
    exact ⟨_, List.mem_map_of_mem hline, (hmargin.isBlankText_append line).trans hcontent⟩
  have hleast := isLeast_sharedIndent hmoved
  rw [contentWidths_map_append hmargin] at hleast
  refine hleast.unique ⟨Set.mem_image_of_mem _ (isLeast_sharedIndent hsome).1, ?_⟩
  rintro _ ⟨n, hn, rfl⟩
  exact Nat.add_le_add_left ((isLeast_sharedIndent hsome).2 hn) _

/-- Cutting takes the margin with the indentation that was there before. -/
theorem map_cutIndent_map_append (hsome : ∃ line ∈ lines, Text.isBlankText line = false) :
    (lines.map (margin ++ ·)).map (cutIndent (sharedIndent (lines.map (margin ++ ·)))) =
      lines.map (cutIndent (sharedIndent lines)) := by
  rw [sharedIndent_map_append hmargin hsome, List.map_map]
  exact List.map_congr_left fun line _ => hmargin.cutIndent_append _ line

end Margin

/-- Whether indentation is shared or not, the lines are cut and joined, up to blanks at the end. -/
theorem trimEnd_dedent (lines : List String) :
    Text.trimEnd (dedent lines) =
      Text.trimEnd (ended (lines.map (cutIndent (sharedIndent lines)))) := by
  rcases Nat.eq_zero_or_pos (sharedIndent lines) with hk | hk
  · have hlines : lines.map (cutIndent 0) = lines :=
      (List.map_congr_left fun line _ => cutIndent_zero line).trans (List.map_id lines)
    rw [dedent_of_zero hk, hk, hlines]
    by_cases hne : lines = []
    · rw [hne]
      rfl
    · rw [ended_eq_intercalate hne, Text.trimEnd_append_blank isBlankText_feed]
  · rw [dedent_of_pos hk, Text.trimEnd_trimEnd]

theorem trimEnd_dedent_of_blank (h : ∀ line ∈ lines, Text.isBlankText line = true) :
    Text.trimEnd (dedent lines) = "" := by
  rw [trimEnd_dedent]
  refine Text.trimEnd_of_blank (isBlankText_ended ?_)
  rw [List.forall_mem_map]
  exact fun line hline => (loses_cutIndent _ line).isBlankText_eq.trans (h line hline)

/-- Cutting the shared indentation of lines that have lost it changes nothing. Indenting all lines
by one margin changes nothing but blanks at the end, and not even these where the lines that are not
blank were all indented before. -/
theorem dedent_stable (lines : List String) :
    ((∀ line ∈ lines, '\n' ∉ line.toList) → dedent (Text.lines (dedent lines)) = dedent lines) ∧
    ∀ margin, IsMargin margin →
      Text.trimEnd (dedent (lines.map (margin ++ ·))) = Text.trimEnd (dedent lines) ∧
      ((∃ line ∈ lines, Text.isBlankText line = false) →
        (∀ line ∈ lines, Text.isBlankText line = false →
          ∃ c ∈ line.toList.head?, c = ' ' ∨ c = '\t') →
        dedent (lines.map (margin ++ ·)) = dedent lines) := by
  refine ⟨dedent_lines_dedent, fun margin hmargin => ⟨?_, fun hsome hindented => ?_⟩⟩
  · by_cases hsome : ∃ line ∈ lines, Text.isBlankText line = false
    · rw [trimEnd_dedent, trimEnd_dedent, map_cutIndent_map_append hmargin hsome]
    · have hblank : ∀ line ∈ lines, Text.isBlankText line = true := by simpa using hsome
      rw [trimEnd_dedent_of_blank hblank, trimEnd_dedent_of_blank]
      rw [List.forall_mem_map]
      exact fun line hline => (hmargin.isBlankText_append line).trans (hblank line hline)
  · have hpos : 0 < sharedIndent lines := by
      obtain ⟨line, hline, hcontent, hwidth⟩ := (isLeast_sharedIndent hsome).1
      obtain ⟨c, hc, hindent⟩ := hindented line hline hcontent
      rw [← hwidth, Nat.pos_iff_ne_zero]
      intro hzero
      have hflush := indentWidth_eq_zero_iff.1 hzero c hc
      tauto
    have hmoved := sharedIndent_map_append hmargin hsome
    rw [dedent_of_pos hpos, dedent_of_pos (by omega), map_cutIndent_map_append hmargin hsome]

theorem dedent_stable_wide :
    dedent (Text.lines (dedent wideLines)) = dedent wideLines ∧
    Text.trimEnd (dedent (wideLines.map ("\t " ++ ·))) = Text.trimEnd (dedent wideLines) ∧
    dedent (wideLines.map ("\t " ++ ·)) = dedent wideLines := by
  have hmargin : IsMargin "\t " := by simp [IsMargin]
  have hindented : ∀ line ∈ wideLines, Text.isBlankText line = false →
      ∃ c ∈ line.toList.head?, c = ' ' ∨ c = '\t' := by
    simp [wideLines, Text.isBlankText]
  obtain ⟨hagain, hmoved⟩ := dedent_stable wideLines
  exact ⟨hagain (by decide), (hmoved "\t " hmargin).1,
    (hmoved "\t " hmargin).2 (by decide) hindented⟩

end ClassDocs
