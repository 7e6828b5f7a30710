import ClassDocs.Doc.Comment
import ClassDocs.Proofs.TagRuns
import ClassDocs.Proofs.TextLines
import Mathlib.Data.List.TakeDrop

/-!
# What a comment is made of

The content of a comment is a preamble without tags and a tag section. The preamble up to its first
empty line is the short description, the other lines of the preamble are the long one, and the tag
section is cut into runs. Nothing of the section is lost: content lines are trimmed, so a run with
its tag put back is what the comment has.

## Main definitions

* `Comment.joined`: some lines as one text, unset when there are none.

## Main results

* `Comment.trimmed_of_mem_contentLines`: content lines are trimmed.
* `Registry.parse_eq_applyTags`: the descriptions of a comment and the section left to its tags.
* `Registry.parse_segmentation`: a comment is its two descriptions and its runs.
-/

namespace ClassDocs

namespace Comment

theorem trimmed_stripMarker {line : String} (h : Text.Trimmed line) :
    Text.Trimmed (stripMarker line) := by
  unfold stripMarker
  split_ifs
  · exact ⟨by simp, by simp⟩
  · split
    · rw [Text.Trimmed, String.toList_ofList]
      exact Text.trimmedChars_trimChars _
    · exact h

theorem trimmed_of_mem_contentLines {comment line : String} (h : line ∈ contentLines comment) :
    Text.Trimmed line := by
  have hmem := List.mem_of_mem_tail (List.dropLast_subset _ h)
  obtain ⟨raw, -, rfl⟩ := List.mem_map.1 hmem
  exact trimmed_stripMarker (Text.trimmed_trim raw)

/-- Some lines as one text with single spaces between them, unset when there are none. -/
def joined (lines : List String) : Option String :=
  if lines = [] then none else some (String.intercalate " " lines)

/-- Lines that are not empty join to an empty text only when there are none. -/
theorem nonEmpty_intercalate {lines : List String} (h : ∀ l ∈ lines, l ≠ "") :
    nonEmpty (String.intercalate " " lines) = joined lines := by
  cases lines with
  | nil => rfl
  | cons line rest =>
    have hline := h line List.mem_cons_self
    have htext : String.intercalate " " (line :: rest) ≠ "" := by
      intro hempty
      apply hline
      have hchars := congrArg String.toList hempty
      apply String.toList_injective
      cases rest with
      | nil => simpa using hchars
      | cons next rest => simp at hchars
    rw [nonEmpty, joined, if_neg htext, if_neg (List.cons_ne_nil _ _)]

end Comment

/-! ### The two descriptions -/

namespace Registry

variable (reg : Registry)

theorem takeDescription_fst (lines : List String) :
    (reg.takeDescription lines).1 = (lines.takeWhile reg.continues).takeWhile (· != "") := by
  induction lines with
  | nil => rfl
  | cons line rest ih =>
    rw [takeDescription]
    split_ifs with hblank htag
    · subst hblank
      rw [List.takeWhile_cons_of_pos (continues_iff.2 classify_empty),
        List.takeWhile_cons_of_neg (by simp)]
    · obtain ⟨tag, htag⟩ := Option.isSome_iff_exists.1 htag
      rw [List.takeWhile_cons_of_neg (by simp [continues_of_classify htag]), List.takeWhile_nil]
    · have hcont : reg.continues line = true := continues_iff.2 (by simpa using htag)
      rw [List.takeWhile_cons_of_pos hcont,
        List.takeWhile_cons_of_pos (by simpa using hblank), ← ih]

/-- The lines after the short description are those of the content, but for the blank line that
ends the description and the lines of the description itself. -/
theorem takeLongDescription_takeDescription (lines : List String) :
    reg.takeLongDescription (reg.takeDescription lines).2 =
      (((lines.takeWhile reg.continues).dropWhile (· != "")).filter (· != ""),
        lines.dropWhile reg.continues) := by
  rw [takeLongDescription, List.span_eq_takeWhile_dropWhile]
  change (((reg.takeDescription lines).2.takeWhile reg.continues).filter (· != ""),
    (reg.takeDescription lines).2.dropWhile reg.continues) = _
  induction lines with
  | nil => rfl
  | cons line rest ih =>
    rw [takeDescription]
    split_ifs with hblank htag
    · subst hblank
      have hcont : reg.continues "" = true := continues_iff.2 classify_empty
      rw [List.takeWhile_cons_of_pos hcont, List.dropWhile_cons_of_pos hcont,
        List.dropWhile_cons_of_neg (by simp), List.filter_cons_of_neg (by simp)]
    · obtain ⟨tag, htag⟩ := Option.isSome_iff_exists.1 htag
      have htag : ¬reg.continues line = true := by simp [continues_of_classify htag]
      rw [List.takeWhile_cons_of_neg htag, List.dropWhile_cons_of_neg htag]
      rfl
    · have hcont : reg.continues line = true := continues_iff.2 (by simpa using htag)
      rw [List.takeWhile_cons_of_pos hcont, List.dropWhile_cons_of_pos hcont,
        List.dropWhile_cons_of_pos (by simpa using hblank)]
      exact ih

/-- The record of the descriptions that a preamble holds. -/
def described (preamble : List String) : Record where
  description := Comment.joined (preamble.takeWhile (· != ""))
  longDescription := Comment.joined ((preamble.dropWhile (· != "")).filter (· != ""))

theorem parse_eq_applyTags (comment : String) :
    reg.parse comment =
      reg.applyTags (described ((Comment.contentLines comment).takeWhile reg.continues))
        ((Comment.contentLines comment).dropWhile reg.continues) := by
  have hshort : ∀ (preamble : List String), ∀ l ∈ preamble.takeWhile (· != ""), l ≠ "" := by
    intro preamble l hl
    simpa using List.mem_takeWhile_imp hl
  have hlong : ∀ (preamble : List String),
      ∀ l ∈ (preamble.dropWhile (· != "")).filter (· != ""), l ≠ "" := by
    intro preamble l hl
    simpa using (List.mem_filter.1 hl).2
  rw [parse]
  simp only [takeLongDescription_takeDescription, takeDescription_fst]
  rw [Comment.nonEmpty_intercalate (hshort _), Comment.nonEmpty_intercalate (hlong _)]
  rfl

/-- The record of a comment is that of its two descriptions, changed by one handler call for each
run of the tag section, in order. The section has no other cut into runs, and the runs with their
tags put back are its lines. -/
theorem parse_segmentation (comment : String) :
    let content := Comment.contentLines comment
    let preamble := content.takeWhile fun line => (reg.classify line).isNone
    let tagged := content.dropWhile fun line => (reg.classify line).isNone
    let short := preamble.takeWhile (· != "")
    let long := (preamble.dropWhile (· != "")).filter (· != "")
    ∃ runs : List Run,
      reg.Cut tagged runs ∧ (∀ other, reg.Cut tagged other → other = runs) ∧
      (∀ run ∈ runs, ∃ handler, reg.find? run.tag = some handler ∧
        ∀ r, reg.dispatch r run = handler.apply r run.lines) ∧
      reg.parse comment = runs.foldl reg.dispatch
        { description := if short = [] then none else some (String.intercalate " " short)
          longDescription := if long = [] then none else some (String.intercalate " " long) } ∧
      runs.flatMap Run.source = tagged := by
  intro content preamble tagged short long
  have hcut : reg.Cut tagged (reg.runs content) := cut_runs reg content
  have hruns : reg.runs tagged = reg.runs content := hcut.eq_runs.symm
  have hend : ∀ l ∈ tagged, l.toList.getLast? ≠ some ' ' := fun l hl =>
    (Comment.trimmed_of_mem_contentLines
      ((List.dropWhile_suffix _).subset hl)).getLast?_ne_space
  refine ⟨reg.runs content, hcut, fun other hother => ?_, hcut.exists_handler, ?_,
    hcut.flatMap_source hend⟩
  · rw [hother.eq_runs, hruns]
  · rw [← hruns, ← applyTags_eq_foldl_runs]
    exact reg.parse_eq_applyTags comment

end Registry

end ClassDocs
