import ClassDocs.Proofs.CommentSegmentation
import Mathlib.Data.List.Forall2

/-!
# Reading two comments in lockstep

Two lists of lines, each read under a registry of its own, leave the same record when line by line
both go on with what is open or both open tags of the same effect and say the same after them. The
two readings keep the same record and open runs of the same lines, and descriptions end at the same
line, so comments with such content have the same record.

## Main definitions

* `Registry.SameEffect`: tags that do the same, each under its registry.
* `Registry.SameLine`: lines that are read the same way.
* `Registry.Progress.Same`: readings that have come equally far.

## Main results

* `Registry.Progress.Same.read`: one more line on both sides.
* `Registry.applyTags_of_forall₂`, `Registry.parse_of_forall₂`: lists of lines, and comments.
-/

namespace ClassDocs.Registry

variable {reg other : Registry} {lines lines' : List String}

/-- Two tags have the same effect on every record with every lines, each under its registry. -/
def SameEffect (reg other : Registry) (tag tag' : String) : Prop :=
  ∀ r lines, reg.dispatch r ⟨tag, lines⟩ = other.dispatch r ⟨tag', lines⟩

/-- A line under one registry is read like a line under another: it is the same and opens no tag
under either, or both open tags of the same effect and say the same after them. -/
inductive SameLine (reg other : Registry) : String → String → Prop
  | continued {line : String} (h : reg.classify line = none) (h' : other.classify line = none) :
      SameLine reg other line line
  | opened {line line' tag tag' : String} (h : reg.classify line = some tag)
      (h' : other.classify line' = some tag') (text : textAfter tag line = textAfter tag' line')
      (effect : SameEffect reg other tag tag') : SameLine reg other line line'

/-- Open runs with the same lines, of tags with the same effect. -/
inductive SameRun (reg other : Registry) : Option Run → Option Run → Prop
  | none : SameRun reg other none none
  | some {tag tag' : String} (effect : SameEffect reg other tag tag') (lines : List String) :
      SameRun reg other (some ⟨tag, lines⟩) (some ⟨tag', lines⟩)

/-- More lines go to both of the open runs. -/
theorem SameRun.append {run run' : Option Run} (h : SameRun reg other run run')
    (more : List String) :
    SameRun reg other (run.map fun run => { run with lines := run.lines ++ more })
      (run'.map fun run => { run with lines := run.lines ++ more }) := by
  cases h with
  | none => exact .none
  | some effect lines => exact .some effect (lines ++ more)

namespace Progress

/-- Readings that have come equally far. -/
structure Same (reg other : Registry) (p q : Progress) : Prop where
  record : p.record = q.record
  current : SameRun reg other p.current q.current

namespace Same

variable {p q : Progress}

theorem close_eq (h : Same reg other p q) : p.close reg = q.close other := by
  obtain ⟨record, current⟩ := p
  obtain ⟨record', current'⟩ := q
  obtain ⟨hrecord, hcurrent⟩ := h
  cases hcurrent with
  | none => exact hrecord
  | some effect lines =>
    simp only at hrecord
    subst hrecord
    exact effect record lines

/-- Reading one more line on both sides keeps the readings equally far. -/
theorem read (h : Same reg other p q) {line line' : String}
    (hline : SameLine reg other line line') :
    Same reg other (p.read reg line) (q.read other line') := by
  cases hline with
  | continued hreg hother =>
    rw [read_of_continues hreg, read_of_continues hother]
    exact ⟨h.record, h.current.append _⟩
  | opened hreg hother text effect =>
    rw [read_of_classify hreg, read_of_classify hother, text]
    exact ⟨h.close_eq, .some effect _⟩

theorem foldl_read (h : Same reg other p q)
    (hlines : List.Forall₂ (SameLine reg other) lines lines') :
    Same reg other (lines.foldl (Progress.read reg) p) (lines'.foldl (Progress.read other) q) := by
  induction hlines generalizing p q with
  | nil => exact h
  | cons hline _ ih => exact ih (h.read hline)

end Same

end Progress

theorem applyTags_of_forall₂ (h : List.Forall₂ (SameLine reg other) lines lines') (r : Record) :
    reg.applyTags r lines = other.applyTags r lines' :=
  Progress.Same.close_eq (.foldl_read ⟨rfl, .none⟩ h)

/-- The lines in front of the first tag are the same, and those from there on are read the same
way. -/
theorem continues_of_forall₂ (h : List.Forall₂ (SameLine reg other) lines lines') :
    lines.takeWhile reg.continues = lines'.takeWhile other.continues ∧
      List.Forall₂ (SameLine reg other) (lines.dropWhile reg.continues)
        (lines'.dropWhile other.continues) := by
  induction h with
  | nil => exact ⟨rfl, .nil⟩
  | @cons line line' _ _ hline hrest ih =>
    cases hline with
    | continued hreg hother =>
      have hcont := continues_iff.2 hreg
      have hcont' := continues_iff.2 hother
      rw [List.takeWhile_cons_of_pos hcont, List.takeWhile_cons_of_pos hcont',
        List.dropWhile_cons_of_pos hcont, List.dropWhile_cons_of_pos hcont', ih.1]
      exact ⟨rfl, ih.2⟩
    | opened hreg hother text effect =>
      have hopen : ¬reg.continues line = true := by simp [continues_of_classify hreg]
      have hopen' : ¬other.continues line' = true := by simp [continues_of_classify hother]
      rw [List.takeWhile_cons_of_neg hopen, List.takeWhile_cons_of_neg hopen',
        List.dropWhile_cons_of_neg hopen, List.dropWhile_cons_of_neg hopen']
      exact ⟨rfl, .cons (.opened hreg hother text effect) hrest⟩

/-- Comments whose contents are read the same way have the same record. -/
theorem parse_of_forall₂ {comment comment' : String}
    (h : List.Forall₂ (SameLine reg other) (Comment.contentLines comment)
      (Comment.contentLines comment')) :
    reg.parse comment = other.parse comment' := by
  obtain ⟨hpreamble, htagged⟩ := continues_of_forall₂ h
  rw [parse_eq_applyTags, parse_eq_applyTags, hpreamble]
  exact applyTags_of_forall₂ htagged _

end ClassDocs.Registry
