import ClassDocs.Proofs.CommentLayout

/-!
# Comments in two parts

A tag ends where the next one opens, so lines can be cut in front of any line that opens a tag:
reading the first part and then the second leaves the record that reading all of them leaves. The
cut can also fall after a description, or in front of the first line, since a line that opens a tag
ends a description as well. So the tags of a comment can be taken off it and be read afterwards.

## Main definitions

* `Registry.AtTag`: lines that do not go on with a tag opened before them.

## Main results

* `Registry.runs_append`: the runs of two parts.
* `Registry.applyTags_append`: the record after two parts.
* `Registry.parse_of_contentLines_append`: the record of a comment in two parts.
* `Registry.reading_composes`: the last two, for blocks of any layout.
-/

namespace ClassDocs.Registry

variable {reg : Registry} {xs ys : List String}

/-- There are no lines, or the first one opens a tag. -/
def AtTag (reg : Registry) (lines : List String) : Prop :=
  ∀ line ∈ lines.head?, (reg.classify line).isSome = true

instance (reg : Registry) (lines : List String) : Decidable (reg.AtTag lines) :=
  inferInstanceAs (Decidable (∀ line ∈ lines.head?, (reg.classify line).isSome = true))

namespace AtTag

theorem takeWhile_continues (h : reg.AtTag ys) : ys.takeWhile reg.continues = [] := by
  cases ys with
  | nil => rfl
  | cons line rest =>
    obtain ⟨tag, htag⟩ := Option.isSome_iff_exists.1 (h line rfl)
    exact List.takeWhile_cons_of_neg (by simp [continues_of_classify htag])

theorem dropWhile_continues (h : reg.AtTag ys) : ys.dropWhile reg.continues = ys := by
  have hcut := List.takeWhile_append_dropWhile (p := reg.continues) (l := ys)
  rwa [h.takeWhile_continues, List.nil_append] at hcut

/-- The lines in front of the first tag are those of the first part. -/
theorem takeWhile_append (h : reg.AtTag ys) (xs : List String) :
    (xs ++ ys).takeWhile reg.continues = xs.takeWhile reg.continues := by
  rw [List.takeWhile_append]
  split_ifs with hall
  · rw [h.takeWhile_continues, List.append_nil, (List.takeWhile_prefix _).eq_of_length hall]
  · rfl

/-- The lines from the first tag on are those of the first part, then all of the second. -/
theorem dropWhile_append (h : reg.AtTag ys) (xs : List String) :
    (xs ++ ys).dropWhile reg.continues = xs.dropWhile reg.continues ++ ys := by
  rw [List.dropWhile_append]
  split_ifs with hnone
  · rw [h.dropWhile_continues, List.isEmpty_iff.1 hnone, List.nil_append]
  · rfl

end AtTag

/-- The runs of two parts are those of the first, none of which takes up lines of the second, and
those of the second. -/
theorem runs_append (h : reg.AtTag ys) (xs : List String) :
    reg.runs (xs ++ ys) = reg.runs xs ++ reg.runs ys := by
  induction xs with
  | nil => rfl
  | cons line rest ih =>
    rw [List.cons_append]
    cases hline : reg.classify line with
    | none => rw [runs_cons_of_continues hline, runs_cons_of_continues hline, ih]
    | some tag =>
      rw [runs_cons_of_classify hline, runs_cons_of_classify hline, ih, h.takeWhile_append,
        List.cons_append]

theorem applyTags_append (h : reg.AtTag ys) (r : Record) (xs : List String) :
    reg.applyTags r (xs ++ ys) = reg.applyTags (reg.applyTags r xs) ys := by
  simp only [applyTags_eq_foldl_runs, runs_append h, List.foldl_append]

/-- A comment whose content is that of another and more tags has the record of the other, changed by
these tags. The descriptions of both are the same, since they end where the first tag opens. -/
theorem parse_of_contentLines_append (h : reg.AtTag ys) {whole start : String}
    (hwhole : Comment.contentLines whole = xs ++ ys) (hstart : Comment.contentLines start = xs) :
    reg.parse whole = reg.applyTags (reg.parse start) ys := by
  rw [parse_eq_applyTags, parse_eq_applyTags, hwhole, hstart, h.takeWhile_append,
    h.dropWhile_append, applyTags_append h]

/-- Lines can be cut in front of any line that opens a tag, whatever the handlers do, and be read
part by part. A block can be cut there too: what is left of it is read first, then the tags. -/
theorem reading_composes (reg : Registry) :
    (∀ r xs ys, reg.AtTag ys →
      reg.applyTags r (xs ++ ys) = reg.applyTags (reg.applyTags r xs) ys) ∧
    ∀ before tagged whole start, (∀ line ∈ before ++ tagged, Comment.Content line) →
      reg.AtTag tagged → Comment.Layout (before ++ tagged) whole → Comment.Layout before start →
      reg.parse whole = reg.applyTags (reg.parse start) tagged := by
  refine ⟨fun r xs _ h => applyTags_append h r xs, ?_⟩
  intro before tagged whole start hcontent h hwhole hstart
  refine parse_of_contentLines_append h (hwhole.contentLines_eq hcontent) ?_
  exact hstart.contentLines_eq fun line hline => hcontent line (List.mem_append_left _ hline)

/-- A registry with a handler of its own beside a built-in one. -/
def fixmeRegistry : Registry :=
  (empty.put (.builtin "since" .since)).put
    { name := "fixme", apply := fun r lines => r.addTodo (String.intercalate " " lines) }

/-- A cut after a description, and one with no line in front of it. -/
theorem reading_composes_fixme :
    let tagged := ["@fixme leaks", "memory", "@since 1.2"]
    fixmeRegistry.AtTag tagged ∧
      fixmeRegistry.parse (Comment.canonical ("Opens" :: "" :: tagged)) =
        fixmeRegistry.applyTags (fixmeRegistry.parse (Comment.canonical ["Opens", ""])) tagged ∧
      fixmeRegistry.parse (Comment.canonical tagged) =
        fixmeRegistry.applyTags (fixmeRegistry.parse (Comment.canonical [])) tagged := by
  intro tagged
  have htagged : fixmeRegistry.AtTag tagged := by decide
  refine ⟨htagged, ?_, ?_⟩
  · exact (reading_composes fixmeRegistry).2 ["Opens", ""] tagged _ _ (by decide) htagged
      (Comment.layout_canonical _) (Comment.layout_canonical _)
  · exact (reading_composes fixmeRegistry).2 [] tagged _ _ (by decide) htagged
      (Comment.layout_canonical _) (Comment.layout_canonical _)

end ClassDocs.Registry
