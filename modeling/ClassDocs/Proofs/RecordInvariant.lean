import ClassDocs.Proofs.CommentLayout
import ClassDocs.Proofs.TagFields
import Mathlib.Data.List.Nodup

/-!
# Records that comments have

In a registry of built-in kinds, every comment has a record in which types and names are single
words, descriptions that are set say something, and no two parameters have the same name. The
descriptions of the comment itself are made of its lines. What tags add is right whatever stands in
the record before, so each of the kinds keeps the record as it should be, and so do all the runs of
a comment.

## Main definitions

* `Parameter.Documented`: what is common to parameters, return values and exceptions.
* `Parameter.IsParam`, `Parameter.IsReturn`, `Parameter.IsException`: the three apart.
* `Record.WellFormed`: a record as it should be.

## Main results

* `Parameter.isParam_ofParamText`, `Parameter.isReturn_of_ofReturnText?`,
  `Parameter.isException_ofThrowsText`: what the three readers find.
* `TagKind.wellFormed_apply`: one occurrence of a tag.
* `Registry.BindsKinds.wellFormed_applyTags`: a list of lines.
* `Registry.parse_wellFormed`: a comment.
-/

namespace ClassDocs

/-! ### Words and descriptions -/

/-- A text without blanks. -/
def Text.IsWord (text : String) : Prop :=
  ∀ c ∈ text.toList, isBlank c = false

theorem not_isBlank_of_mem_splitTokenChars (cs : List Char) :
    ∀ c ∈ (splitTokenChars cs).1, Text.isBlank c = false := by
  induction cs with
  | nil => simp [splitTokenChars]
  | cons d cs ih =>
    intro c hc
    rw [splitTokenChars] at hc
    split_ifs at hc with hd
    · cases hc
    · rcases List.mem_cons.1 hc with rfl | hc
      · simpa using hd
      · exact ih c hc

theorem isWord_splitToken (text : String) : Text.IsWord (splitToken text).1 := by
  intro c hc
  refine not_isBlank_of_mem_splitTokenChars text.toList c ?_
  simpa [splitToken] using hc

theorem nonEmpty_eq_some_iff {text found : String} :
    nonEmpty text = some found ↔ text = found ∧ found ≠ "" := by
  rw [nonEmpty]
  split_ifs with hempty
  · simp only [false_iff, not_and, not_not]
    rintro rfl
    exact hempty
  · rw [Option.some_inj]
    refine ⟨?_, And.left⟩
    rintro rfl
    exact ⟨rfl, hempty⟩

/-- A description that is set says something. -/
theorem bind_nonEmpty_ne (rest : Option String) (f : String → String) :
    (rest.bind fun text => nonEmpty (f text)) ≠ some "" := by
  intro h
  obtain ⟨text, -, htext⟩ := Option.bind_eq_some_iff.1 h
  exact (nonEmpty_eq_some_iff.1 htext).2 rfl

namespace Comment

/-- Lines that say something, joined by spaces, are a line that says something. -/
theorem content_intercalate {lines : List String} (hne : lines ≠ [])
    (h : ∀ line ∈ lines, line ≠ "" ∧ Content line) :
    String.intercalate " " lines ≠ "" ∧ Content (String.intercalate " " lines) := by
  induction lines with
  | nil => exact absurd rfl hne
  | cons line rest ih =>
    obtain ⟨hline, hcontent⟩ := h line List.mem_cons_self
    cases rest with
    | nil =>
      rw [String.intercalate_singleton]
      exact ⟨hline, hcontent⟩
    | cons next rest =>
      obtain ⟨hrest, hcontent'⟩ :=
        ih (List.cons_ne_nil _ _) fun l hl => h l (List.mem_cons_of_mem _ hl)
      rw [String.intercalate_cons_cons]
      refine ⟨by simp, Text.trimmed_append hcontent.trimmed hcontent'.trimmed hline hrest " ", ?_⟩
      simp only [String.toList_append, List.mem_append, not_or]
      exact ⟨⟨hcontent.oneLine, by decide⟩, hcontent'.oneLine⟩

theorem content_of_joined {lines : List String} (h : ∀ line ∈ lines, line ≠ "" ∧ Content line)
    {text : String} (htext : text ∈ joined lines) : text ≠ "" ∧ Content text := by
  rw [joined] at htext
  split_ifs at htext with hnone
  · cases htext
  · obtain rfl := Option.some.inj htext
    exact content_intercalate hnone h

end Comment

/-! ### Documented values -/

namespace Parameter

/-- A value with a type of one word. Its description is not empty when it is set. -/
structure Documented (p : Parameter) : Prop where
  type : ∃ type, p.type = some type ∧ Text.IsWord type
  description : p.description ≠ some ""

/-- A parameter. Its name is one word with the sigil in front when it is set. -/
structure IsParam (p : Parameter) : Prop extends p.Documented where
  name : ∀ name ∈ p.name, name.toList.head? = some '$' ∧ Text.IsWord name

/-- A return value, which has no name. Its description is trimmed, and for a bare `null` it is
set. -/
structure IsReturn (p : Parameter) : Prop extends p.Documented where
  name : p.name = none
  trimmed : ∀ text ∈ p.description, Text.Trimmed text
  null : p.type = some "null" → p.description ≠ none

/-- An exception, which has no name. -/
structure IsException (p : Parameter) : Prop extends p.Documented where
  name : p.name = none

theorem isParam_ofParamText (text : String) : (ofParamText text).IsParam := by
  have htype : ∃ type, some (splitToken text).1 = some type ∧ Text.IsWord type :=
    ⟨_, rfl, isWord_splitToken text⟩
  simp only [ofParamText]
  split
  · exact ⟨⟨htype, by simp⟩, by simp⟩
  · rename_i rest _
    have hrest := bind_nonEmpty_ne (splitToken rest).2 id
    split_ifs with hempty hname
    · exact ⟨⟨htype, hrest⟩, by simp⟩
    · refine ⟨⟨htype, hrest⟩, ?_⟩
      intro name hmem
      obtain rfl := Option.some.inj hmem
      exact ⟨by simpa [isName, sigil] using hname, isWord_splitToken rest⟩
    · refine ⟨⟨htype, ?_⟩, by simp⟩
      -- The word goes first, so that the description is not empty.
      cases (splitToken rest).2.bind nonEmpty with
      | none => simpa using hempty
      | some more => simp

theorem isReturn_of_ofReturnText? {text : String} {p : Parameter}
    (h : ofReturnText? text = some p) : p.IsReturn := by
  simp only [ofReturnText?] at h
  split_ifs at h with hnull
  obtain rfl := Option.some.inj h
  refine ⟨⟨⟨_, rfl, isWord_splitToken text⟩, bind_nonEmpty_ne _ Text.trim⟩, rfl, ?_, ?_⟩
  · intro description hdescription
    obtain ⟨rest, -, hrest⟩ := Option.bind_eq_some_iff.1 hdescription
    rw [← (nonEmpty_eq_some_iff.1 hrest).1]
    exact Text.trimmed_trim rest
  · intro htype hnone
    exact hnull ⟨Option.some.inj htype, hnone⟩

theorem isException_ofThrowsText (text : String) : (ofThrowsText text).IsException where
  type := ⟨_, rfl, isWord_splitToken text⟩
  description := bind_nonEmpty_ne _ id
  name := rfl

end Parameter

/-! ### Records -/

namespace Record

/-- A record as it should be. -/
structure WellFormed (r : Record) : Prop where
  /-- No two parameters have the same name, and at most one has none. -/
  distinct : (r.parameters.map (·.name)).Nodup
  parameters : ∀ p ∈ r.parameters, p.IsParam
  returnValue : ∀ p ∈ r.returnValue, p.IsReturn
  exceptions : ∀ p ∈ r.exceptions, p.IsException
  deprecated_iff : r.isDeprecated = true ↔ ∃ message, r.deprecatedMessage = some message
  description : ∀ text ∈ r.description, text ≠ "" ∧ Comment.Content text
  longDescription : ∀ text ∈ r.longDescription, text ≠ "" ∧ Comment.Content text

theorem mem_putParameter {p q : Parameter} {ps : List Parameter} (h : q ∈ putParameter p ps) :
    q = p ∨ q ∈ ps := by
  induction ps with
  | nil => exact .inl (List.mem_singleton.1 h)
  | cons first rest ih =>
    rw [putParameter] at h
    split_ifs at h
    · exact (List.mem_cons.1 h).imp_right (List.mem_cons_of_mem _)
    · rcases List.mem_cons.1 h with rfl | h
      · exact .inr List.mem_cons_self
      · exact (ih h).imp_right (List.mem_cons_of_mem _)

/-- Replacing a parameter keeps the names, and adding one puts a new name at the end. -/
theorem map_name_putParameter (p : Parameter) (ps : List Parameter) :
    (putParameter p ps).map (·.name) =
      if p.name ∈ ps.map (·.name) then ps.map (·.name) else ps.map (·.name) ++ [p.name] := by
  induction ps with
  | nil => simp [putParameter]
  | cons first rest ih =>
    rw [putParameter]
    by_cases hname : first.name = p.name
    · simp [hname]
    · simp only [if_neg hname, List.map_cons, ih, List.mem_cons, Ne.symm hname, false_or]
      split_ifs <;> rfl

namespace WellFormed

variable {r : Record} {p : Parameter} (h : r.WellFormed)
include h

theorem addParameter (hp : p.IsParam) : (r.addParameter p).WellFormed where
  __ := h
  distinct := by
    rw [Record.addParameter, map_name_putParameter]
    split_ifs with hold
    · exact h.distinct
    · rw [← List.concat_eq_append]
      exact h.distinct.concat hold
  parameters := by
    intro q hq
    rcases mem_putParameter hq with rfl | hq
    · exact hp
    · exact h.parameters q hq

theorem addException (hp : p.IsException) : (r.addException p).WellFormed where
  __ := h
  exceptions := by
    intro q hq
    rcases List.mem_append.1 hq with hq | hq
    · exact h.exceptions q hq
    · rw [List.mem_singleton.1 hq]
      exact hp

end WellFormed

end Record

/-- One occurrence of a tag keeps a record as it should be. -/
theorem TagKind.wellFormed_apply (kind : TagKind) {r : Record} (h : r.WellFormed)
    (lines : List String) : (kind.apply r lines).WellFormed := by
  cases kind with
  | param => exact h.addParameter (Parameter.isParam_ofParamText _)
  | throws => exact h.addException (Parameter.isException_ofThrowsText _)
  | returnValue =>
    simp only [apply]
    split
    · rename_i value hvalue
      refine { h with returnValue := fun p hp => ?_ }
      rw [← Option.some.inj hp]
      exact Parameter.isReturn_of_ofReturnText? hvalue
    · exact h
  | deprecated => exact { h with deprecated_iff := by simp [apply] }
  | access =>
    simp only [apply]
    split
    · exact { h with }
    · exact h
  | _ => exact { h with }

namespace Registry

variable {reg : Registry} {kindOf : String → TagKind}

/-- A run keeps a record as it should be, also when nothing is registered for its tag. -/
theorem BindsKinds.wellFormed_dispatch (hkinds : reg.BindsKinds kindOf) {r : Record}
    (h : r.WellFormed) (run : Run) : (reg.dispatch r run).WellFormed := by
  cases hfind : reg.find? run.tag with
  | none =>
    rw [dispatch, hfind]
    exact h
  | some handler =>
    rw [hkinds.dispatch_eq hfind]
    exact (kindOf run.tag).wellFormed_apply h run.lines

theorem BindsKinds.wellFormed_applyTags (hkinds : reg.BindsKinds kindOf) {r : Record}
    (h : r.WellFormed) (lines : List String) : (reg.applyTags r lines).WellFormed := by
  rw [applyTags_eq_foldl_runs]
  induction reg.runs lines generalizing r with
  | nil => exact h
  | cons run rest ih => exact ih (hkinds.wellFormed_dispatch h run)

/-- The record of two descriptions made of lines of a comment. -/
theorem wellFormed_described {preamble : List String}
    (h : ∀ line ∈ preamble, Comment.Content line) : (described preamble).WellFormed where
  distinct := List.nodup_nil
  parameters := by simp [described]
  returnValue := by simp [described]
  exceptions := by simp [described]
  deprecated_iff := by simp [described]
  description := by
    refine fun text => Comment.content_of_joined fun line hline => ?_
    exact ⟨by simpa using List.mem_takeWhile_imp hline,
      h line ((List.takeWhile_prefix _).subset hline)⟩
  longDescription := by
    refine fun text => Comment.content_of_joined fun line hline => ?_
    obtain ⟨hmem, hne⟩ := List.mem_filter.1 hline
    exact ⟨by simpa using hne, h line ((List.dropWhile_suffix _).subset hmem)⟩

/-- Where all tags are of built-in kinds, every comment has a record as it should be. -/
theorem parse_wellFormed (reg : Registry) (kindOf : String → TagKind)
    (hkinds : reg.BindsKinds kindOf) (comment : String) : (reg.parse comment).WellFormed := by
  rw [parse_eq_applyTags]
  refine hkinds.wellFormed_applyTags (wellFormed_described fun line hline => ?_) _
  exact Comment.content_of_mem_contentLines ((List.takeWhile_prefix _).subset hline)

/-- A comment that names a parameter twice, with a name that is missing, blanks of two kinds and a
`null` that says nothing. -/
theorem parse_wellFormed_builtin :
    builtin.BindsKinds builtinKind ∧
      (builtin.parse (Comment.canonical ["Reads", "@param int $n\tsize", "@param  a",
        "@param bool $n", "@return null", "@throws E"])).WellFormed :=
  ⟨bindsKinds_builtin, parse_wellFormed builtin builtinKind bindsKinds_builtin _⟩

end Registry

end ClassDocs
