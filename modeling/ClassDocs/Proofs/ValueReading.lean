import ClassDocs.Proofs.TextWords

/-!
# Reading documented values

A text that documents a value is cut at its first blank, and for a parameter at the one after that.
`Parameter.ParamText` lists the ways in which a text documents a parameter. Blanks are lost at a cut
and a single space can take their place, but no other character is lost or moved. Which blank ends a
word does not matter, so lines that are joined by line feeds are read like one line.

## Main definitions

* `Parameter.ParamText`: the texts of parameters.
* `Parameter.ReadFrom`: a value that keeps what a text says.
* `Parameter.replaceChar`: a value with a character replaced in its description.

## Main results

* `Parameter.ofParamText_eq_iff`: the parameter that a text documents.
* `Parameter.name_ofParamText_eq_some_iff`: the texts that name a parameter.
* `Parameter.ofReturnText?_eq_none_iff`: the texts that describe no return value.
* `Parameter.readings_keep_text`: what the three readers find and keep.
* `Parameter.lineFeeds_read_as_spaces`: values over several lines.
-/

namespace ClassDocs

/-! ### What the readers find -/

theorem getD_nonEmpty (text : String) : (nonEmpty text).getD "" = text := by
  rw [nonEmpty]
  split_ifs with hempty
  · exact hempty.symm
  · rfl

/-- A description that is left out when it is empty says what it would say. -/
theorem getD_bind_nonEmpty (rest : Option String) (f : String → String) :
    (rest.bind fun text => nonEmpty (f text)).getD "" = (rest.map f).getD "" := by
  cases rest with
  | none => rfl
  | some text => exact getD_nonEmpty (f text)

theorem nonEmpty_replaceChar (old new : Char) (text : String) :
    nonEmpty (Text.replaceChar old new text) = (nonEmpty text).map (Text.replaceChar old new) := by
  have hempty : Text.replaceChar old new text = "" ↔ text = "" := by
    rw [← String.toList_inj, ← String.toList_inj, Text.toList_replaceChar]
    simp
  rw [nonEmpty, nonEmpty]
  by_cases h : text = ""
  · rw [if_pos h, if_pos (hempty.2 h), Option.map_none]
  · rw [if_neg h, if_neg (mt hempty.1 h), Option.map_some]

namespace Parameter

open Text (IsWord isBlank Splits IsFirstWord condensed)

variable {text type rest word : String} {more : Option String} {p : Parameter}

/-- The ways in which a text documents a parameter: by a type alone, or by a type and then a gap, a
name or the first word of a description. The description that starts after a gap or a name is unset
when there is none. -/
inductive ParamText : String → Parameter → Prop
  | bare {type : String} (htype : IsWord type) : ParamText type { type := some type }
  | gap {text type rest : String} {more : Option String} (htext : Splits text type (some rest))
      (hrest : Splits rest "" more) :
      ParamText text { type := some type, description := more.bind nonEmpty }
  | named {text type rest name : String} {more : Option String}
      (htext : Splits text type (some rest)) (hrest : Splits rest name more)
      (hname : name.toList.head? = some '$') :
      ParamText text { type := some type, name := some name, description := more.bind nonEmpty }
  | phrase {text type rest word : String} {more : Option String}
      (htext : Splits text type (some rest)) (hrest : Splits rest word more) (hword : word ≠ "")
      (hname : word.toList.head? ≠ some '$') :
      ParamText text
        { type := some type, description := some (word ++ (more.bind nonEmpty).elim "" (" " ++ ·)) }

theorem ParamText.ofParamText_eq (h : ParamText text p) : ofParamText text = p := by
  cases h with
  | bare htype => simp only [ofParamText, (Splits.word htype).splitToken_eq]
  | gap htext hrest => simp only [ofParamText, htext.splitToken_eq, hrest.splitToken_eq, if_pos]
  | @named _ _ name _ htext hrest hname =>
    have hempty : name ≠ "" := by
      rintro rfl
      simp at hname
    simp only [ofParamText, htext.splitToken_eq, hrest.splitToken_eq, if_neg hempty, isName, sigil,
      hname, beq_self_eq_true, if_pos]
  | @phrase _ _ word more htext hrest hword hname =>
    have hsigil : ¬(word.toList.head? == some '$') = true := by simpa using hname
    simp only [ofParamText, htext.splitToken_eq, hrest.splitToken_eq, if_neg hword, isName, sigil,
      if_neg hsigil]
    cases more.bind nonEmpty with
    | none => simp
    | some more => simp [String.append_assoc]

theorem exists_paramText (text : String) : ∃ p, ParamText text p := by
  obtain ⟨type, rest, htext⟩ := Text.exists_splits text
  cases rest with
  | none =>
    cases htext with
    | word htype => exact ⟨_, .bare htype⟩
  | some rest =>
    obtain ⟨word, more, hrest⟩ := Text.exists_splits rest
    by_cases hempty : word = ""
    · exact ⟨_, .gap htext (hempty ▸ hrest)⟩
    by_cases hname : word.toList.head? = some '$'
    · exact ⟨_, .named htext hrest hname⟩
    · exact ⟨_, .phrase htext hrest hempty hname⟩

theorem ofParamText_eq_iff : ofParamText text = p ↔ ParamText text p := by
  refine ⟨?_, ParamText.ofParamText_eq⟩
  rintro rfl
  obtain ⟨p, h⟩ := exists_paramText text
  rwa [h.ofParamText_eq]

theorem ofThrowsText_of_splits (h : Splits text type more) :
    ofThrowsText text = { type := some type, description := more.bind nonEmpty } := by
  simp only [ofThrowsText, h.splitToken_eq]

/-- What a reader of return values finds; a bare `null` with blanks after it is passed over. -/
theorem ofReturnText?_of_splits (h : Splits text type more) :
    ofReturnText? text =
      if type = "null" ∧ (more.bind fun rest => nonEmpty (Text.trim rest)) = none then none
      else
        some {
          type := some type
          description := more.bind fun rest => nonEmpty (Text.trim rest) } := by
  simp only [ofReturnText?, h.splitToken_eq]

/-- A value that keeps what a text says: its type is the first word, it has the characters of the
text but for the blanks, in their order, and its description is not empty when it is set. -/
structure ReadFrom (p : Parameter) (text : String) : Prop where
  type : ∃ type, p.type = some type ∧ IsFirstWord type text
  kept : condensed (p.type.getD "" ++ p.name.getD "" ++ p.description.getD "") = condensed text
  description : p.description ≠ some ""

theorem condensed_bind_nonEmpty (more : Option String) :
    condensed ((more.bind nonEmpty).getD "") = condensed (more.getD "") := by
  have hsaid := getD_bind_nonEmpty more id
  rw [Option.map_id_apply] at hsaid
  exact congrArg condensed hsaid

theorem readFrom_ofParamText (text : String) : (ofParamText text).ReadFrom text := by
  have hparam := isParam_ofParamText text
  obtain ⟨p, htext⟩ := exists_paramText text
  rw [htext.ofParamText_eq] at hparam ⊢
  cases htext with
  | bare htype => exact ⟨⟨_, rfl, (Splits.word htype).isFirstWord⟩, by simp, hparam.description⟩
  | gap htext hrest =>
    refine ⟨⟨_, rfl, htext.isFirstWord⟩, ?_, hparam.description⟩
    simp [htext.condensed_eq, hrest.condensed_eq, condensed_bind_nonEmpty]
  | named htext hrest =>
    refine ⟨⟨_, rfl, htext.isFirstWord⟩, ?_, hparam.description⟩
    simp [htext.condensed_eq, hrest.condensed_eq, condensed_bind_nonEmpty, String.append_assoc]
  | @phrase _ _ word more htext hrest =>
    refine ⟨⟨_, rfl, htext.isFirstWord⟩, ?_, hparam.description⟩
    -- A space stands before the rest, whichever blank the text has there.
    have hphrase : condensed ((more.bind nonEmpty).elim "" (" " ++ ·)) =
        condensed ((more.bind nonEmpty).getD "") := by
      cases more.bind nonEmpty with
      | none => rfl
      | some more => exact (Text.condensed_append " " more).trans (String.empty_append)
    simp [htext.condensed_eq, hrest.condensed_eq, hphrase, condensed_bind_nonEmpty]

theorem readFrom_ofThrowsText (text : String) : (ofThrowsText text).ReadFrom text := by
  have hdescription := (isException_ofThrowsText text).description
  obtain ⟨type, more, htext⟩ := Text.exists_splits text
  rw [ofThrowsText_of_splits htext] at hdescription ⊢
  refine ⟨⟨type, rfl, htext.isFirstWord⟩, ?_, hdescription⟩
  simp [htext.condensed_eq, condensed_bind_nonEmpty]

theorem readFrom_of_ofReturnText? (h : ofReturnText? text = some p) : p.ReadFrom text := by
  have hdescription := (isReturn_of_ofReturnText? h).description
  obtain ⟨type, more, htext⟩ := Text.exists_splits text
  rw [ofReturnText?_of_splits htext] at h
  split_ifs at h
  obtain rfl := Option.some.inj h
  refine ⟨⟨type, rfl, htext.isFirstWord⟩, ?_, hdescription⟩
  have htrimmed : condensed ((more.map Text.trim).getD "") = condensed (more.getD "") := by
    cases more with
    | none => rfl
    | some rest => exact Text.condensed_trim rest
  simp [htext.condensed_eq, getD_bind_nonEmpty, htrimmed]

/-- A parameter is named by a word with the sigil that stands one blank behind the type. -/
theorem name_ofParamText_eq_some_iff {name : String} :
    (ofParamText text).name = some name ↔
      ∃ type c back, IsWord type ∧ isBlank c = true ∧ IsWord name ∧
        name.toList.head? = some '$' ∧ (∀ d ∈ back.toList.head?, isBlank d = true) ∧
        text = type ++ String.singleton c ++ name ++ back := by
  constructor
  · intro h
    obtain ⟨p, htext⟩ := exists_paramText text
    rw [htext.ofParamText_eq] at h
    cases htext with
    | bare => cases h
    | gap => cases h
    | phrase => cases h
    | named htext hrest hname =>
      obtain rfl := Option.some.inj h
      obtain ⟨back, rfl, hback⟩ := hrest.exists_append
      cases htext with
      | blank htype hc =>
        exact ⟨_, _, back, htype, hc, hrest.isWord, hname, hback, by simp [String.append_assoc]⟩
  · rintro ⟨type, c, back, htype, hc, hword, hname, hback, rfl⟩
    obtain ⟨more, hrest⟩ := Text.splits_append hword hback
    have htext := ParamText.named (.blank htype hc (name ++ back)) hrest hname
    rw [String.append_assoc, htext.ofParamText_eq]

-- A second blank keeps a word from being the name.
example : ofParamText "int  $n" = { type := some "int", description := some "$n" } := by decide

/-- A description that is trimmed is left out when it has blanks only. -/
theorem bind_nonEmpty_trim_eq_none_iff :
    (more.bind fun rest => nonEmpty (Text.trim rest)) = none ↔
      Text.isBlankText (more.getD "") = true := by
  cases more with
  | none => simp [Text.isBlankText]
  | some rest =>
    rw [Option.getD_some, ← Text.trim_eq_empty_iff]
    simp [nonEmpty]

/-- A text describes no return value exactly when it is `null` with nothing but blanks behind it. -/
theorem ofReturnText?_eq_none_iff :
    ofReturnText? text = none ↔
      ∃ blanks, Text.isBlankText blanks = true ∧ text = "null" ++ blanks := by
  constructor
  · intro h
    obtain ⟨type, more, htext⟩ := Text.exists_splits text
    rw [ofReturnText?_of_splits htext] at h
    split_ifs at h with hnull
    obtain ⟨rfl, hnone⟩ := hnull
    obtain ⟨back, rfl, -⟩ := htext.exists_append
    exact ⟨back, htext.isBlankText_iff.2 (bind_nonEmpty_trim_eq_none_iff.1 hnone), rfl⟩
  · rintro ⟨blanks, hblanks, rfl⟩
    have hhead : ∀ c ∈ blanks.toList.head?, isBlank c = true := fun c hc =>
      Text.isBlankText_iff.1 hblanks c (List.mem_of_mem_head? hc)
    obtain ⟨more, htext⟩ := Text.splits_append (by decide : IsWord "null") hhead
    have hnone := bind_nonEmpty_trim_eq_none_iff.2 (htext.isBlankText_iff.1 hblanks)
    rw [ofReturnText?_of_splits htext, if_pos ⟨rfl, hnone⟩]

/-- The three readers take the longest word in front for the type and keep every character that is
not blank. A parameter has a name exactly when a word with the sigil stands one blank behind the
type; a return value is left out exactly when it is `null` with blanks behind it. Blanks are the
characters with the White_Space property, and wherever a text is cut, cutting at byte offsets finds
the same and never falls inside a character. -/
theorem readings_keep_text (text : String) :
    (ofParamText text).ReadFrom text ∧ (ofThrowsText text).ReadFrom text ∧
    (∀ p, ofReturnText? text = some p → p.ReadFrom text) ∧
    (∀ name, (ofParamText text).name = some name ↔
      ∃ type c back, IsWord type ∧ isBlank c = true ∧ IsWord name ∧
        name.toList.head? = some '$' ∧ (∀ d ∈ back.toList.head?, isBlank d = true) ∧
        text = type ++ String.singleton c ++ name ++ back) ∧
    (ofReturnText? text = none ↔
      ∃ blanks, Text.isBlankText blanks = true ∧ text = "null" ++ blanks) ∧
    (∀ c, isBlank c = true ↔ c.toNat ∈ Text.whiteSpace) ∧
    ∀ part, Text.splitTokenBytes part = some (splitToken part) :=
  ⟨readFrom_ofParamText text, readFrom_ofThrowsText text, fun _ => readFrom_of_ofReturnText?,
    fun _ => name_ofParamText_eq_some_iff, ofReturnText?_eq_none_iff, fun _ => Text.isBlank_iff,
    Text.splitTokenBytes_eq⟩

/-! ### Values over several lines -/

/-- A value with one character replaced by another in its description. -/
def replaceChar (old new : Char) (p : Parameter) : Parameter :=
  { p with description := p.description.map (Text.replaceChar old new) }

theorem bind_nonEmpty_replaceChar (old new : Char) (more : Option String) :
    (more.map (Text.replaceChar old new)).bind nonEmpty =
      (more.bind nonEmpty).map (Text.replaceChar old new) := by
  cases more with
  | none => rfl
  | some rest => exact nonEmpty_replaceChar old new rest

section Replacing

variable {old new : Char} (hold : isBlank old = true) (hnew : isBlank new = true)
include hold hnew

/-- A parameter is documented in the same way whichever blanks stand in the text. A space cannot be
the one that is replaced, because one is put in after the first word of a description. -/
theorem ParamText.replaceChar (hspace : old ≠ ' ') (h : ParamText text p) :
    ParamText (Text.replaceChar old new text) (p.replaceChar old new) := by
  cases h with
  | bare htype =>
    rw [htype.replaceChar_eq hold]
    exact .bare htype
  | gap htext hrest =>
    rw [Parameter.replaceChar, ← bind_nonEmpty_replaceChar]
    exact .gap (htext.replaceChar hold hnew) (hrest.replaceChar hold hnew)
  | named htext hrest hname =>
    rw [Parameter.replaceChar, ← bind_nonEmpty_replaceChar]
    exact .named (htext.replaceChar hold hnew) (hrest.replaceChar hold hnew) hname
  | @phrase _ _ word more htext hrest hword hname =>
    have hphrase : Text.replaceChar old new (word ++ (more.bind nonEmpty).elim "" (" " ++ ·)) =
        word ++ ((more.map (Text.replaceChar old new)).bind nonEmpty).elim "" (" " ++ ·) := by
      rw [Text.replaceChar_append, hrest.isWord.replaceChar_eq hold, bind_nonEmpty_replaceChar]
      cases more.bind nonEmpty with
      | none => rfl
      | some more =>
        have hkept : Text.replaceChar old new " " = " " :=
          Text.replaceChar_of_not_mem (by simpa using hspace)
        simp [Text.replaceChar_append, hkept]
    rw [Parameter.replaceChar, Option.map_some, hphrase]
    exact .phrase (htext.replaceChar hold hnew) (hrest.replaceChar hold hnew) hword hname

theorem ofParamText_replaceChar (hspace : old ≠ ' ') (text : String) :
    ofParamText (Text.replaceChar old new text) = (ofParamText text).replaceChar old new := by
  obtain ⟨p, htext⟩ := exists_paramText text
  rw [htext.ofParamText_eq, (htext.replaceChar hold hnew hspace).ofParamText_eq]

theorem ofThrowsText_replaceChar (text : String) :
    ofThrowsText (Text.replaceChar old new text) = (ofThrowsText text).replaceChar old new := by
  obtain ⟨type, more, htext⟩ := Text.exists_splits text
  rw [ofThrowsText_of_splits htext, ofThrowsText_of_splits (htext.replaceChar hold hnew),
    bind_nonEmpty_replaceChar]
  rfl

theorem ofReturnText?_replaceChar (text : String) :
    ofReturnText? (Text.replaceChar old new text) =
      (ofReturnText? text).map (Parameter.replaceChar old new) := by
  obtain ⟨type, more, htext⟩ := Text.exists_splits text
  have hdescription :
      ((more.map (Text.replaceChar old new)).bind fun rest => nonEmpty (Text.trim rest)) =
        (more.bind fun rest => nonEmpty (Text.trim rest)).map (Text.replaceChar old new) := by
    cases more with
    | none => rfl
    | some rest =>
      rw [Option.map_some, Option.bind_some, Option.bind_some, Text.trim_replaceChar hold hnew,
        nonEmpty_replaceChar]
  rw [ofReturnText?_of_splits htext, ofReturnText?_of_splits (htext.replaceChar hold hnew)]
  simp only [hdescription, Option.map_eq_none_iff]
  split_ifs
  · rw [Option.map_none]
  · rw [Option.map_some, Parameter.replaceChar]

end Replacing

/-- Lines that are joined by line feeds are read like one line with spaces in their place: the type
and the name are the same, the description has a space for every line feed, and a return value is
left out for both or for none. -/
theorem lineFeeds_read_as_spaces (lines : List String) :
    let text := String.intercalate "\n" lines
    let flat := Text.replaceChar '\n' ' ' text
    (ofParamText text).replaceChar '\n' ' ' = ofParamText flat ∧
    (ofThrowsText text).replaceChar '\n' ' ' = ofThrowsText flat ∧
    (ofReturnText? text).map (Parameter.replaceChar '\n' ' ') = ofReturnText? flat := by
  intro text flat
  have hfeed : isBlank '\n' = true := by decide
  have hspace : isBlank ' ' = true := by decide
  exact ⟨(ofParamText_replaceChar hfeed hspace (by decide) text).symm,
    (ofThrowsText_replaceChar hfeed hspace text).symm,
    (ofReturnText?_replaceChar hfeed hspace text).symm⟩

end Parameter

end ClassDocs
