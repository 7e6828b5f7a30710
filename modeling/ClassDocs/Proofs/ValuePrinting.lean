import ClassDocs.Proofs.ValueReading

/-!
# Reading printed values

A value is printed as its parts with single spaces between them, so the first cut of the text gives
the type back and the next one the name. What is left to ask is whether a reader takes each part for
what it is. For exceptions and return values it does so for all the values that it can give at all.
A parameter without a name has to be told from one with a name by its description, and keeps it only
when one space stands after the first word.

## Main definitions

* `Parameter.Phrase`: the descriptions that a parameter without a name gets back.

## Main results

* `Parameter.splits_print`, `Parameter.print_named`: the cuts of a printed value.
* `Parameter.ofParamText_print_iff`, `Parameter.ofThrowsText_print_iff`,
  `Parameter.ofReturnText?_print_iff`: the values that each reader gets back.
* `Parameter.printed_values_read_back`: the three together.
-/

namespace ClassDocs.Parameter

open Text (IsWord isBlank Splits)

variable {p : Parameter} {type name word text : String} {description : Option String}

/-! ### Cutting printed values -/

/-- Without a name the description is what stands behind the type. -/
theorem splits_print (htype : IsWord type) (description : Option String) :
    Splits (print { type := some type, description }) type description := by
  cases description with
  | none => simpa [print] using Splits.word htype
  | some text =>
    have hprint : print { type := some type, description := some text } = type ++ " " ++ text := by
      simp [print]
    rw [hprint]
    exact .blank (c := ' ') htype (by decide) text

/-- A name and the description after it are printed like a type and a description. -/
theorem print_named (type name : String) (description : Option String) :
    print { type := some type, name := some name, description } =
      type ++ " " ++ print { type := some name, description } := by
  cases description <;> simp [print]

theorem splits_print_named (htype : IsWord type) (name : String) (description : Option String) :
    Splits (print { type := some type, name := some name, description }) type
      (some (print { type := some name, description })) := by
  rw [print_named]
  exact .blank (c := ' ') htype (by decide) _

/-- A description that is not empty is not left out. -/
theorem bind_nonEmpty_eq_self (h : description ≠ some "") :
    description.bind nonEmpty = description := by
  cases description with
  | none => rfl
  | some text => exact if_neg fun hempty => h (congrArg some hempty)

/-! ### The values that are read back -/

theorem ofThrowsText_print_iff : ofThrowsText p.print = p ↔ p.IsException := by
  refine ⟨fun h => h ▸ isException_ofThrowsText p.print, ?_⟩
  obtain ⟨type?, name?, description⟩ := p
  rintro ⟨⟨⟨type, htype, hword⟩, hdescription⟩, hname⟩
  obtain rfl : type? = some type := htype
  obtain rfl : name? = none := hname
  rw [ofThrowsText_of_splits (splits_print hword description), bind_nonEmpty_eq_self hdescription]

theorem ofReturnText?_print_iff : ofReturnText? p.print = some p ↔ p.IsReturn := by
  refine ⟨isReturn_of_ofReturnText?, ?_⟩
  obtain ⟨type?, name?, description⟩ := p
  rintro ⟨⟨⟨type, htype, hword⟩, hdescription⟩, hname, htrimmed, hnull⟩
  obtain rfl : type? = some type := htype
  obtain rfl : name? = none := hname
  have hkept : (description.bind fun rest => nonEmpty (Text.trim rest)) = description := by
    cases description with
    | none => rfl
    | some text =>
      rw [Option.bind_some, (htrimmed text rfl).trim_eq]
      exact bind_nonEmpty_eq_self hdescription
  rw [ofReturnText?_of_splits (splits_print hword description), hkept, if_neg]
  rintro ⟨rfl, hnone⟩
  exact hnull rfl hnone

/-- A description that starts with a word without the sigil, with one space after this word when
there is more. -/
def Phrase (text : String) : Prop :=
  ∃ word, IsWord word ∧ word ≠ "" ∧ word.toList.head? ≠ some '$' ∧
    (text = word ∨ ∃ more, more ≠ "" ∧ text = word ++ " " ++ more)

theorem paramText_of_phrase {printed : String} (hprinted : Splits printed type (some text))
    (htext : Phrase text) :
    ParamText printed { type := some type, description := some text } := by
  obtain ⟨word, hword, hempty, hname, rfl | ⟨more, hmore, rfl⟩⟩ := htext
  · simpa using ParamText.phrase hprinted (.word hword) hempty hname
  · have hcut : Splits (word ++ " " ++ more) word (some more) :=
      .blank (c := ' ') hword (by decide) more
    have hphrase := ParamText.phrase hprinted hcut hempty hname
    rwa [bind_nonEmpty_eq_self (by simpa using hmore), Option.elim_some, ← String.append_assoc]
      at hphrase

/-- What stands behind the type is kept as a description only when it is such a phrase: after a gap
it loses a blank, and a name is no description. -/
theorem phrase_of_paramText {printed : String} (hprinted : Splits printed type (some text))
    (h : ParamText printed p) (hname : p.name = none) (hkept : p.description = some text) :
    Phrase text := by
  cases h with
  | bare => cases hkept
  | @gap _ rest more htext hgap =>
    obtain rfl : text = rest := Option.some.inj (htext.unique hprinted).2
    cases hgap with
    | word => cases hkept
    | @blank _ c _ hc rest =>
      -- The description would have to be longer than itself, by the blank.
      obtain ⟨hsame, -⟩ := nonEmpty_eq_some_iff.1 hkept
      have hlength := congrArg String.length hsame
      simp at hlength
  | named => cases hname
  | @phrase _ _ word more _ hword hempty hsigil =>
    refine ⟨word, hword.isWord, hempty, hsigil, ?_⟩
    have hsame := Option.some.inj hkept
    cases hmore : more.bind nonEmpty with
    | none =>
      rw [hmore] at hsame
      exact .inl (by simpa using hsame.symm)
    | some said =>
      obtain ⟨rest, -, hsaid⟩ := Option.bind_eq_some_iff.1 hmore
      rw [hmore, Option.elim_some, ← String.append_assoc] at hsame
      exact .inr ⟨said, (nonEmpty_eq_some_iff.1 hsaid).2, hsame.symm⟩

theorem ofParamText_print_iff :
    ofParamText p.print = p ↔
      p.IsParam ∧ (p.name = none → ∀ text ∈ p.description, Phrase text) := by
  constructor
  · intro h
    have hparam : p.IsParam := h ▸ isParam_ofParamText p.print
    refine ⟨hparam, fun hname text hkept => ?_⟩
    obtain ⟨type?, name?, description⟩ := p
    obtain ⟨type, htype, hword⟩ := hparam.type
    obtain rfl : type? = some type := htype
    obtain rfl : name? = none := hname
    obtain rfl : description = some text := hkept
    exact phrase_of_paramText (splits_print hword _) (ofParamText_eq_iff.1 h) rfl rfl
  · obtain ⟨type?, name?, description⟩ := p
    rintro ⟨⟨⟨⟨type, htype, hword⟩, hdescription⟩, hname⟩, hphrase⟩
    obtain rfl : type? = some type := htype
    apply ParamText.ofParamText_eq
    cases name? with
    | some name =>
      obtain ⟨hsigil, hone⟩ := hname name rfl
      have htext := ParamText.named (splits_print_named hword name description)
        (splits_print hone description) hsigil
      rwa [bind_nonEmpty_eq_self hdescription] at htext
    | none =>
      cases description with
      | none => simpa [print] using ParamText.bare hword
      | some text => exact paramText_of_phrase (splits_print hword _) (hphrase rfl text rfl)

-- This value is read from a text with two blanks, and printed with one of them.
example : ofParamText (print { type := some "int", description := some "$n" }) =
    { type := some "int", name := some "$n" } := by decide

/-- Which values are read back from their printed form. A parameter is when its type is one word,
its description is not empty, and its name, when it is set, is one word with the sigil; without a
name its description starts with a word without the sigil that has one space after it when there is
more. An exception is when it has such a type and description and no name, and a return value when
moreover its description is trimmed and it is no bare `null`. -/
theorem printed_values_read_back (p : Parameter) :
    (ofParamText p.print = p ↔
      p.IsParam ∧ (p.name = none → ∀ text ∈ p.description, Phrase text)) ∧
    (ofThrowsText p.print = p ↔ p.IsException) ∧
    (ofReturnText? p.print = some p ↔ p.IsReturn) :=
  ⟨ofParamText_print_iff, ofThrowsText_print_iff, ofReturnText?_print_iff⟩

end ClassDocs.Parameter
