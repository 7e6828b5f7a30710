import ClassDocs.FileTree.Name
import Mathlib.Data.List.Basic

/-!
# Names as texts

A name that a text spells is shown as that text, so that no two texts spell the same name. Of any
other name so much can be told from the way it is shown: a character with a single byte is only
shown where the name has this byte.

## Main definitions

* `FileName.IsText`: names that a text spells.

## Main results

* `FileName.lossy_ofText`: a name is shown as the text that spells it.
* `FileName.text?_eq_some_iff`: reading a name as a text is spelling it backwards.
* `FileName.mem_bytes_of_mem_lossy`: what is shown in a single byte is in the name.
* `Text.bytes_intercalate`: texts with slashes between them spell names with slashes between them.
-/

namespace ClassDocs

namespace Text

theorem bytes_eq_flatMap (text : String) :
    bytes text = text.toList.flatMap String.utf8EncodeChar := by
  rw [bytes, String.toUTF8, ← String.utf8Encode_toList, List.utf8Encode, List.data_toByteArray]

theorem toByteArray_bytes (text : String) : (bytes text).toByteArray = text.toByteArray := by
  rw [bytes_eq_flatMap, ← String.utf8Encode_toList, List.utf8Encode]

theorem bytes_append (front back : String) : bytes (front ++ back) = bytes front ++ bytes back := by
  simp [bytes_eq_flatMap]

/-- Texts with slashes between them spell names with slashes between them. -/
theorem bytes_intercalate (parts : List String) :
    bytes (String.intercalate "/" parts) = FileName.joined (parts.map .ofText) := by
  induction parts with
  | nil => rfl
  | cons part rest ih =>
    cases rest with
    | nil => simp [FileName.joined, FileName.ofText]
    | cons next rest =>
      have hslash : bytes "/" = [slash] := by decide
      rw [String.intercalate_cons_cons, bytes_append, bytes_append, ih, hslash]
      simp [FileName.joined, FileName.ofText, List.intercalate_cons_cons]

end Text

namespace FileName

variable {name : FileName} {text : String} {c : Char} {bytes : List UInt8}

theorem joined_append {front back : List FileName} (hfront : front ≠ []) (hback : back ≠ []) :
    joined (front ++ back) = joined front ++ [Text.slash] ++ joined back := by
  induction front with
  | nil => exact absurd rfl hfront
  | cons first rest ih =>
    cases rest with
    | nil => simp [joined, List.intercalate_cons_of_ne_nil, hback]
    | cons next rest =>
      have hrest := ih (List.cons_ne_nil _ _)
      simp only [joined, List.cons_append, List.map_cons, List.intercalate_cons_cons,
        List.append_assoc] at hrest ⊢
      rw [hrest]

/-! ### Names that texts spell -/

theorem firstChar?_encode (c : Char) (rest : List UInt8) :
    firstChar? (String.utf8EncodeChar c ++ rest) = some c := by
  rw [firstChar?, List.toByteArray_append]
  exact ByteArray.utf8DecodeChar?_utf8EncodeChar_append

theorem exists_append_of_firstChar? (h : firstChar? bytes = some c) :
    ∃ rest, bytes = String.utf8EncodeChar c ++ rest := by
  obtain ⟨rest, hrest⟩ := ByteArray.exists_of_utf8DecodeChar?_eq_some h
  refine ⟨rest.data.toList, ?_⟩
  have hdata := congrArg (·.data.toList) hrest
  simpa using hdata

/-- Bytes that have been dealt with are passed over. -/
theorem lossyChars_append (dealt rest : List UInt8) :
    lossyChars dealt.length (dealt ++ rest) = lossyChars 0 rest := by
  induction dealt with
  | nil => rfl
  | cons b dealt ih => exact ih

theorem lossyChars_encode (c : Char) (rest : List UInt8) :
    lossyChars 0 (String.utf8EncodeChar c ++ rest) = c :: lossyChars 0 rest := by
  have hfirst := firstChar?_encode c rest
  have hlength := String.length_utf8EncodeChar c
  cases hbytes : String.utf8EncodeChar c with
  | nil => exact absurd hbytes String.utf8EncodeChar_ne_nil
  | cons first more =>
    rw [hbytes, List.cons_append] at hfirst
    rw [hbytes, List.length_cons] at hlength
    rw [List.cons_append, lossyChars, hfirst]
    simp only
    rw [← hlength, Nat.add_sub_cancel, lossyChars_append]

/-- A name is shown as the text that spells it. -/
@[simp] theorem lossy_ofText (text : String) : (ofText text).lossy = text := by
  have hchars (cs : List Char) : lossyChars 0 (cs.flatMap String.utf8EncodeChar) = cs := by
    induction cs with
    | nil => rfl
    | cons c cs ih => rw [List.flatMap_cons, lossyChars_encode, ih]
  rw [lossy, ofText, Text.bytes_eq_flatMap, hchars, String.ofList_toList]

theorem map_lossy_map_ofText (texts : List String) :
    (texts.map ofText).map (·.lossy) = texts := by
  simp [Function.comp_def]

theorem ofText_inj {other : String} : ofText text = ofText other ↔ text = other := by
  refine ⟨fun h => ?_, congrArg ofText⟩
  rw [← lossy_ofText text, h, lossy_ofText]

/-- Reading a name as a text is spelling it backwards. -/
theorem text?_eq_some_iff : name.text? = some text ↔ name = ofText text := by
  constructor
  · intro h
    rw [text?, String.fromUTF8?] at h
    split at h
    · obtain ⟨bytes⟩ := name
      rw [← Option.some.inj h, ofText, Text.bytes]
      exact congrArg mk List.toList_data_toByteArray.symm
    · cases h
  · rintro rfl
    rw [text?, ofText, Text.toByteArray_bytes, String.fromUTF8?, dif_pos text.isValidUTF8]
    rfl

/-- A text spells the name. -/
def IsText (name : FileName) : Prop :=
  ∃ text, name = ofText text

theorem isText_iff : name.IsText ↔ name = ofText name.lossy := by
  constructor
  · rintro ⟨text, rfl⟩
    rw [lossy_ofText]
  · intro h
    exact ⟨_, h⟩

instance : DecidablePred IsText := fun _ => decidable_of_iff _ isText_iff.symm

/-! ### How other names are shown -/

/-- A character with a single byte is only shown where the name has this byte. -/
theorem mem_of_mem_lossyChars {dealt : Nat} (hc : c.utf8Size = 1)
    (h : c ∈ lossyChars dealt bytes) : c.toUInt8 ∈ bytes := by
  fun_induction lossyChars dealt bytes with
  | case1 => cases h
  | case2 dealt b rest ih => exact List.mem_cons_of_mem _ (ih h)
  | case3 first rest d hfirst ih =>
    rcases List.mem_cons.1 h with rfl | h
    · obtain ⟨more, hmore⟩ := exists_append_of_firstChar? hfirst
      rw [hmore, String.utf8EncodeChar_eq_singleton hc]
      exact List.mem_cons_self
    · exact List.mem_cons_of_mem _ (ih h)
  | case4 first rest hfirst ih =>
    rcases List.mem_cons.1 h with rfl | h
    · exact absurd hc (by decide)
    · exact List.mem_cons_of_mem _ (ih h)

theorem mem_bytes_of_mem_lossy (hc : c.utf8Size = 1) (h : c ∈ name.lossy.toList) :
    c.toUInt8 ∈ name.bytes := by
  rw [lossy, String.toList_ofList] at h
  exact mem_of_mem_lossyChars hc h

end FileName

end ClassDocs
