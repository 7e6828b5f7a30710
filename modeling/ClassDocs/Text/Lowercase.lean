import ClassDocs.Text.LetterCase

/-!
# Lower case

The full lower case mapping: every upper case letter goes to its lower case letter, the dotted
capital I to two characters, and a capital sigma to its final form at the end of a word.

## Main definitions

* `lowerChar`: the lower case of one character, without regard to its neighbours.
* `lowercase`: the lower case of a text.
-/

namespace ClassDocs.Text

/-- The shift that takes a code point to its lower case, when one of the runs holds it. -/
def lowerShift (code : Nat) : Option Int :=
  (lowerShifts.find? fun (first, last, step, _) =>
    first ≤ code && code ≤ last && (code - first) % step == 0).map fun (_, _, _, shift) => shift

/-- The lower case of one character, without regard to its neighbours. -/
def lowerChar (c : Char) : List Char :=
  if c.toNat < 0x80 then [c.toLower]
  else if c.toNat = 0x0130 then ['i', Char.ofNat 0x0307]
  else match lowerShift c.toNat with
    | some shift => [Char.ofNat (c.toNat + shift).toNat]
    | none => [c]

/-- Whether the first character that case rules do not look through is a cased letter. -/
def reachesCased (cs : List Char) : Bool :=
  match cs.dropWhile isCaseIgnorable with
  | c :: _ => isCased c
  | [] => false

/-- Lower case of the characters still to come; `before` holds those already passed, last first.
A capital sigma takes its final form when a cased letter comes before it and none after it. -/
def lowerFrom (before : List Char) : List Char → List Char
  | [] => []
  | c :: rest =>
    let lower :=
      if c = 'Σ' then [if reachesCased before && !reachesCased rest then 'ς' else 'σ']
      else lowerChar c
    lower ++ lowerFrom (c :: before) rest

/-- The lower case of a text. -/
def lowercase (text : String) : String :=
  String.ofList (lowerFrom [] text.toList)

end ClassDocs.Text
