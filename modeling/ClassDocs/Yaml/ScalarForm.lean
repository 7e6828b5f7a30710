import ClassDocs.Yaml.Cursor
import ClassDocs.Yaml.Value

/-!
# The written form of a scalar

Which of the forms of a scalar a text is written in: plain where it reads back as that text, else
between single quotes, else between double quotes; a text of several lines as a literal block.

## Main definitions

* `ScalarForm`: a form.
* `TextTraits`: what decides which forms a text can have.
* `ScalarForm.ofText`: the form of a text.
-/

namespace ClassDocs.Yaml

/-- The form that a scalar is written in. -/
inductive ScalarForm where
  | plain
  | singleQuoted
  | doubleQuoted
  | literal
  deriving DecidableEq, Repr

/-- Whether a character can be written as it is. -/
def isPrintable (c : Char) : Bool :=
  let n := c.toNat
  n == 0x0a || (0x20 ≤ n && n ≤ 0x7e) || (0xa0 ≤ n && n != 0xfeff && n != 0xfffe && n != 0xffff)

/-- Whether a character is a blank, a line end or the null character. -/
def isGap (c : Char) : Bool :=
  isSpaceOrTab c || isBreak c || c.toNat == 0

/-- Whether a text starts or ends with a character of a class. -/
def startsOrEndsWith (p : Char → Bool) (cs : List Char) : Bool :=
  cs.head?.any p || cs.getLast?.any p

/-- Whether a character of one class is followed directly by one of another. -/
def hasPair (p q : Char → Bool) (cs : List Char) : Bool :=
  (cs.zip cs.tail).any fun (a, b) => p a && q b

/-- Whether the first character of a text would start something else than a plain scalar. -/
def startsWithMark : List Char → Bool
  | [] => false
  | c :: rest =>
    "#,[]\x7b\x7d&*!|>'\"%@`".toList.contains c ||
      ((c == '?' || c == ':' || c == '-') && (rest.isEmpty || rest.head?.any isGap))

/-- Whether a text holds what ends a plain scalar: a colon before a gap, or a hash after one. -/
def holdsMark (cs : List Char) : Bool :=
  (cs.tail.getLast? == some ':') || hasPair (· == ':') isGap cs.tail || hasPair isGap (· == '#') cs

/-- Whether a text starts with the mark of a document. -/
def startsWithDocumentMark (cs : List Char) : Bool :=
  cs.take 3 == ['-', '-', '-'] || cs.take 3 == ['.', '.', '.']

/-- What decides which forms a text can have. -/
structure TextTraits where
  multiline : Bool
  plainAllowed : Bool
  singleQuotedAllowed : Bool
  literalAllowed : Bool

/-- The traits of a text. -/
def TextTraits.of (cs : List Char) : TextTraits :=
  let isSpace := fun (c : Char) => c == ' '
  let multiline := cs.any isBreak
  let unprintable := cs.any fun c => !isPrintable c
  let spaceBeforeBreak := hasPair isSpace isBreak cs
  let spaceAfterBreak := hasPair isBreak isSpace cs
  let edges := startsOrEndsWith (fun c => isSpace c || isBreak c) cs
  let marks := startsWithDocumentMark cs || startsWithMark cs || holdsMark cs
  { multiline
    plainAllowed := !multiline && !unprintable && !edges && !marks
    singleQuotedAllowed := !spaceAfterBreak && !spaceBeforeBreak && !unprintable
    literalAllowed := !cs.isEmpty && !cs.getLast?.any isSpace && !spaceBeforeBreak && !unprintable }

/-- The form that a text should have, before it is seen whether it can. Digits that are no number
are quoted as numbers are. -/
def ScalarForm.wanted (text : String) : ScalarForm :=
  if text.toList.contains '\n' then .literal
  else
    match Value.ofPlainText? text with
    | some (.string _) => if isPaddedDigits text.toList then .singleQuoted else .plain
    | _ => .singleQuoted

/-- The form of a text where another form is wanted; a key on one line with its value cannot go
over several lines. -/
def ScalarForm.allowed (wanted : ScalarForm) (asKey : Bool) (cs : List Char) : ScalarForm :=
  let traits := TextTraits.of cs
  let quoted : ScalarForm := if traits.singleQuotedAllowed then .singleQuoted else .doubleQuoted
  if asKey && traits.multiline then .doubleQuoted
  else
    match wanted with
    | .plain => if traits.plainAllowed then .plain else quoted
    | .singleQuoted => quoted
    | .literal => if traits.literalAllowed && !asKey then .literal else .doubleQuoted
    | .doubleQuoted => .doubleQuoted

/-- The form of a text. -/
def ScalarForm.ofText (asKey : Bool) (text : String) : ScalarForm :=
  (wanted text).allowed asKey text.toList

end ClassDocs.Yaml
