/-!
# Blank characters and trimming

A character is blank when it has the White_Space property. Larger classes of characters are given as
tables of code point ranges. Trimming, splitting and joining are defined on lists of characters and
lifted to text.

## Main definitions

* `CodeRange.covers`: whether one of the ranges of a table holds a character.
* `isBlank`: membership in White_Space.
* `trim`, `trimEnd`: a text without the blanks at both ends, or at its end.
* `splitOn`: the parts of a text between the occurrences of one character.
* `lines`: the parts of a text between line feeds.
* `holds`: whether one text occurs in another.
-/

namespace ClassDocs.Text

/-- An inclusive range of code points, first and last. -/
abbrev CodeRange := Nat × Nat

/-- Whether some range of the table holds the character. -/
def CodeRange.covers (table : List CodeRange) (c : Char) : Bool :=
  table.any fun range => range.1 ≤ c.toNat && c.toNat ≤ range.2

/-- Whether a character has the White_Space property. -/
def isBlank (c : Char) : Bool :=
  let n := c.toNat
  (9 ≤ n && n ≤ 13) || n == 0x20 || n == 0x85 || n == 0xa0 || n == 0x1680 ||
    (0x2000 ≤ n && n ≤ 0x200a) || n == 0x2028 || n == 0x2029 || n == 0x202f || n == 0x205f ||
    n == 0x3000

/-- The characters after the leading ones that satisfy the predicate. -/
def dropFront (p : Char → Bool) (cs : List Char) : List Char :=
  cs.dropWhile p

/-- The characters before the trailing ones that satisfy the predicate. -/
def dropBack (p : Char → Bool) (cs : List Char) : List Char :=
  (cs.reverse.dropWhile p).reverse

/-- Characters without the blanks at both ends. -/
def trimChars (cs : List Char) : List Char :=
  dropBack isBlank (dropFront isBlank cs)

/-- A text without the blanks at both ends. -/
def trim (text : String) : String :=
  String.ofList (trimChars text.toList)

/-- A text without the blanks at its end. -/
def trimEnd (text : String) : String :=
  String.ofList (dropBack isBlank text.toList)

/-- A text without the leading and trailing characters that satisfy the predicate. -/
def trimMatches (p : Char → Bool) (text : String) : String :=
  String.ofList (dropBack p (dropFront p text.toList))

/-- Whether a text holds nothing but blanks. -/
def isBlankText (text : String) : Bool :=
  text.toList.all isBlank

/-- The parts between the occurrences of a separator; one more than there are separators. -/
def splitChars (separator : Char) : List Char → List (List Char)
  | [] => [[]]
  | c :: rest =>
    if c = separator then [] :: splitChars separator rest
    else match splitChars separator rest with
      | [] => [[c]]
      | part :: parts => (c :: part) :: parts

/-- The parts of a text between the occurrences of a separator. -/
def splitOn (separator : Char) (text : String) : List String :=
  (splitChars separator text.toList).map String.ofList

/-- The parts of a text between line feeds. -/
def lines (text : String) : List String :=
  splitOn '\n' text

/-- Whether some characters occur in others one after the other. -/
def occursIn (part : List Char) : List Char → Bool
  | [] => part.isEmpty
  | c :: rest => part.isPrefixOf (c :: rest) || occursIn part rest

/-- Whether a text holds another. -/
def holds (text part : String) : Bool :=
  occursIn part.toList text.toList

/-- A text with every occurrence of one character replaced by another. -/
def replaceChar (old new : Char) (text : String) : String :=
  String.ofList (text.toList.map fun c => if c = old then new else c)

end ClassDocs.Text
