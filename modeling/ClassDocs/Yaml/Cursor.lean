/-!
# Reading positions

A position in a YAML text: what is left of it, and where that is by character, line and column.

## Main definitions

* `isBreak`, `isSpaceOrTab`: character classes of the format.
* `Cursor`: a position.
* `Cursor.advance`, `Cursor.readBreak`: moving on.
-/

namespace ClassDocs.Yaml

/-- Whether a character ends a line. -/
def isBreak (c : Char) : Bool :=
  c == '\n' || c == '\r' || c.toNat == 0x85 || c.toNat == 0x2028 || c.toNat == 0x2029

/-- Whether a character is a space or a tab. -/
def isSpaceOrTab (c : Char) : Bool :=
  c == ' ' || c == '\t'

/-- Whether a text may hold a character. -/
def isAllowed (c : Char) : Bool :=
  let n := c.toNat
  n == 0x09 || n == 0x0a || n == 0x0d || (0x20 ≤ n && n ≤ 0x7e) || n == 0x85 ||
    (0xa0 ≤ n && n ≤ 0xd7ff) || (0xe000 ≤ n && n ≤ 0xfffd) || 0x10000 ≤ n

/-- Whether a character can stand in the name of an anchor, a directive or a tag handle. -/
def isWordChar (c : Char) : Bool :=
  ('a' ≤ c && c ≤ 'z') || ('A' ≤ c && c ≤ 'Z') || ('0' ≤ c && c ≤ '9') || c == '_' || c == '-'

/-- A position in a text. -/
structure Cursor where
  /-- The characters from here on. -/
  rest : List Char
  /-- The number of characters before. -/
  index : Nat := 0
  /-- The number of lines before. -/
  line : Nat := 0
  /-- The number of characters of this line before. -/
  column : Nat := 0
  deriving Inhabited

namespace Cursor

/-- The character here. -/
def peek? (cur : Cursor) : Option Char :=
  cur.rest.head?

/-- The character a number of places ahead. -/
def peekAt? (cur : Cursor) (ahead : Nat) : Option Char :=
  cur.rest[ahead]?

/-- Whether a given character stands here. -/
def sees (cur : Cursor) (c : Char) : Bool :=
  cur.peek? == some c

/-- Whether a given character stands a number of places ahead. -/
def seesAt (cur : Cursor) (ahead : Nat) (c : Char) : Bool :=
  cur.peekAt? ahead == some c

/-- Whether the text ends here. -/
def atEnd (cur : Cursor) : Bool :=
  cur.rest.isEmpty

/-- Whether a space or a tab stands here. -/
def atBlank (cur : Cursor) : Bool :=
  cur.peek?.any isSpaceOrTab

/-- Whether a line ends here, with more text after it. -/
def atBreak (cur : Cursor) : Bool :=
  cur.peek?.any isBreak

/-- Whether a line or the text ends here. -/
def atBreakOrEnd (cur : Cursor) : Bool :=
  cur.atEnd || cur.atBreak

/-- Whether a blank, the end of a line or the end of the text is a number of places ahead. -/
def blankOrEndAt (cur : Cursor) (ahead : Nat) : Bool :=
  match cur.peekAt? ahead with
  | some c => isSpaceOrTab c || isBreak c
  | none => true

/-- Whether a blank, the end of a line or the end of the text is here. -/
def atBlankOrEnd (cur : Cursor) : Bool :=
  cur.blankOrEndAt 0

/-- Whether a line that separates documents starts here with the given mark. -/
def atDocumentMark (cur : Cursor) (mark : Char) : Bool :=
  cur.column == 0 && cur.sees mark && cur.seesAt 1 mark && cur.seesAt 2 mark && cur.blankOrEndAt 3

/-- Whether any line that separates documents starts here. -/
def atAnyDocumentMark (cur : Cursor) : Bool :=
  cur.atDocumentMark '-' || cur.atDocumentMark '.'

/-- The position after one character of a line. -/
def advance (cur : Cursor) : Cursor :=
  { cur with rest := cur.rest.tail, index := cur.index + 1, column := cur.column + 1 }

/-- The position after a number of characters of a line. -/
def advanceBy (cur : Cursor) : Nat → Cursor
  | 0 => cur
  | n + 1 => cur.advance.advanceBy n

/-- The start of the next line, and the characters that the line end stands for: a line feed, or
one of the two Unicode separators as it is. Without a line end here nothing changes. -/
def readBreak (cur : Cursor) : Cursor × String :=
  match cur.rest with
  | '\r' :: '\n' :: rest =>
    ({ rest, index := cur.index + 2, line := cur.line + 1, column := 0 }, "\n")
  | c :: rest =>
    if isBreak c then
      ({ rest, index := cur.index + 1, line := cur.line + 1, column := 0 },
        if c.toNat == 0x2028 || c.toNat == 0x2029 then c.toString else "\n")
    else (cur, "")
  | [] => (cur, "")

/-- The start of the next line. -/
def skipBreak (cur : Cursor) : Cursor :=
  cur.readBreak.1

/-- The characters from here that satisfy the predicate, and the position after them. They must lie
on one line. -/
def readWhile (cur : Cursor) (p : Char → Bool) : List Char × Cursor :=
  let taken := cur.rest.takeWhile p
  (taken, { cur with
    rest := cur.rest.dropWhile p
    index := cur.index + taken.length
    column := cur.column + taken.length })

/-- The position after the spaces and tabs here. -/
def skipBlanks (cur : Cursor) : Cursor :=
  (cur.readWhile isSpaceOrTab).2

/-- The position at the end of the line. -/
def skipToBreak (cur : Cursor) : Cursor :=
  (cur.readWhile fun c => !isBreak c).2

/-- The position after a comment, when one starts here. -/
def skipComment (cur : Cursor) : Cursor :=
  if cur.sees '#' then cur.skipToBreak else cur

/-- The position after the rest of a line that may hold only blanks and a comment. -/
def skipLineRest? (cur : Cursor) : Option Cursor :=
  let cur := cur.skipBlanks.skipComment
  if cur.atBreakOrEnd then some cur.skipBreak else none

end Cursor

end ClassDocs.Yaml
