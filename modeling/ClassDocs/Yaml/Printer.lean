import ClassDocs.Text.Blank
import ClassDocs.Yaml.Page
import ClassDocs.Yaml.ScalarForm

/-!
# Printed values

The text of a value: a scalar as it reads, a collection in block form.

## Main definitions

* `Value.print`: a value in block form.
* `Value.text`: the text of a value.
-/

namespace ClassDocs.Yaml

/-- The two digits of a byte. -/
def hexByte (n : Nat) : List Char :=
  [Nat.digitChar (n / 16), Nat.digitChar (n % 16)].map Char.toUpper

/-- The digits of a number, padded with zeros to a width. -/
def hexPadded (width n : Nat) : List Char :=
  let digits := (Nat.toDigits 16 n).map Char.toUpper
  List.replicate (width - digits.length) '0' ++ digits

/-- The form of a character between double quotes. -/
def escapeChar (c : Char) : List Char :=
  if isPrintable c && !isBreak c && c != '"' && c != '\\' then [c]
  else
    '\\' :: match c.toNat with
      | 0x00 => ['0']
      | 0x07 => ['a']
      | 0x08 => ['b']
      | 0x09 => ['t']
      | 0x0a => ['n']
      | 0x0b => ['v']
      | 0x0c => ['f']
      | 0x0d => ['r']
      | 0x1b => ['e']
      | 0x22 => ['"']
      | 0x5c => ['\\']
      | 0x85 => ['N']
      | 0x2028 => ['L']
      | 0x2029 => ['P']
      | n =>
        if n ≤ 0xff then 'x' :: hexPadded 2 n
        else if n ≤ 0xffff then 'u' :: hexPadded 4 n
        else 'U' :: hexPadded 8 n

/-- Whether a character can stand in a tag as it is. -/
def isWrittenTagChar (c : Char) : Bool :=
  isWordChar c || ";/?:@&=+$,.~*'()[]".toList.contains c

/-- The form of the name of a tag. -/
def escapeTag (name : String) : List Char :=
  name.toList.flatMap fun c =>
    if isWrittenTagChar c then [c]
    else c.toString.toUTF8.toList.flatMap fun b => '%' :: hexByte b.toNat

namespace Page

/-- Writes a tag. -/
def putTag (page : Page) : Option String → Page
  | none => page
  | some "!" => (page.mark "!<" false).closeMark "!>"
  | some name => (page.separate.putAll ('!' :: escapeTag name)).afterText

/-- Writes the characters of a text between single quotes: a quote is written twice, and a line
feed after text as well. -/
def putSingleQuoted (indent : Nat) : (page : Page) → (afterBreak : Bool) → List Char → Page
  | page, afterBreak, [] => if afterBreak then page.indentTo indent else page
  | page, afterBreak, c :: rest =>
    if isBreak c then
      let page := if !afterBreak && c == '\n' then page.endLine else page
      putSingleQuoted indent { page.endLineWith c with indented := true } true rest
    else
      let page := if afterBreak then page.indentTo indent else page
      let page := if c == '\'' then page.put c else page
      putSingleQuoted indent { page.put c with indented := false } false rest

/-- Writes the lines of a literal block. -/
def putLiteral (indent : Nat) : (page : Page) → (afterBreak : Bool) → List Char → Page
  | page, _, [] => page
  | page, afterBreak, c :: rest =>
    if isBreak c then putLiteral indent { page.endLineWith c with indented := true } true rest
    else
      let page := if afterBreak then page.indentTo indent else page
      putLiteral indent { page.put c with indented := false } false rest

/-- The marks after the bar of a literal block: its indentation where the text starts with a blank,
and what becomes of the line ends after the last line. -/
def literalMarks (cs : List Char) : String :=
  let indentation := if cs.head?.any fun c => c == ' ' || isBreak c then "2" else ""
  let ending := match cs.reverse with
    | [] => "-"
    | last :: before =>
      if !isBreak last then "-"
      else match before with
        | [] => "+"
        | c :: _ => if isBreak c then "+" else ""
  indentation ++ ending

/-- Writes a text in a form. -/
def putScalar (page : Page) (indent : Nat) (form : ScalarForm) (text : String) : Page :=
  let cs := text.toList
  match form with
  | .plain => (page.separate.putAll cs).afterText
  | .singleQuoted => (putSingleQuoted indent (page.mark "'" false) false cs).closeMark "'"
  | .doubleQuoted => ((page.mark "\"" false).putAll (cs.flatMap escapeChar)).closeMark "\""
  | .literal =>
    let page := ((page.mark "|" false).closeMark (literalMarks cs)).endLine
    putLiteral indent { page with spaced := true, indented := true } true cs

end Page

namespace Value

/-- The length of what is written for a key, if it can stand on one line with its value. -/
def keyLength? : Value → Option Nat
  | .null => some 4
  | .bool b => some (if b then 4 else 5)
  | .int n => some (toString n).utf8ByteSize
  | .float x => some x.print.utf8ByteSize
  | .string text => if text.toList.any isBreak then none else some text.utf8ByteSize
  | .sequence items => if items.isEmpty then some 0 else none
  | .mapping pairs => if pairs.isEmpty then some 0 else none
  | .tagged tag value =>
    (keyLength? value).map (· + if tag == "!" then 1 else tag.utf8ByteSize + 1)

/-- Whether a key is written on one line with its value. -/
def isShortKey (key : Value) : Bool :=
  match key.keyLength? with
  | some n => n ≤ 128
  | none => false

/-- Where a value is written. -/
structure Place where
  /-- The indentation around, if there is any. -/
  indent : Option Nat := none
  /-- Whether the value is a key or a value of a mapping. -/
  inMapping : Bool := false
  /-- Whether the value is a key on one line with its value. -/
  asKey : Bool := false

/-- The indentation of the lines of a scalar. -/
def Place.scalarIndent (place : Place) : Nat :=
  match place.indent with
  | some n => n + 2
  | none => 2

/-- The indentation of the entries of a mapping. -/
def Place.mappingIndent (place : Place) : Nat :=
  match place.indent with
  | some n => n + 2
  | none => 0

/-- The indentation of the items of a sequence, which is that of its key where it starts on a line
of its own. -/
def Place.sequenceIndent (place : Place) (page : Page) : Nat :=
  match place.indent with
  | some n => if place.inMapping && !page.indented then n else n + 2
  | none => 0

mutual

/-- Writes a value with its tag. -/
def putValue (page : Page) (place : Place) (tag : Option String) : Value → Page
  | .null => (page.putTag tag).putScalar place.scalarIndent .plain "null"
  | .bool b => (page.putTag tag).putScalar place.scalarIndent .plain (if b then "true" else "false")
  | .int n => (page.putTag tag).putScalar place.scalarIndent .plain (toString n)
  | .float x => (page.putTag tag).putScalar place.scalarIndent .plain x.print
  | .string text =>
    (page.putTag tag).putScalar place.scalarIndent (.ofText place.asKey text) text
  | .sequence items =>
    let page := page.putTag tag
    if items.isEmpty then (page.mark "[" false).closeMark "]"
    else putItems page (place.sequenceIndent page) items
  | .mapping pairs =>
    let page := page.putTag tag
    if pairs.isEmpty then (page.mark "\x7b" false).closeMark "\x7d"
    else putPairs page place.mappingIndent pairs
  | .tagged tag value => putValue page place (some tag) value

/-- Writes the items of a sequence. -/
def putItems (page : Page) (indent : Nat) : List Value → Page
  | [] => page
  | item :: rest =>
    let page := (page.indentTo indent).mark "-" true
    putItems (putValue page { indent := some indent } none item) indent rest

/-- Writes the entries of a mapping. -/
def putPairs (page : Page) (indent : Nat) : List (Value × Value) → Page
  | [] => page
  | (key, value) :: rest =>
    let place : Place := { indent := some indent, inMapping := true }
    let page := page.indentTo indent
    let page :=
      if key.isShortKey then (putValue page { place with asKey := true } none key).closeMark ":"
      else ((putValue (page.mark "?" true) place none key).indentTo indent).mark ":" true
    putPairs (putValue page place none value) indent rest

end

mutual

/-- Whether a value can be printed. A mapping of one entry cannot where its key is tagged or such a
mapping itself, unless the mapping has a tag. -/
def isPrintable (tagged : Bool) : Value → Bool
  | .sequence items => itemsArePrintable items
  | .mapping [(key, value)] =>
    (tagged || !key.isTaggedOrSingle) && key.isPrintable false && value.isPrintable false
  | .mapping pairs => pairsArePrintable pairs
  | .tagged _ value => isPrintable true value
  | _ => true

/-- Whether all items can be printed. -/
def itemsArePrintable : List Value → Bool
  | [] => true
  | item :: rest => item.isPrintable false && itemsArePrintable rest

/-- Whether all entries can be printed. -/
def pairsArePrintable : List (Value × Value) → Bool
  | [] => true
  | (key, value) :: rest =>
    key.isPrintable false && value.isPrintable false && pairsArePrintable rest

/-- Whether a value is tagged or a mapping of one entry. -/
def isTaggedOrSingle : Value → Bool
  | .tagged _ _ => true
  | .mapping [_] => true
  | _ => false

end

/-- A value in block form, empty if it cannot be printed. -/
def print (value : Value) : String :=
  if value.isPrintable false then (putValue {} {} none value).text else ""

/-- The text of a value: that of a scalar, or a collection or a tagged value in block form without
blanks at its end. -/
def text : Value → String
  | .null => "null"
  | .bool b => if b then "true" else "false"
  | .int n => toString n
  | .float x => x.print
  | .string text => text
  | value => Text.trimEnd value.print

end Value

end ClassDocs.Yaml
