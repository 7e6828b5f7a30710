import ClassDocs.Yaml.FlowScalar
import ClassDocs.Yaml.Token

/-!
# Anchors, aliases, tags and directives

## Main definitions

* `readAnchorName?`: the name of an anchor or an alias.
* `readTag?`: a tag token.
* `readDirective?`: a directive token.
-/

namespace ClassDocs.Yaml

/-- The name of an anchor or an alias, from its indicator on. -/
def readAnchorName? (cur : Cursor) : Option (String × Cursor) :=
  let (name, cur) := cur.advance.readWhile isWordChar
  let ended := cur.atBlankOrEnd ||
    cur.peek?.any fun c => ['?', ':', ',', ']', '\x7d', '%', '@', '\x60'].contains c
  if name.isEmpty || !ended then none else some (String.ofList name, cur)

/-- Whether a character can stand in a tag. Some flow indicators are left to tags in angle
brackets and to directives. -/
def isTagChar (verbatim : Bool) (c : Char) : Bool :=
  isWordChar c ||
    [';', '/', '?', ':', '@', '&', '=', '+', '$', '.', '%', '!', '~', '*', '\'', '(',
      ')'].contains c ||
    (verbatim && [',', '[', ']'].contains c)

/-- The octet that a percent escape spells. -/
def readOctet? (cur : Cursor) : Option (Nat × Cursor) := do
  match cur.rest with
  | '%' :: a :: b :: _ => some (16 * (← hexDigit? a) + (← hexDigit? b), cur.advanceBy 3)
  | _ => none

/-- The further octets of a character, put after the bits of its first. -/
def readContinuation? (cur : Cursor) (bits : Nat) : Nat → Option (Nat × Cursor)
  | 0 => some (bits, cur)
  | n + 1 => do
    let (octet, cur) ← readOctet? cur
    if octet / 0x40 == 2 then readContinuation? cur (0x40 * bits + octet % 0x40) n else none

/-- The character that percent escapes spell. -/
def readPercent? (cur : Cursor) : Option (Char × Cursor) := do
  let (first, cur) ← readOctet? cur
  let (code, cur) ←
    if first < 0x80 then some (first, cur)
    else if first / 0x20 == 6 then readContinuation? cur (first % 0x20) 1
    else if first / 0x10 == 14 then readContinuation? cur (first % 0x10) 2
    else if first / 8 == 30 then readContinuation? cur (first % 8) 3
    else none
  if Nat.isValidChar code then some (Char.ofNat code, cur) else none

/-- The characters of a tag from here on. -/
def readTagChars? (verbatim : Bool) : (fuel : Nat) → Cursor → String → Option (String × Cursor)
  | 0, _, _ => none
  | fuel + 1, cur, text =>
    match cur.peek? with
    | some '%' =>
      match readPercent? cur with
      | some (c, next) => readTagChars? verbatim fuel next (text.push c)
      | none => none
    | some c =>
      if isTagChar verbatim c then readTagChars? verbatim fuel cur.advance (text.push c)
      else some (text, cur)
    | none => some (text, cur)

/-- The characters of a tag from here on, of which there must be one. -/
def readTagText? (verbatim : Bool) (cur : Cursor) : Option (String × Cursor) := do
  let (text, next) ← readTagChars? verbatim (cur.rest.length + 1) cur ""
  if text.isEmpty then none else some (text, next)

/-- A tag handle: an exclamation mark, then perhaps a word and a second mark. -/
def readTagHandle? (cur : Cursor) : Option (String × Cursor) :=
  if cur.sees '!' then
    let (word, cur) := cur.advance.readWhile isWordChar
    if cur.sees '!' then some (String.ofList ('!' :: word ++ ['!']), cur.advance)
    else some (String.ofList ('!' :: word), cur)
  else none

/-- The handle and the suffix of a tag, and the position after it. -/
def readTagParts? (cur : Cursor) : Option (String × String × Cursor) := do
  if cur.seesAt 1 '<' then
    let (suffix, cur) ← readTagText? true (cur.advanceBy 2)
    if cur.sees '>' then some ("", suffix, cur.advance) else none
  else
    let (handle, cur) ← readTagHandle? cur
    if handle.length > 1 && handle.toList.getLast? == some '!' then
      let (suffix, cur) ← readTagText? false cur
      some (handle, suffix, cur)
    else
      let word := String.ofList handle.toList.tail
      let (suffix, cur) ← readTagChars? false (cur.rest.length + 1) cur word
      if suffix.isEmpty then some ("", "!", cur) else some ("!", suffix, cur)

/-- A tag token, from its exclamation mark on. -/
def readTag? (inFlow : Bool) (cur : Cursor) : Option (Token × Cursor) := do
  let (handle, suffix, cur) ← readTagParts? cur
  if cur.atBlankOrEnd || (inFlow && cur.sees ',') then some (.tag handle suffix, cur) else none

/-- A number of at most nine digits. -/
def readVersionNumber? (cur : Cursor) : Option (Nat × Cursor) :=
  let (digits, cur) := cur.readWhile fun c => '0' ≤ c && c ≤ '9'
  if digits.isEmpty || 9 < digits.length then none
  else some (digits.foldl (fun n c => 10 * n + (c.toNat - '0'.toNat)) 0, cur)

/-- The version of a version directive. -/
def readVersion? (cur : Cursor) : Option (Token × Cursor) := do
  let (major, cur) ← readVersionNumber? cur.skipBlanks
  if cur.sees '.' then
    let (minor, cur) ← readVersionNumber? cur.advance
    some (.versionDirective major minor, cur)
  else none

/-- The handle of a tag directive and what it stands for. -/
def readTagDirective? (cur : Cursor) : Option (Token × Cursor) := do
  let (handle, cur) ← readTagHandle? cur.skipBlanks
  if (handle != "!" && (handle.length < 2 || handle.toList.getLast? != some '!')) ||
      !cur.atBlank then
    none
  else
    let (replacement, cur) ← readTagText? true cur.skipBlanks
    if cur.atBlankOrEnd then some (.tagDirective handle replacement, cur) else none

/-- A directive token with its line, from its percent sign on. -/
def readDirective? (cur : Cursor) : Option (Token × Cursor) := do
  let (name, cur) := cur.advance.readWhile isWordChar
  if name.isEmpty || !cur.atBlankOrEnd then none
  else
    let (token, cur) ←
      if name == "YAML".toList then readVersion? cur
      else if name == "TAG".toList then readTagDirective? cur
      else none
    some (token, ← cur.skipLineRest?)

end ClassDocs.Yaml
