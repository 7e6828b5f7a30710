import ClassDocs.Text.Blank

/-!
# File names

A name in a directory is a row of bytes. Most names are spelled by a text, whose UTF-8 form they
are, but a directory may hold any other bytes. Where a name has to be shown as a text, each stretch
of bytes that begins no character is shown as the replacement character, so that different names may
look alike.

## Main definitions

* `FileName`: the bytes of a name.
* `FileName.ofText`, `FileName.text?`: names that texts spell.
* `FileName.lossy`: how any name is shown.
* `FileName.joined`: names with slashes between them.
-/

namespace ClassDocs

/-- The bytes of a text. -/
def Text.bytes (text : String) : List UInt8 :=
  text.toUTF8.data.toList

/-- The byte of a slash. -/
def Text.slash : UInt8 := '/'.toUInt8

/-- A name in a directory. -/
structure FileName where
  bytes : List UInt8
  deriving DecidableEq, Repr

namespace FileName

/-- The name that a text spells. -/
def ofText (text : String) : FileName where
  bytes := Text.bytes text

instance : Coe String FileName := ⟨ofText⟩

/-- Whether a name in a path leads nowhere else. -/
def isIdle (name : FileName) : Bool :=
  name == "" || name == "."

/-- The text that spells a name. -/
def text? (name : FileName) : Option String :=
  String.fromUTF8? name.bytes.toByteArray

/-- The character that some bytes begin with. -/
def firstChar? (bytes : List UInt8) : Option Char :=
  bytes.toByteArray.utf8DecodeChar? 0

/-- Shown in place of bytes that begin no character. -/
def replacement : Char := Char.ofNat 0xFFFD

/-- Whether a byte goes on with a character. -/
def isContinuation (b : UInt8) : Bool :=
  0x80 ≤ b && b ≤ 0xBF

/-- Whether the first two bytes of a character with three or four bytes can be these. -/
def canStart (first second : UInt8) : Bool :=
  if first == 0xE0 then 0xA0 ≤ second && second ≤ 0xBF
  else if first == 0xED then 0x80 ≤ second && second ≤ 0x9F
  else if first == 0xF0 then 0x90 ≤ second && second ≤ 0xBF
  else if first == 0xF4 then 0x80 ≤ second && second ≤ 0x8F
  else 0xE1 ≤ first && first ≤ 0xF3 && isContinuation second

/-- How many bytes after the first one replacement stands for, where the bytes begin no character:
those with which a character could have gone on. -/
def brokenLength (first : UInt8) : (rest : List UInt8) → Nat
  | [] => 0
  | second :: rest =>
    if canStart first second then
      if 0xF0 ≤ first && rest.head?.any isContinuation then 2 else 1
    else 0

/-- The characters that bytes are shown as, after a number of bytes that have been dealt with. -/
def lossyChars : (dealt : Nat) → List UInt8 → List Char
  | _, [] => []
  | dealt + 1, _ :: rest => lossyChars dealt rest
  | 0, first :: rest =>
    match firstChar? (first :: rest) with
    | some c => c :: lossyChars (c.utf8Size - 1) rest
    | none => replacement :: lossyChars (brokenLength first rest) rest

/-- How a name is shown. -/
def lossy (name : FileName) : String :=
  String.ofList (lossyChars 0 name.bytes)

/-- Names with slashes between them. -/
def joined (names : List FileName) : List UInt8 :=
  [Text.slash].intercalate (names.map (·.bytes))

end FileName

end ClassDocs
