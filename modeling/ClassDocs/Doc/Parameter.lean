import ClassDocs.Text.Blank

/-!
# Documented values

A parameter, return value or exception as documentation describes it: a type, a name and a
description, each of which may be missing. The three readers cut a text at blanks; printing puts a
single space between the parts.

## Main definitions

* `Parameter`: a documented value.
* `splitToken`: the first word of a text and what follows the blank after it.
* `Parameter.ofParamText`, `Parameter.ofReturnText?`, `Parameter.ofThrowsText`: reading.
* `Parameter.print`: printing on one line.
-/

namespace ClassDocs

/-- A documented value. An unset part differs from an empty one. -/
structure Parameter where
  /-- The type of the value. -/
  type : Option String := none
  /-- The name, with its sigil. -/
  name : Option String := none
  /-- What is said about the value. -/
  description : Option String := none
  deriving DecidableEq, Repr, Inhabited

/-- The characters before the first blank and, when there is one, those after it. -/
def splitTokenChars : List Char → List Char × Option (List Char)
  | [] => ([], none)
  | c :: rest =>
    if Text.isBlank c then ([], some rest)
    else ((c :: (splitTokenChars rest).1), (splitTokenChars rest).2)

/-- The first word of a text and, when a blank ends it, what follows that blank. -/
def splitToken (text : String) : String × Option String :=
  let (token, rest) := splitTokenChars text.toList
  (String.ofList token, rest.map String.ofList)

/-- A text, unless it is empty. -/
def nonEmpty (text : String) : Option String :=
  if text = "" then none else some text

namespace Parameter

/-- The character that starts a parameter's name. -/
def sigil : Char := '$'

/-- Whether a word names a parameter. -/
def isName (word : String) : Bool :=
  word.toList.head? == some sigil

/-- Reads a type, then a name when the next word starts with the sigil, then a description. A next
word without the sigil is the first word of the description. -/
def ofParamText (text : String) : Parameter :=
  let (type, rest) := splitToken text
  match rest with
  | none => { type := some type }
  | some rest =>
    let (word, rest) := splitToken rest
    let description := rest.bind nonEmpty
    if word = "" then { type := some type, description }
    else if isName word then { type := some type, name := some word, description }
    else
      let description := match description with
        | some more => word ++ " " ++ more
        | none => word
      { type := some type, description := some description }

/-- Reads a type and a trimmed description. A bare `null` describes nothing. -/
def ofReturnText? (text : String) : Option Parameter :=
  let (type, rest) := splitToken text
  let description := rest.bind fun rest => nonEmpty (Text.trim rest)
  if type = "null" ∧ description = none then none
  else some { type := some type, description }

/-- Reads a type and a description. -/
def ofThrowsText (text : String) : Parameter :=
  let (type, rest) := splitToken text
  { type := some type, description := rest.bind nonEmpty }

/-- The parts that are set, with single spaces between them. -/
def print (p : Parameter) : String :=
  String.intercalate " " ([p.type, p.name, p.description].filterMap id)

end Parameter

end ClassDocs
