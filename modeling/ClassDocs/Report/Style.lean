/-!
# Styled text

Text for a terminal. Where styles are off, text is only padded.

## Main definitions

* `Style`: how a piece of text is shown.
* `padTo`: text filled up with spaces.
* `Style.paint`: a piece of text in a style.
-/

namespace ClassDocs

/-- How a piece of text is shown. -/
inductive Style where
  | bold
  | dimmed
  | yellow
  | boldCyan
  deriving DecidableEq, Repr

/-- Text filled up with spaces to a number of characters. -/
def padTo (width : Nat) (text : String) : String :=
  text ++ String.ofList (List.replicate (width - text.length) ' ')

namespace Style

/-- The code that starts a style. -/
def code : Style → String
  | .bold => "\x1b[1m"
  | .dimmed => "\x1b[2m"
  | .yellow => "\x1b[33m"
  | .boldCyan => "\x1b[1;36m"

/-- The code that ends any style. -/
def reset : String := "\x1b[0m"

/-- Characters with a text put in after each occurrence of the code that ends a style. -/
def restart (start : List Char) : List Char → List Char
  | '\x1b' :: '[' :: '0' :: 'm' :: rest => reset.toList ++ start ++ restart start rest
  | c :: rest => c :: restart start rest
  | [] => []

/-- A piece of text in a style, filled up with spaces to a width. Codes in the text that end a style
go on with this one, and count for the width. -/
def paint (style : Style) (color : Bool) (text : String) (width : Nat := 0) : String :=
  if color then
    let inner := String.ofList (restart style.code.toList text.toList)
    style.code ++ padTo width inner ++ reset
  else padTo width text

end Style

end ClassDocs
