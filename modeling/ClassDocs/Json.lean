/-!
# JSON values

The values of the JSON reports and their printed form. Members of an object keep the order in
which they are given.

## Main definitions

* `Json`: a value.
* `Json.pretty`: the printed form, one member or item a line, indented by two spaces a level.
-/

namespace ClassDocs

/-- A JSON value. -/
inductive Json where
  | null
  | bool (value : Bool)
  | num (value : Nat)
  | str (text : String)
  | arr (items : List Json)
  | obj (members : List (String × Json))

namespace Json

/-- A text, or null when there is none. -/
def ofOption : Option String → Json
  | some text => .str text
  | none => .null

/-- A member that is left out when it has no value. -/
def member? (key : String) (value : Option Json) : List (String × Json) :=
  match value with
  | some value => [(key, value)]
  | none => []

/-- A list member that is left out when it is empty. -/
def items? (key : String) (items : List Json) : List (String × Json) :=
  if items.isEmpty then [] else [(key, .arr items)]

/-- The written form of a character between quotes. -/
def escapeChar (c : Char) : String :=
  match c with
  | '"' => "\\\""
  | '\\' => "\\\\"
  | '\n' => "\\n"
  | '\r' => "\\r"
  | '\t' => "\\t"
  | '\x08' => "\\b"
  | '\x0c' => "\\f"
  | _ =>
    if c.toNat < 0x20 then
      (if c.toNat < 0x10 then "\\u000" else "\\u00") ++ String.ofList (Nat.toDigits 16 c.toNat)
    else c.toString

/-- A text between quotes. -/
def quote (text : String) : String :=
  "\"" ++ String.join (text.toList.map escapeChar) ++ "\""

/-- The line end and indentation before an item at a depth. -/
def newline (depth : Nat) : String :=
  "\n" ++ String.ofList (List.replicate (2 * depth) ' ')

mutual

/-- The printed form of a value whose own line is indented by the depth. -/
def render (depth : Nat) : Json → String
  | .null => "null"
  | .bool value => if value then "true" else "false"
  | .num value => toString value
  | .str text => quote text
  | .arr [] => "[]"
  | .arr items => "[" ++ renderItems depth items ++ newline depth ++ "]"
  | .obj [] => "\x7b\x7d"
  | .obj members => "\x7b" ++ renderMembers depth members ++ newline depth ++ "\x7d"

/-- The items of a list, each on its own line. -/
def renderItems (depth : Nat) : List Json → String
  | [] => ""
  | [item] => newline (depth + 1) ++ render (depth + 1) item
  | item :: rest => newline (depth + 1) ++ render (depth + 1) item ++ "," ++ renderItems depth rest

/-- The members of an object, each on its own line. -/
def renderMembers (depth : Nat) : List (String × Json) → String
  | [] => ""
  | [(key, value)] => newline (depth + 1) ++ quote key ++ ": " ++ render (depth + 1) value
  | (key, value) :: rest =>
    newline (depth + 1) ++ quote key ++ ": " ++ render (depth + 1) value ++ "," ++
      renderMembers depth rest

end

/-- The printed form of a value over several lines. -/
def pretty (value : Json) : String :=
  render 0 value

end Json

end ClassDocs
