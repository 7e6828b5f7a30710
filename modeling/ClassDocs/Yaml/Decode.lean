import ClassDocs.Yaml.Document
import ClassDocs.Yaml.Value

/-!
# Reading documents as data

Decoders say what a node must be. A decoder fails on a node of another kind, on collections nested
too deep, and on documents whose aliases are followed too often.

## Main definitions

* `Decode`: decoding that may fail and counts the aliases it follows.
* `Decode.text`, `Decode.optional`, `Decode.bool`, `Decode.nat`, `Decode.choice`: scalars.
* `Decode.list`, `Decode.pair`, `Decode.map`, `Decode.fields`: collections.
* `Decode.value`: any value.
* `Decode.run?`: decoding a text.
-/

namespace ClassDocs.Yaml

/-- Decoding that may fail. The state is the number of aliases that may still be followed. -/
abbrev Decode := ReaderT Document (StateT Nat Option)

namespace Decode

/-- The greatest depth of nested collections. -/
def maxDepth : Nat := 128

/-- The node itself, or what its alias stands for. -/
def resolve (node : Node) : Decode Node := do
  match node with
  | .alias target =>
    match ← get with
    | 0 => failure
    | left + 1 =>
      set left
      match (← read).target? target with
      | some node => return node
      | none => failure
  | node => return node

/-- The text of a scalar, whatever its form. -/
def text (node : Node) : Decode String := do
  match ← resolve node with
  | .scalar _ _ text => return text
  | _ => failure

/-- The full form of a tag of the format's own. -/
def coreTag (name : String) : String := "tag:yaml.org,2002:" ++ name

/-- Whether a plain text is empty or spells null. -/
def isUnset (text : String) : Bool :=
  text == "" || isNullText text

/-- A text that a plain null leaves unset. -/
def optional (decoder : Node → Decode α) (node : Node) : Decode (Option α) := do
  let node ← resolve node
  match node with
  | .scalar tag .plain text =>
    if tag == some (coreTag "null") then
      if isNullText text then return none else failure
    else if isUnset text then return none
    else some <$> decoder node
  | _ => some <$> decoder node

/-- Whether a scalar can spell a value of a kind: it is plain, or literal with the tag of that
kind. -/
def spells (kind : String) (tag : Option String) (style : ScalarStyle) : Bool :=
  match style with
  | .plain => true
  | .literal => tag == some (coreTag kind)
  | _ => false

/-- A truth value. -/
def bool (node : Node) : Decode Bool := do
  match ← resolve node with
  | .scalar tag style text =>
    match if spells "bool" tag style then boolOfText? text else none with
    | some b => return b
    | none => failure
  | _ => failure

/-- A number below `2 ^ 64`. -/
def nat (node : Node) : Decode Nat := do
  match ← resolve node with
  | .scalar tag style text =>
    match if spells "int" tag style then natOfText? (Nat.pow 2 64) text else none with
    | some n => return n
    | none => failure
  | _ => failure

/-- The name that a tag of the document's own gives, without its mark. -/
def localTag? (tag : Option String) : Option String :=
  match tag.map String.toList with
  | some ['!'] => some "!"
  | some ('!' :: name) => some (String.ofList name)
  | _ => none

/-- One of some named alternatives: a scalar with its name, or its name as the tag of an empty
scalar. -/
def choice (find? : String → Option α) (node : Node) : Decode α := do
  match ← resolve node with
  | .scalar tag style text =>
    let found := match localTag? tag with
      | some name => if style == .plain && isUnset text then find? name else none
      | none => find? text
    match found with
    | some a => return a
    | none => failure
  | _ => failure

/-- Whether a node is an empty plain scalar, which stands for an empty collection. -/
def isBlankNode : Node → Bool
  | .scalar _ .plain "" => true
  | _ => false

/-- The items of a sequence. -/
def items (depth : Nat) (node : Node) : Decode (List Node) := do
  match ← resolve node with
  | .sequence _ items => if depth = 0 then failure else return items
  | node => if isBlankNode node then return [] else failure

/-- The entries of a mapping. -/
def pairs (depth : Nat) (node : Node) : Decode (List (Node × Node)) := do
  match ← resolve node with
  | .mapping _ pairs => if depth = 0 then failure else return pairs
  | node => if isBlankNode node then return [] else failure

/-- A list. -/
def list (decoder : (depth : Nat) → Node → Decode α) (depth : Nat) (node : Node) :
    Decode (List α) := do
  (← items depth node).mapM (decoder (depth - 1))

/-- A list of exactly two items. -/
def pair (decoder : Node → Decode α) (depth : Nat) (node : Node) : Decode (α × α) := do
  match ← items depth node with
  | [a, b] => return (← decoder a, ← decoder b)
  | _ => failure

/-- A mapping from text to values, as its entries in order. -/
def map (decoder : (depth : Nat) → Node → Decode α) (depth : Nat) (node : Node) :
    Decode (List (String × α)) := do
  (← pairs depth node).mapM fun (key, value) => do
    return (← text key, ← decoder (depth - 1) value)

/-- The entries of a mapping with known names, by name. An unknown name is passed over and a known
one may occur only once. -/
def fields (known : List String) (depth : Nat) (node : Node) : Decode (List (String × Node)) := do
  let entries ← (← pairs depth node).mapM fun (key, value) => return (← text key, value)
  let entries := entries.filter fun (name, _) => known.contains name
  if (entries.map (·.1)).eraseDups.length < entries.length then failure else return entries

/-- The value of a field that has a default. -/
def field (entries : List (String × Node)) (name : String) (default : α)
    (decoder : Node → Decode α) : Decode α :=
  match entries.lookup name with
  | some node => decoder node
  | none => return default

/-- The value of a field that has none. -/
def required (entries : List (String × Node)) (name : String) (decoder : Node → Decode α) :
    Decode α :=
  match entries.lookup name with
  | some node => decoder node
  | none => failure

/-- The value of a scalar. A tag of the format's own asks for a value of its kind; under a tag that
has been taken off already the text decides as if there were none. -/
def scalarValue (tag : Option String) (style : ScalarStyle) (text : String) (untagged : Bool) :
    Decode Value :=
  let orFail (value : Option Value) : Decode Value := match value with
    | some v => return v
    | none => failure
  let tag := if untagged then none else tag
  if tag == some (coreTag "bool") then orFail ((boolOfText? text).map .bool)
  else if tag == some (coreTag "int") then orFail ((Value.intOfText? text).bind (·.map .int))
  else if tag == some (coreTag "float") then orFail ((floatOfText? text).map .float)
  else if tag == some (coreTag "null") then orFail (if isNullText text then some .null else none)
  else if tag == none && style == .plain then orFail (Value.ofPlainText? text)
  else return .string text

/-- The tag of a node. -/
def tagOf : Node → Option String
  | .scalar tag _ _ => tag
  | .sequence tag _ => tag
  | .mapping tag _ => tag
  | .alias _ => none

/-- The entries of a mapping after those already read, no key twice. Under a tag of the document's
own, which has been taken off already, keys are read as if they had none. -/
def pairsOfAny (part : (untagged : Bool) → Node → Decode Value) (untagged : Bool) :
    List (Node × Node) → List (Value × Value) → Decode (List (Value × Value))
  | [], seen => return seen.reverse
  | (key, node) :: rest, seen => do
    let key ← part untagged key
    if seen.any fun (other, _) => key.same other then failure
    else
      let value ← part false node
      pairsOfAny part untagged rest ((key, value) :: seen)

/-- A value whose tag has been seen to, given how to read its parts. -/
def contentOfAny (part? : Option (Bool → Node → Decode Value)) (untagged : Bool) :
    Node → Decode Value
  | .scalar tag style text => scalarValue tag style text untagged
  | .sequence _ items =>
    match part? with
    | some part => .sequence <$> items.mapM (part false)
    | none => failure
  | .mapping _ pairs =>
    match part? with
    | some part => .mapping <$> pairsOfAny part untagged pairs []
    | none => failure
  | .alias _ => failure

/-- A value, given how to read its parts. A tag of the document's own is kept with the value, unless
`untagged` says that it has been taken off already. -/
def anyWith (part? : Option (Bool → Node → Decode Value)) (untagged : Bool) (node : Node) :
    Decode Value := do
  let node ← resolve node
  match if untagged then none else localTag? (tagOf node) with
  | some name => .tagged name <$> contentOfAny part? true node
  | none => contentOfAny part? untagged node

/-- Any value with collections nested no deeper than given. -/
def value : (depth : Nat) → (untagged : Bool) → Node → Decode Value
  | 0 => anyWith none
  | depth + 1 => anyWith (some (value depth))

/-- Decodes the document of a text; a text that holds no document has the given value. -/
def run? (decoder : Node → Decode α) (missing : α) (text : String) : Option α := do
  let doc ← Document.ofText? text
  match doc.root with
  | none => some missing
  | some node =>
    let (a, _) ← ((decoder node).run doc).run (100 * doc.events)
    some a

end Decode

end ClassDocs.Yaml
