import ClassDocs.Yaml.Lexer
import ClassDocs.Yaml.Node

/-!
# From tokens to documents

Reading the tree of the one document that a text holds. An anchor is numbered by the number of
distinct anchor names before it, and an alias stands for whatever node its number was given to
last.

## Main definitions

* `NodeReader`: the state of reading.
* `Document.ofText?`: the document of a text.
-/

namespace ClassDocs.Yaml

/-- The state of reading a tree from tokens. -/
structure NodeReader where
  tokens : List Token
  /-- What tag handles stand for; the first entry of a handle counts. -/
  handles : List (String × String) := []
  /-- The numbers of the anchor names so far, one entry a name. -/
  names : List (String × Nat) := []
  /-- The anchored node that each number stands for, latest first. -/
  places : List (Nat × Nat) := []
  /-- The anchored nodes that have been read. -/
  anchored : List (Nat × Node) := []

/-- Reading that may fail. -/
abbrev ReadNode := StateT NodeReader Option

namespace ReadNode

/-- The next token. -/
def peek : ReadNode Token := do
  return (← get).tokens.headD .streamEnd

/-- Passes the next token. -/
def skip : ReadNode Unit :=
  modify fun s => { s with tokens := s.tokens.tail }

/-- Passes the next token if it is the given one, and says whether it was. -/
def skipIf (token : Token) : ReadNode Bool := do
  if (← peek) = token then
    skip
    return true
  else return false

/-- Passes the next token, which must be the given one. -/
def expect (token : Token) : ReadNode Unit := do
  if !(← skipIf token) then failure

/-- Whether the next token is one of some. -/
def seesAny (tokens : List Token) : ReadNode Bool := do
  return tokens.contains (← peek)

/-- The full form of a tag. -/
def fullTag (handle suffix : String) : ReadNode String := do
  if handle = "" then return suffix
  else
    match (← get).handles.lookup handle with
    | some replacement => return replacement ++ suffix
    | none => failure

/-- The anchor name here. -/
def anchor? : ReadNode (Option String) := do
  match ← peek with
  | .anchor name =>
    skip
    return some name
  | _ => return none

/-- The tag here, in its full form. -/
def tag? : ReadNode (Option String) := do
  match ← peek with
  | .tag handle suffix =>
    skip
    return some (← fullTag handle suffix)
  | _ => return none

/-- The anchor and the tag of a node, in either order. -/
def properties : ReadNode (Option String × Option String) := do
  match ← anchor? with
  | some name => return (some name, ← tag?)
  | none =>
    match ← tag? with
    | some tag => return (← anchor?, some tag)
    | none => return (none, none)

/-- Gives a number to an anchor; the result is its place in the order of appearance. -/
def bindAnchor (name : String) : ReadNode Nat := do
  let s ← get
  let number := s.names.length
  let place := s.places.length
  let names := (name, number) :: s.names.filter (·.1 != name)
  set { s with names, places := (number, place) :: s.places }
  return place

/-- The node that an alias of a name stands for. -/
def aliasNode (name : String) : ReadNode Node := do
  match (← get).names.lookup name with
  | some number => return .alias number
  | none => failure

mutual

/-- Reads a node. Block collections are only read where `block` allows them, and a sequence without
indentation of its own only where `indentless` does. -/
def node (block indentless : Bool) : (fuel : Nat) → ReadNode Node
  | 0 => failure
  | fuel + 1 => do
    match ← peek with
    | .alias name =>
      skip
      aliasNode name
    | _ =>
      let (anchor, tag) ← properties
      let place ← match anchor with
        | some name => some <$> bindAnchor name
        | none => pure none
      let result ← content block indentless (anchor.isSome || tag.isSome) tag fuel
      match place with
      | some place => modify fun s => { s with anchored := (place, result) :: s.anchored }
      | none => pure ()
      return result

/-- Reads what a node holds, after its anchor and tag. -/
def content (block indentless marked : Bool) (tag : Option String) : (fuel : Nat) → ReadNode Node
  | 0 => failure
  | fuel + 1 => do
    match ← peek with
    | .scalar text style =>
      skip
      return .scalar (tag.filter (· != "!")) style text
    | .flowSequenceStart =>
      skip
      return .sequence tag (← flowItems true fuel)
    | .flowMappingStart =>
      skip
      return .mapping tag (← flowPairs true fuel)
    | .blockEntry =>
      if indentless then return .sequence tag (← indentlessItems fuel)
      else leftOut marked tag
    | .blockSequenceStart =>
      if block then
        skip
        return .sequence tag (← blockItems fuel)
      else leftOut marked tag
    | .blockMappingStart =>
      if block then
        skip
        return .mapping tag (← blockPairs fuel)
      else leftOut marked tag
    | _ => leftOut marked tag

/-- An empty scalar, which only an anchor or a tag can announce. -/
def leftOut (marked : Bool) (tag : Option String) : ReadNode Node :=
  if marked then return .scalar tag .plain "" else failure

/-- Reads a block node, or an empty one where one of the given tokens follows. -/
def blockNodeBefore (ends : List Token) (indentless : Bool) : (fuel : Nat) → ReadNode Node
  | 0 => failure
  | fuel + 1 => do
    if ← seesAny ends then return .empty else node true indentless fuel

/-- Reads a flow node, or an empty one where one of the given tokens follows. -/
def flowNodeBefore (ends : List Token) : (fuel : Nat) → ReadNode Node
  | 0 => failure
  | fuel + 1 => do
    if ← seesAny ends then return .empty else node false false fuel

/-- Reads the entries of an indented sequence and its end. -/
def blockItems : (fuel : Nat) → ReadNode (List Node)
  | 0 => failure
  | fuel + 1 => do
    if ← skipIf .blockEntry then
      let item ← blockNodeBefore [.blockEntry, .blockEnd] false fuel
      return item :: (← blockItems fuel)
    else
      expect .blockEnd
      return []

/-- Reads the entries of a sequence without indentation of its own. -/
def indentlessItems : (fuel : Nat) → ReadNode (List Node)
  | 0 => failure
  | fuel + 1 => do
    if ← skipIf .blockEntry then
      let item ← blockNodeBefore [.blockEntry, .key, .value, .blockEnd] false fuel
      return item :: (← indentlessItems fuel)
    else return []

/-- Reads the entries of a block mapping and its end. -/
def blockPairs : (fuel : Nat) → ReadNode (List (Node × Node))
  | 0 => failure
  | fuel + 1 => do
    if ← skipIf .key then
      let key ← blockNodeBefore [.key, .value, .blockEnd] true fuel
      let value ← blockValue fuel
      return (key, value) :: (← blockPairs fuel)
    else
      expect .blockEnd
      return []

/-- Reads the value of an entry of a block mapping, which may be left out. -/
def blockValue : (fuel : Nat) → ReadNode Node
  | 0 => failure
  | fuel + 1 => do
    if ← skipIf .value then blockNodeBefore [.key, .value, .blockEnd] true fuel
    else return .empty

/-- Reads the entries of a flow sequence and its end. -/
def flowItems (first : Bool) : (fuel : Nat) → ReadNode (List Node)
  | 0 => failure
  | fuel + 1 => do
    if ← skipIf .flowSequenceEnd then return []
    else
      if !first then expect .flowEntry
      if ← skipIf .key then
        let pair ← flowPair fuel
        return .mapping none [pair] :: (← flowItems false fuel)
      else if ← skipIf .flowSequenceEnd then return []
      else
        let item ← node false false fuel
        return item :: (← flowItems false fuel)

/-- Reads the only entry of a mapping that stands in a flow sequence without braces. Where its key
is left out the token after the key is passed. -/
def flowPair : (fuel : Nat) → ReadNode (Node × Node)
  | 0 => failure
  | fuel + 1 => do
    let key ←
      if ← seesAny [.value, .flowEntry, .flowSequenceEnd] then
        skip
        pure Node.empty
      else node false false fuel
    if ← skipIf .value then return (key, ← flowNodeBefore [.flowEntry, .flowSequenceEnd] fuel)
    else return (key, .empty)

/-- Reads the entries of a flow mapping and its end. -/
def flowPairs (first : Bool) : (fuel : Nat) → ReadNode (List (Node × Node))
  | 0 => failure
  | fuel + 1 => do
    if ← skipIf .flowMappingEnd then return []
    else
      if !first then expect .flowEntry
      if ← skipIf .key then
        let key ← flowNodeBefore [.value, .flowEntry, .flowMappingEnd] fuel
        let value ←
          if ← skipIf .value then flowNodeBefore [.flowEntry, .flowMappingEnd] fuel
          else pure .empty
        return (key, value) :: (← flowPairs false fuel)
      else if ← skipIf .flowMappingEnd then return []
      else
        let key ← node false false fuel
        return (key, .empty) :: (← flowPairs false fuel)

end

/-- Reads the directives before a document: at most one version, which must be 1.1 or 1.2, and at
most one entry a tag handle. The result says whether there were any. -/
def directives (versionSeen : Bool) : (fuel : Nat) → ReadNode Bool
  | 0 => failure
  | fuel + 1 => do
    match ← peek with
    | .versionDirective major minor =>
      if versionSeen || major != 1 || (minor != 1 && minor != 2) then failure
      else
        skip
        let _ ← directives true fuel
        return true
    | .tagDirective handle replacement =>
      if ((← get).handles.lookup handle).isSome then failure
      else
        skip
        modify fun s => { s with handles := s.handles ++ [(handle, replacement)] }
        let _ ← directives versionSeen fuel
        return true
    | _ => return false

/-- What tag handles stand for unless a directive says otherwise. -/
def defaultHandles : List (String × String) :=
  [("!", "!"), ("!!", "tag:yaml.org,2002:")]

/-- Passes the marks that end a document; then the text must end. -/
def documentEnds : (fuel : Nat) → ReadNode Unit
  | 0 => failure
  | fuel + 1 => do
    if ← skipIf .documentEnd then documentEnds fuel else expect .streamEnd

/-- Reads the only document of a text. -/
def document (fuel : Nat) : ReadNode (Option Node) := do
  if ← skipIf .streamEnd then return none
  else
    let directed ← directives false fuel
    modify fun s => { s with handles := s.handles ++ defaultHandles }
    let started ← skipIf .documentStart
    if directed && !started then failure
    let isEmpty ← seesAny [.documentStart, .documentEnd, .streamEnd]
    let root ← if started && isEmpty then pure Node.empty else node true false fuel
    documentEnds fuel
    return some root

end ReadNode

/-- The document of a text, which must hold no more than one. Every call of a reader passes a token
or is followed by one that does, so four steps a token suffice. -/
def Document.ofText? (text : String) : Option Document := do
  let tokens ← Token.ofText? text
  let (root, s) ← (ReadNode.document (4 * tokens.length + 8)).run { tokens }
  some { root, places := s.places, anchored := s.anchored }

end ClassDocs.Yaml
