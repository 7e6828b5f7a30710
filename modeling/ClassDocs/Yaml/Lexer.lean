import ClassDocs.Yaml.BlockScalar
import ClassDocs.Yaml.Property

/-!
# From text to tokens

Reading a text token by token. Indentation is kept on a stack; a scalar or flow collection that
turns out to be a mapping key gets its key token, and perhaps the start of its mapping, put before
it when the colon is met.

## Main definitions

* `SimpleKey`: a token that a colon would turn into a key.
* `Lexer`: the state of reading.
* `Token.ofText?`: the tokens of a text.
-/

namespace ClassDocs.Yaml

/-- A token that a colon on the same line would turn into a mapping key. -/
structure SimpleKey where
  /-- Whether the next token has to be the colon. -/
  required : Bool
  /-- The number of tokens before it. -/
  position : Nat
  /-- Where it starts. -/
  start : Cursor

/-- The state of reading tokens. -/
structure Lexer where
  cursor : Cursor
  tokens : Array Token := #[]
  /-- The columns of the block collections around, innermost first. -/
  indents : List Nat := []
  /-- The possible key of each flow collection around, innermost first, and of the block at the
  end. -/
  keys : List (Option SimpleKey) := [none]
  /-- Whether a key can start here. -/
  keyAllowed : Bool := true

namespace Lexer

/-- The column of the innermost block collection, or -1. -/
def indent (lx : Lexer) : Int :=
  match lx.indents with
  | column :: _ => column
  | [] => -1

/-- Whether reading is inside a flow collection. -/
def inFlow (lx : Lexer) : Bool :=
  1 < lx.keys.length

/-- Adds a token. -/
def push (lx : Lexer) (token : Token) : Lexer :=
  { lx with tokens := lx.tokens.push token }

/-- Adds an indicator token of so many characters. -/
def pushIndicator (lx : Lexer) (token : Token) (width : Nat) : Lexer :=
  { lx.push token with cursor := lx.cursor.advanceBy width }

/-- Gives up the possible key at this level, which fails when a colon was required. -/
def dropKey? (lx : Lexer) : Option Lexer :=
  match lx.keys with
  | some key :: rest => if key.required then none else some { lx with keys := none :: rest }
  | _ => some lx

/-- Notes that the next token may be a key. -/
def noteKey? (lx : Lexer) : Option Lexer :=
  if lx.keyAllowed then do
    let lx ← lx.dropKey?
    let key : SimpleKey :=
      { required := !lx.inFlow && lx.indent == lx.cursor.column
        position := lx.tokens.size
        start := lx.cursor }
    some { lx with keys := some key :: lx.keys.tail }
  else some lx

/-- Whether a possible key can no longer be one: its line has ended, or it is too long. -/
def isStale (lx : Lexer) (key : SimpleKey) : Bool :=
  key.start.line < lx.cursor.line || key.start.index + 1024 < lx.cursor.index

/-- Gives up the possible keys that can no longer be keys. -/
def dropStaleKeys? (lx : Lexer) : Option Lexer := do
  let keys ← lx.keys.mapM fun
    | some key => if lx.isStale key then (if key.required then none else some none)
                  else some (some key)
    | none => some none
  some { lx with keys }

/-- Closes the block collections whose column lies beyond the given one. -/
def closeBlocks (lx : Lexer) (column : Int) : Lexer :=
  if lx.inFlow then lx
  else
    let closed := lx.indents.takeWhile fun (c : Nat) => column < c
    { lx with
      indents := lx.indents.drop closed.length
      tokens := lx.tokens ++ (closed.map fun _ => Token.blockEnd).toArray }

/-- Opens a block collection at a column, unless one is open there, by a token put at a position. -/
def openBlock (lx : Lexer) (column position : Nat) (token : Token) : Lexer :=
  if !lx.inFlow && lx.indent < column then
    { lx with
      indents := column :: lx.indents
      tokens := lx.tokens.insertIdxIfInBounds position token }
  else lx

/-- Skips blanks, comments and line ends. In block context a new line can start a key, and a tab may
not stand where a key can start. -/
def skipToToken : (fuel : Nat) → Lexer → Lexer
  | 0, lx => lx
  | fuel + 1, lx =>
    let cur := if lx.cursor.column == 0 && (lx.cursor.peek?.any (·.toNat == 0xfeff))
      then lx.cursor.advance else lx.cursor
    let tabs := lx.inFlow || !lx.keyAllowed
    let cur := (cur.readWhile fun c => c == ' ' || (tabs && c == '\t')).2.skipComment
    if cur.atBreak then
      skipToToken fuel
        { lx with cursor := cur.skipBreak, keyAllowed := lx.keyAllowed || !lx.inFlow }
    else { lx with cursor := cur }

/-- Ends every block and gives up the possible key, as a directive or a document boundary does. -/
def endBlocks? (lx : Lexer) : Option Lexer := do
  let lx ← (lx.closeBlocks (-1)).dropKey?
  some { lx with keyAllowed := false }

/-- Reads the start of a flow collection. -/
def flowStart? (lx : Lexer) (token : Token) : Option Lexer := do
  let lx ← lx.noteKey?
  some { lx.pushIndicator token 1 with keys := none :: lx.keys, keyAllowed := true }

/-- Reads the end of a flow collection. -/
def flowEnd? (lx : Lexer) (token : Token) : Option Lexer := do
  let lx ← lx.dropKey?
  some { lx.pushIndicator token 1 with
    keys := if lx.inFlow then lx.keys.tail else lx.keys
    keyAllowed := false }

/-- Reads the comma of a flow collection. -/
def flowEntry? (lx : Lexer) : Option Lexer := do
  let lx ← lx.dropKey?
  some { lx.pushIndicator .flowEntry 1 with keyAllowed := true }

/-- Reads the dash of a sequence entry. -/
def blockEntry? (lx : Lexer) : Option Lexer := do
  if !lx.inFlow && !lx.keyAllowed then none
  else
    let lx := lx.openBlock lx.cursor.column lx.tokens.size .blockSequenceStart
    let lx ← lx.dropKey?
    some { lx.pushIndicator .blockEntry 1 with keyAllowed := true }

/-- Reads the question mark of a key. -/
def key? (lx : Lexer) : Option Lexer := do
  if !lx.inFlow && !lx.keyAllowed then none
  else
    let lx := lx.openBlock lx.cursor.column lx.tokens.size .blockMappingStart
    let lx ← lx.dropKey?
    some { lx.pushIndicator .key 1 with keyAllowed := !lx.inFlow }

/-- Reads the colon of a value; a possible key before it becomes one. -/
def value? (lx : Lexer) : Option Lexer :=
  match lx.keys with
  | some key :: rest =>
    let lx := { lx with
      tokens := lx.tokens.insertIdxIfInBounds key.position .key
      keys := none :: rest
      keyAllowed := false }
    let lx := lx.openBlock key.start.column key.position .blockMappingStart
    some (lx.pushIndicator .value 1)
  | _ =>
    if !lx.inFlow && !lx.keyAllowed then none
    else
      let lx := lx.openBlock lx.cursor.column lx.tokens.size .blockMappingStart
      some { lx.pushIndicator .value 1 with keyAllowed := !lx.inFlow }

/-- Reads an anchor or an alias. -/
def anchor? (lx : Lexer) (token : String → Token) : Option Lexer := do
  let lx ← lx.noteKey?
  let (name, cursor) ← readAnchorName? lx.cursor
  some { lx.push (token name) with cursor, keyAllowed := false }

/-- Reads a tag. -/
def tag? (lx : Lexer) : Option Lexer := do
  let lx ← lx.noteKey?
  let (token, cursor) ← readTag? lx.inFlow lx.cursor
  some { lx.push token with cursor, keyAllowed := false }

/-- Reads a block scalar. -/
def blockScalar? (lx : Lexer) (literal : Bool) : Option Lexer := do
  let lx ← lx.dropKey?
  let (text, cursor) ← readBlockScalar? literal lx.indent lx.cursor
  some { lx.push (.scalar text (if literal then .literal else .folded)) with
    cursor, keyAllowed := true }

/-- Reads a scalar between quotes. -/
def quotedScalar? (lx : Lexer) (quote : Char) : Option Lexer := do
  let lx ← lx.noteKey?
  let (text, cursor) ← readQuoted? quote lx.cursor
  some { lx.push (.scalar text .quoted) with cursor, keyAllowed := false }

/-- Reads a plain scalar. After one that ended with its line a key can start. -/
def plainScalar? (lx : Lexer) : Option Lexer := do
  let lx ← lx.noteKey?
  let (text, broken, cursor) ← readPlain? lx.inFlow (lx.indent + 1) lx.cursor
  some { lx.push (.scalar text .plain) with cursor, keyAllowed := broken }

/-- Whether a plain scalar can start here. -/
def startsPlain (lx : Lexer) : Bool :=
  match lx.cursor.peek? with
  | none => false
  | some c =>
    let next := lx.cursor.peekAt? 1
    !(isSpaceOrTab c || isBreak c ||
      ['-', '?', ':', ',', '[', ']', '\x7b', '\x7d', '#', '&', '*', '!', '|', '>', '\'', '"', '%',
        '@', '\x60'].contains c) ||
      (c == '-' && !next.any isSpaceOrTab) ||
      (!lx.inFlow && (c == '?' || c == ':') && !lx.cursor.blankOrEndAt 1)

/-- Reads one token at a position where one starts. -/
def readToken? (lx : Lexer) : Option Lexer :=
  let cur := lx.cursor
  let separated := lx.inFlow || cur.blankOrEndAt 1
  if cur.column == 0 && cur.sees '%' then do
    let lx ← lx.endBlocks?
    let (token, cursor) ← readDirective? cur
    some { lx.push token with cursor }
  else if cur.atDocumentMark '-' then do
    some ((← lx.endBlocks?).pushIndicator .documentStart 3)
  else if cur.atDocumentMark '.' then do
    some ((← lx.endBlocks?).pushIndicator .documentEnd 3)
  else if cur.sees '[' then lx.flowStart? .flowSequenceStart
  else if cur.sees '\x7b' then lx.flowStart? .flowMappingStart
  else if cur.sees ']' then lx.flowEnd? .flowSequenceEnd
  else if cur.sees '\x7d' then lx.flowEnd? .flowMappingEnd
  else if cur.sees ',' then lx.flowEntry?
  else if cur.sees '-' && cur.blankOrEndAt 1 then lx.blockEntry?
  else if cur.sees '?' && separated then lx.key?
  else if cur.sees ':' && separated then lx.value?
  else if cur.sees '*' then lx.anchor? .alias
  else if cur.sees '&' then lx.anchor? .anchor
  else if cur.sees '!' then lx.tag?
  else if cur.sees '|' && !lx.inFlow then lx.blockScalar? true
  else if cur.sees '>' && !lx.inFlow then lx.blockScalar? false
  else if cur.sees '\'' then lx.quotedScalar? '\''
  else if cur.sees '"' then lx.quotedScalar? '"'
  else if lx.startsPlain then lx.plainScalar?
  else none

/-- Reads tokens to the end of the text. Each step reads at least one character, so that the fuel
exceeds the characters left. -/
def readAll? : (fuel : Nat) → Lexer → Option (List Token)
  | 0, _ => none
  | fuel + 1, lx => do
    let lx := skipToToken (fuel + 1) lx
    let lx ← lx.dropStaleKeys?
    let lx := lx.closeBlocks lx.cursor.column
    if lx.cursor.atEnd then
      let lx ← lx.endBlocks?
      some (lx.push .streamEnd).tokens.toList
    else readAll? fuel (← lx.readToken?)

end Lexer

/-- The tokens of a text, unless it holds a character or a token that is not allowed. -/
def Token.ofText? (text : String) : Option (List Token) :=
  let rest := text.toList
  if rest.all isAllowed then Lexer.readAll? (rest.length + 1) { cursor := { rest } } else none

end ClassDocs.Yaml
