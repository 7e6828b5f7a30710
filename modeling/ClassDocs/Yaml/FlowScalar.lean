import ClassDocs.Yaml.Cursor

/-!
# Plain and quoted scalars

Scalars that are written within a line, or over several lines with line ends folded into spaces.

## Main definitions

* `Folding`: the blanks and line ends since the last character of a scalar.
* `readQuoted?`: a scalar between quotes, from its opening quote on.
* `readPlain?`: a scalar without quotes.
-/

namespace ClassDocs.Yaml

/-- What stands between two words of a scalar: blanks within a line, or line ends. -/
structure Folding where
  /-- Blanks after the last word, on the same line. -/
  blanks : String := ""
  /-- The first line end. -/
  firstBreak : String := ""
  /-- The other line ends. -/
  moreBreaks : String := ""
  /-- Whether a line has ended. -/
  broken : Bool := false

/-- What the blanks and line ends between two words stand for: a single line end is a space, and of
several the first is dropped. -/
def Folding.text (f : Folding) : String :=
  if f.broken then
    if f.firstBreak == "\n" then
      if f.moreBreaks == "" then " " else f.moreBreaks
    else f.firstBreak ++ f.moreBreaks
  else f.blanks

/-- Reads one blank or line end. -/
def Folding.read (f : Folding) (cur : Cursor) : Folding × Cursor :=
  match cur.peek? with
  | some c =>
    if isSpaceOrTab c then
      (if f.broken then f else { f with blanks := f.blanks.push c }, cur.advance)
    else
      let (next, lineEnd) := cur.readBreak
      (if f.broken then { f with moreBreaks := f.moreBreaks ++ lineEnd }
       else { f with firstBreak := lineEnd, broken := true }, next)
  | none => (f, cur)

/-- Reads blanks and line ends. -/
def Folding.readAll (f : Folding) : (fuel : Nat) → Cursor → Folding × Cursor
  | 0, cur => (f, cur)
  | fuel + 1, cur =>
    if cur.atBlank || cur.atBreak then
      let (f, cur) := f.read cur
      f.readAll fuel cur
    else (f, cur)

/-- The value of a hexadecimal digit. -/
def hexDigit? (c : Char) : Option Nat :=
  if '0' ≤ c ∧ c ≤ '9' then some (c.toNat - '0'.toNat)
  else if 'a' ≤ c ∧ c ≤ 'f' then some (c.toNat - 'a'.toNat + 10)
  else if 'A' ≤ c ∧ c ≤ 'F' then some (c.toNat - 'A'.toNat + 10)
  else none

/-- The number that some hexadecimal digits spell. -/
def hexNumber? (digits : List Char) : Option Nat :=
  digits.foldlM (fun n c => (hexDigit? c).map (16 * n + ·)) 0

/-- The character that an escape of so many hexadecimal digits stands for. -/
def readHexEscape? (cur : Cursor) (digits : Nat) : Option (Char × Cursor) := do
  let spelled := cur.rest.take digits
  if spelled.length < digits then none
  else
    let code ← hexNumber? spelled
    if (0xd800 ≤ code && code ≤ 0xdfff) || 0x10ffff < code then none
    else some (Char.ofNat code, cur.advanceBy digits)

/-- The character that the escape after a backslash stands for. -/
def readEscape? (cur : Cursor) : Option (Char × Cursor) := do
  let c ← cur.peek?
  let next := cur.advance
  match c with
  | '0' => some (Char.ofNat 0, next)
  | 'a' => some (Char.ofNat 7, next)
  | 'b' => some (Char.ofNat 8, next)
  | 't' => some ('\t', next)
  | '\t' => some ('\t', next)
  | 'n' => some ('\n', next)
  | 'v' => some (Char.ofNat 11, next)
  | 'f' => some (Char.ofNat 12, next)
  | 'r' => some ('\r', next)
  | 'e' => some (Char.ofNat 27, next)
  | ' ' => some (' ', next)
  | '"' => some ('"', next)
  | '/' => some ('/', next)
  | '\\' => some ('\\', next)
  | 'N' => some (Char.ofNat 0x85, next)
  | '_' => some (Char.ofNat 0xa0, next)
  | 'L' => some (Char.ofNat 0x2028, next)
  | 'P' => some (Char.ofNat 0x2029, next)
  | 'x' => readHexEscape? next 2
  | 'u' => readHexEscape? next 4
  | 'U' => readHexEscape? next 8
  | _ => none

/-- Reads the characters up to a blank, a line end, the closing quote or an escaped line end. The
flag says that an escaped line end was read. -/
def readQuotedWord? (quote : Char) : (fuel : Nat) → Cursor → String →
    Option (String × Bool × Cursor)
  | 0, _, _ => none
  | fuel + 1, cur, text =>
    match cur.peek? with
    | none => some (text, false, cur)
    | some c =>
      if isSpaceOrTab c || isBreak c then some (text, false, cur)
      else if quote == '\'' && c == '\'' && cur.seesAt 1 '\'' then
        readQuotedWord? quote fuel (cur.advanceBy 2) (text.push '\'')
      else if c == quote then some (text, false, cur)
      else if quote == '"' && c == '\\' then
        if (cur.peekAt? 1).any isBreak then some (text, true, cur.advance.skipBreak)
        else
          match readEscape? cur.advance with
          | some (escaped, next) => readQuotedWord? quote fuel next (text.push escaped)
          | none => none
      else readQuotedWord? quote fuel cur.advance (text.push c)

/-- Reads the words of a quoted scalar up to and with the closing quote. Each step reads at least
one character, so that the fuel exceeds the characters left. -/
def readQuotedWords? (quote : Char) : (fuel : Nat) → Cursor → String → Option (String × Cursor)
  | 0, _, _ => none
  | fuel + 1, cur, text => do
    if cur.atAnyDocumentMark || cur.atEnd then none
    else
      let (text, broken, cur) ← readQuotedWord? quote (fuel + 1) cur text
      if cur.sees quote then some (text, cur.advance)
      else
        let (folding, cur) := Folding.readAll { broken } (fuel + 1) cur
        readQuotedWords? quote fuel cur (text ++ folding.text)

/-- A scalar between quotes, from its opening quote on, and the position after it. -/
def readQuoted? (quote : Char) (cur : Cursor) : Option (String × Cursor) :=
  readQuotedWords? quote (cur.rest.length + 1) cur.advance ""

/-- Whether a character bounds plain scalars inside flow collections. -/
def isFlowIndicator (c : Char) : Bool :=
  c == ',' || c == '[' || c == ']' || c == '\x7b' || c == '\x7d'

/-- A plain scalar as far as it has been read. -/
structure PlainScalar where
  text : String := ""
  folding : Folding := {}
  cursor : Cursor

/-- Reads characters up to a blank, a line end or an indicator that ends a plain scalar. -/
def readPlainWord? (inFlow : Bool) : (fuel : Nat) → PlainScalar → Option PlainScalar
  | 0, _ => none
  | fuel + 1, s =>
    match s.cursor.peek? with
    | none => some s
    | some c =>
      let next := s.cursor.peekAt? 1
      if isSpaceOrTab c || isBreak c then some s
      else if inFlow && c == ':' && next.any (fun d => isFlowIndicator d || d == '?') then none
      else if (c == ':' && s.cursor.blankOrEndAt 1) || (inFlow && isFlowIndicator c) then some s
      else
        readPlainWord? inFlow fuel
          { text := (s.text ++ s.folding.text).push c, folding := {}, cursor := s.cursor.advance }

/-- Reads blanks and line ends after a word. A tab may not stand in the indentation. -/
def readPlainGap? (indent : Int) : (fuel : Nat) → PlainScalar → Option PlainScalar
  | 0, _ => none
  | fuel + 1, s =>
    if s.cursor.atBlank || s.cursor.atBreak then
      if s.folding.broken && (s.cursor.column : Int) < indent && s.cursor.sees '\t' then none
      else
        let (folding, cursor) := s.folding.read s.cursor
        readPlainGap? indent fuel { s with folding, cursor }
    else some s

/-- Reads the words of a plain scalar. Each step but the last reads at least one character, so that
the fuel exceeds the characters left. -/
def readPlainWords? (inFlow : Bool) (indent : Int) : (fuel : Nat) → PlainScalar →
    Option PlainScalar
  | 0, _ => none
  | fuel + 1, s => do
    if s.cursor.atAnyDocumentMark || s.cursor.sees '#' then some s
    else
      let s ← readPlainWord? inFlow (fuel + 1) s
      if s.cursor.atBlank || s.cursor.atBreak then
        let s ← readPlainGap? indent (fuel + 1) s
        if !inFlow && (s.cursor.column : Int) < indent then some s
        else readPlainWords? inFlow indent fuel s
      else some s

/-- A scalar without quotes, whether a line ended after it, and the position after it. In block
context its further lines are indented by at least `indent`. -/
def readPlain? (inFlow : Bool) (indent : Int) (cur : Cursor) : Option (String × Bool × Cursor) := do
  let s ← readPlainWords? inFlow indent (cur.rest.length + 1) { cursor := cur }
  some (s.text, s.folding.broken, s.cursor)

end ClassDocs.Yaml
