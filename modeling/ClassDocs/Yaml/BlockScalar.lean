import ClassDocs.Yaml.Cursor

/-!
# Block scalars

Literal and folded scalars: a header line, then the indented lines that follow it.

## Main definitions

* `Chomping`: what happens to the line ends after the last line.
* `readBlockScalar?`: a block scalar, from its indicator on.
-/

namespace ClassDocs.Yaml

/-- What is kept of the line ends after the last line of a block scalar. -/
inductive Chomping where
  | strip
  | clip
  | keep
  deriving DecidableEq, Repr

/-- The chomping that an indicator asks for. -/
def Chomping.ofIndicator? : Option Char → Option Chomping
  | some '+' => some .keep
  | some '-' => some .strip
  | _ => none

/-- The header after the indicator: chomping and indentation, in either order. An indentation of
zero is refused. -/
def readBlockHeader? (cur : Cursor) : Option (Chomping × Option Nat × Cursor) :=
  let digit? (cur : Cursor) : Option Nat :=
    (cur.peek?.filter fun c => '0' ≤ c && c ≤ '9').map fun c => c.toNat - '0'.toNat
  match Chomping.ofIndicator? cur.peek? with
  | some chomping =>
    match digit? cur.advance with
    | some 0 => none
    | some n => some (chomping, some n, cur.advanceBy 2)
    | none => some (chomping, none, cur.advance)
  | none =>
    match digit? cur with
    | some 0 => none
    | some n =>
      match Chomping.ofIndicator? cur.advance.peek? with
      | some chomping => some (chomping, some n, cur.advanceBy 2)
      | none => some (.clip, some n, cur.advance)
    | none => some (.clip, none, cur)

/-- Reads indentation and empty lines. Until the indentation is known every space belongs to it and
the deepest one is remembered. A tab may not stand in the indentation. -/
def readBlockBreaks? (indent : Option Nat) : (fuel : Nat) → Cursor → (breaks : String) →
    (deepest : Nat) → Option (String × Nat × Cursor)
  | 0, _, _, _ => none
  | fuel + 1, cur, breaks, deepest =>
    let open? (cur : Cursor) : Bool := indent.all (cur.column < ·)
    let spaces := (cur.rest.takeWhile (· == ' ')).length
    let cur := match indent with
      | some n => cur.advanceBy (min spaces (n - cur.column))
      | none => cur.advanceBy spaces
    let deepest := max deepest cur.column
    if open? cur && cur.sees '\t' then none
    else if cur.atBreak then
      let (next, lineEnd) := cur.readBreak
      readBlockBreaks? indent fuel next (breaks ++ lineEnd) deepest
    else some (breaks, deepest, cur)

/-- The lines of a block scalar as far as they have been read. -/
structure BlockLines where
  text : String := ""
  /-- The line end of the last line. -/
  lastBreak : String := ""
  /-- The line ends of the empty lines after it. -/
  emptyLines : String := ""
  /-- Whether the last line started with a blank. -/
  lastBlank : Bool := false
  cursor : Cursor

/-- Reads the lines of a block scalar. Between two lines of a folded scalar that do not start with
a blank the line end is folded. Each step reads at least one character, so that the fuel exceeds the
characters left. -/
def readBlockLines? (literal : Bool) (indent : Nat) : (fuel : Nat) → BlockLines → Option BlockLines
  | 0, _ => none
  | fuel + 1, s =>
    if s.cursor.column == indent && !s.cursor.atEnd then do
      let startsBlank := s.cursor.atBlank
      let folded := !literal && s.lastBreak == "\n" && !s.lastBlank && !startsBlank
      let gap :=
        if folded then (if s.emptyLines == "" then " " else s.emptyLines)
        else s.lastBreak ++ s.emptyLines
      let (line, cur) := s.cursor.readWhile fun c => !isBreak c
      let (cur, lastBreak) := cur.readBreak
      let (emptyLines, _, cursor) ← readBlockBreaks? (some indent) (fuel + 1) cur "" 0
      readBlockLines? literal indent fuel
        { text := s.text ++ gap ++ String.ofList line, lastBreak, emptyLines,
          lastBlank := startsBlank, cursor }
    else some s

/-- A block scalar, from its indicator on, and the position after it; `parent` is the indentation of
the collection around it. -/
def readBlockScalar? (literal : Bool) (parent : Int) (cur : Cursor) : Option (String × Cursor) := do
  let (chomping, increment, cur) ← readBlockHeader? cur.advance
  let cur ← cur.skipLineRest?
  let given := increment.map fun n => if 0 ≤ parent then (parent.toNat + n) else n
  let (emptyLines, deepest, cur) ← readBlockBreaks? given (cur.rest.length + 1) cur "" 0
  let indent := given.getD (max deepest (max (parent + 1).toNat 1))
  let s ← readBlockLines? literal indent (cur.rest.length + 1) { emptyLines, cursor := cur }
  let tail := match chomping with
    | .strip => ""
    | .clip => s.lastBreak
    | .keep => s.lastBreak ++ s.emptyLines
  some (s.text ++ tail, s.cursor)

end ClassDocs.Yaml
