import ClassDocs.Glob.Pattern

/-!
# Reading path patterns

## Main definitions

* `Glob.Reader`: what has been read of a pattern.
* `Glob.ofText`: the pattern that a text spells.
-/

namespace ClassDocs.Glob

/-- A group of alternatives that has been opened. -/
structure OpenGroup where
  /-- What stands before the group, last first. -/
  before : List Token
  /-- The alternatives that are complete, last first. -/
  branches : List (List Token)

/-- What has been read of a pattern. -/
structure Reader where
  /-- The sequence being read, last first. -/
  current : List Token := []
  /-- The groups around it, innermost first. -/
  groups : List OpenGroup := []

namespace Reader

/-- Adds an element. -/
def push (r : Reader) (token : Token) : Reader :=
  { r with current := token :: r.current }

/-- Puts an element in place of the last one. -/
def replaceLast (r : Reader) (token : Token) : Reader :=
  { r with current := token :: r.current.tail }

/-- Whether a group is open. -/
def inGroup (r : Reader) : Bool :=
  !r.groups.isEmpty

/-- Opens a group. -/
def openGroup (r : Reader) : Reader :=
  { current := [], groups := ⟨r.current, []⟩ :: r.groups }

/-- Ends an alternative; outside any group a comma stands for itself. -/
def comma (r : Reader) : Reader :=
  match r.groups with
  | [] => r.push (.literal ',')
  | group :: groups =>
    { current := [], groups := { group with branches := r.current.reverse :: group.branches } ::
        groups }

/-- Closes a group. -/
def closeGroup (r : Reader) : Except GlobError Reader :=
  match r.groups with
  | [] => .error .unopenedAlternates
  | group :: groups =>
    .ok {
      current := .alternates (r.current.reverse :: group.branches).reverse :: group.before
      groups }

/-- Adds two stars that stand for directories, if they end a sequence. -/
def pushDirs (r : Reader) (atEnd : Bool) : Reader :=
  match r.current with
  | .leadingDirs :: _ => r
  | .trailingDirs :: _ => r
  | _ => r.replaceLast (if atEnd then .trailingDirs else .innerDirs)

/-- Adds two stars, given the characters around them; the result says whether the character after
them belongs to them. Between slashes, or a slash and the end of a sequence, they stand for
directories, and the slash before them does too. -/
def stars (r : Reader) (prev next : Option Char) : Reader × Bool :=
  let apart := ((r.push .star).push .star, false)
  if r.current.isEmpty then
    match next with
    | none => (r.push .leadingDirs, true)
    | some '/' => (r.push .leadingDirs, true)
    | some _ => apart
  else if prev != some '/' && !(r.inGroup && (prev == some ',' || prev == some '\x7b')) then apart
  else
    match next with
    | none => (r.pushDirs true, true)
    | some '/' => (r.pushDirs false, true)
    | some c => if r.inGroup && (c == ',' || c == '\x7d') then (r.pushDirs true, false) else apart

end Reader

mutual

/-- Reads characters, given the one before them. -/
def readFrom (r : Reader) (prev : Option Char) : List Char → Except GlobError Reader
  | [] => .ok r
  | '*' :: '*' :: rest =>
    match r.stars prev rest.head? with
    | (r, false) => readFrom r (some '*') rest
    | (r, true) =>
      match rest with
      | [] => .ok r
      | c :: rest => readFrom r (some c) rest
  | '*' :: rest => readFrom (r.push .star) (some '*') rest
  | '?' :: rest => readFrom (r.push .any) (some '?') rest
  | '[' :: '!' :: rest => readClass r true true false [] rest
  | '[' :: '^' :: rest => readClass r true true false [] rest
  | '[' :: rest => readClass r false true false [] rest
  | '\x7b' :: rest => readFrom r.openGroup (some '\x7b') rest
  | '\x7d' :: rest =>
    match r.closeGroup with
    | .ok r => readFrom r (some '\x7d') rest
    | .error e => .error e
  | ',' :: rest => readFrom r.comma (some ',') rest
  | '\\' :: c :: rest => readFrom (r.push (.literal c)) (some c) rest
  | ['\\'] => .error .danglingEscape
  | c :: rest => readFrom (r.push (.literal c)) (some c) rest

/-- Reads the characters of a class up to the bracket that closes it, given whether one is the
first, whether a range is open, and the ranges so far, last first. -/
def readClass (r : Reader) (negated first inRange : Bool) (ranges : List (Char × Char)) :
    List Char → Except GlobError Reader
  | [] => .error .unclosedClass
  | c :: rest =>
    if c == ']' && !first then
      let ranges := if inRange then ('-', '-') :: ranges else ranges
      readFrom (r.push (.charClass negated ranges.reverse)) (some ']') rest
    else if inRange then
      match ranges with
      | (a, _) :: more =>
        if c < a then .error (.invalidRange a c)
        else readClass r negated false false ((a, c) :: more) rest
      | [] => readClass r negated false false [(c, c)] rest
    else if c == '-' && !first then readClass r negated false true ranges rest
    else readClass r negated false false ((c, c) :: ranges) rest

end

/-- The pattern that a text spells. -/
def ofText (text : String) : Except GlobError Glob :=
  match readFrom {} none text.toList with
  | .ok r => if r.inGroup then .error .unclosedAlternates else .ok ⟨r.current.reverse⟩
  | .error e => .error e

end ClassDocs.Glob
