import ClassDocs.Doc.TagKind
import ClassDocs.SortedMap

/-!
# Tag registries

A registry binds tag names to handlers. A line opens a tag when it starts with `@` and the name of
a registered tag; every other line goes on with the tag that is open. Handlers are found by name
alone.

## Main definitions

* `Handler`: a tag name with its effect on a record.
* `Registry`: registered handlers by name.
* `Registry.classify`: the tag that a line opens.
* `Registry.applyTags`: the effect of a list of lines on a record.
-/

namespace ClassDocs

/-- A tag name with the effect of one occurrence, given the lines written under it. -/
structure Handler where
  /-- The tag name, without its marker. -/
  name : String
  /-- The effect of one occurrence. -/
  apply : Record → List String → Record

/-- The handler that binds a name to a built-in kind. -/
def Handler.builtin (name : String) (kind : TagKind) : Handler :=
  { name, apply := kind.apply }

/-- Registered handlers by name. -/
structure Registry where
  handlers : SortedMap Handler

namespace Registry

/-- The registry without tags. -/
def empty : Registry := ⟨.empty⟩

/-- Puts a handler under its name. -/
def put (reg : Registry) (handler : Handler) : Registry :=
  ⟨reg.handlers.insert handler.name handler⟩

/-- The registry of the tags known from the start. -/
def builtin : Registry :=
  TagKind.builtinNames.foldl (fun reg (name, kind) => reg.put (.builtin name kind)) empty

/-- Whether a character is an ASCII letter. -/
def isNameStart (c : Char) : Bool :=
  ('a' ≤ c && c ≤ 'z') || ('A' ≤ c && c ≤ 'Z')

/-- Whether a character can stand in a tag name after its first letter. -/
def isNameChar (c : Char) : Bool :=
  isNameStart c || ('0' ≤ c && c ≤ '9') || c == '_' || c == '-'

/-- Whether a text can name a tag: an ASCII letter, then letters, digits, `_` and `-`. -/
def isTagName (name : String) : Bool :=
  match name.toList with
  | c :: rest => isNameStart c && rest.all isNameChar
  | [] => false

/-- Registers a handler in place of one of the same name. -/
def add (reg : Registry) (handler : Handler) : Except DocError Registry :=
  if isTagName handler.name then .ok (reg.put handler)
  else .error (.invalidTagName handler.name)

/-- Registers a name that acts like a built-in kind. -/
def addAlias (reg : Registry) (name : String) (kind : TagKind) : Except DocError Registry :=
  reg.add (.builtin name kind)

/-- The handler of a name. -/
def find? (reg : Registry) (name : String) : Option Handler :=
  reg.handlers.get? name

/-- The registry without a name. -/
def remove (reg : Registry) (name : String) : Registry :=
  ⟨reg.handlers.erase name⟩

/-- Whether a name is registered. -/
def contains (reg : Registry) (name : String) : Bool :=
  reg.handlers.contains name

/-- The registered names in increasing order. -/
def names (reg : Registry) : List String :=
  reg.handlers.keys

/-- The number of registered names. -/
def size (reg : Registry) : Nat :=
  reg.handlers.size

/-- Whether no name is registered. -/
def isEmpty (reg : Registry) : Bool :=
  reg.handlers.isEmpty

/-- The name that a line offers as a tag: what stands between a leading `@` and the first space or
the end. Before a space a name has at least three characters. -/
def candidate? (line : String) : Option String :=
  match line.toList with
  | '@' :: rest =>
    let name := rest.takeWhile (· != ' ')
    if name = [] ∨ (name.length < rest.length ∧ name.length < 3) then none
    else some (String.ofList name)
  | _ => none

/-- The tag that a line opens. -/
def classify (reg : Registry) (line : String) : Option String :=
  (candidate? line).filter reg.contains

/-- What a line that opens a tag says after the tag name and one space. -/
def textAfter (tag line : String) : String :=
  String.ofList (line.toList.drop (tag.length + 2))

/-- A tag that has been opened, with the lines it has so far. -/
structure Run where
  tag : String
  lines : List String
  deriving DecidableEq, Repr

/-- Hands a run to the handler of its tag. -/
def dispatch (reg : Registry) (r : Record) (run : Run) : Record :=
  match reg.find? run.tag with
  | some handler => handler.apply r run.lines
  | none => r

/-- A record with the run that is still open, if any. -/
structure Progress where
  record : Record
  current : Option Run := none

/-- Hands over the run that is still open. -/
def Progress.close (reg : Registry) (p : Progress) : Record :=
  match p.current with
  | some run => reg.dispatch p.record run
  | none => p.record

/-- Reads one more line: it opens a tag, goes on with the open one, or is dropped. -/
def Progress.read (reg : Registry) (p : Progress) (line : String) : Progress :=
  match reg.classify line with
  | some tag => { record := p.close reg, current := some ⟨tag, [textAfter tag line]⟩ }
  | none => { p with current := p.current.map fun run => { run with lines := run.lines ++ [line] } }

/-- Hands each run of lines to the handler of the tag that opens it. Lines before the first tag are
dropped. -/
def applyTags (reg : Registry) (r : Record) (lines : List String) : Record :=
  (lines.foldl (Progress.read reg) { record := r }).close reg

/-- The registered names as a developer sees them. -/
def debugText (reg : Registry) : String :=
  "TagRegistry \x7b tags: [" ++ String.intercalate ", " (reg.names.map Text.quoted) ++ "] \x7d"

end Registry

end ClassDocs
