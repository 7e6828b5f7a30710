import ClassDocs.Class.Snapshot
import ClassDocs.FileTree.Basic

/-!
# Source text of methods

The body of a method is what stands between the line that opens it and the line that closes it,
without the indentation that its lines share. Line numbers are 64-bit words, and a sum or difference
of line numbers that is no word ends the program.

## Main definitions

* `Fault`: a failure that is reported, or arithmetic that leaves its range.
* `checkedAdd`, `checkedSub`: sums and differences of words.
* `dedent`: lines without the indentation that all of them share.
* `FileTree.sliceLines`: the lines between two lines of a file.
* `Method.code`: the body of a method.
-/

namespace ClassDocs

/-- Why something gives no result. -/
inductive Fault (ε : Type) where
  /-- A failure that is reported. -/
  | failure (cause : ε)
  /-- A sum or difference has left the range of words, which ends the program. -/
  | overflow
  deriving DecidableEq, Repr

/-- The fault with another cause. -/
def Fault.map {ε δ : Type} (f : ε → δ) : Fault ε → Fault δ
  | .failure cause => .failure (f cause)
  | .overflow => .overflow

/-- The sum of two words, which has to be a word. -/
def checkedAdd {ε : Type} (a b : UInt64) : Except (Fault ε) UInt64 :=
  if a.toNat + b.toNat < UInt64.size then .ok (a + b) else .error .overflow

/-- The difference of two words, which must not be negative. -/
def checkedSub {ε : Type} (a b : UInt64) : Except (Fault ε) UInt64 :=
  if b.toNat ≤ a.toNat then .ok (a - b) else .error .overflow

/-- Whether a character counts as indentation. -/
def isIndent (c : Char) : Bool :=
  c == ' ' || c == '\t'

/-- The number of leading spaces and tabs of a line. -/
def indentWidth (line : String) : Nat :=
  (line.toList.takeWhile isIndent).length

/-- The least indentation of the lines that are not blank; none without such a line. -/
def sharedIndent (lines : List String) : Nat :=
  (((lines.filter fun line => !Text.isBlankText line).map indentWidth).min?).getD 0

/-- A line without its leading spaces and tabs, as far as the shared indentation goes. -/
def cutIndent (indent : Nat) (line : String) : String :=
  String.ofList (line.toList.drop (min indent (indentWidth line)))

/-- The lines joined, without the indentation that all lines which are not blank share. When
something is cut, blanks at the end go too. -/
def dedent (lines : List String) : String :=
  match sharedIndent lines with
  | 0 => String.intercalate "\n" lines
  | indent => Text.trimEnd (String.join (lines.map fun line => cutIndent indent line ++ "\n"))

/-- The lines of a text after a number of lines, up to a count. -/
def linesAfter (text : String) (start count : UInt64) : List String :=
  ((Text.lines text).drop start.toNat).take count.toNat

/-- The lines strictly between two lines of a file, which is only read when there can be any. -/
def FileTree.sliceLines (tree : FileTree) (path : String) (startLine endLine : UInt64) :
    Except (Fault ClassError) (List String) := do
  let next ← checkedAdd startLine 1
  if endLine ≤ next then return []
  else
    match tree.readText path with
    | .ok text =>
      let span ← checkedSub endLine startLine
      let count ← checkedSub span 1
      return linesAfter text startLine count
    | .error cause => .error (.failure (.source path cause))

/-- The body of a method; it is empty when nothing is known of where the method is written, and when
it opens and closes on one line. -/
def Method.code (tree : FileTree) (method : Method) : Except (Fault ClassError) String :=
  match method.location with
  | none => .ok ""
  | some location =>
    if location.startLine = location.endLine then .ok ""
    else (tree.sliceLines location.file location.startLine location.endLine).map dedent

end ClassDocs
