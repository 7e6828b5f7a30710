/-!
# Path patterns

What a path pattern is made of. Stars and question marks match slashes too; two stars that make up
a whole part of a path stand for any number of directories.

## Main definitions

* `Glob.Token`: one element of a pattern.
* `Glob`: a pattern.
* `GlobError`: why a text is no pattern.
-/

namespace ClassDocs

/-- One element of a pattern. -/
inductive Glob.Token where
  /-- The character itself. -/
  | literal (c : Char)
  /-- Any one byte. -/
  | any
  /-- Any text. -/
  | star
  /-- Any number of directories at the start. -/
  | leadingDirs
  /-- Any number of directories in between. -/
  | innerDirs
  /-- Everything in a directory. -/
  | trailingDirs
  /-- One of some characters, or none of them. -/
  | charClass (negated : Bool) (ranges : List (Char × Char))
  /-- One of some sequences. -/
  | alternates (branches : List (List Glob.Token))

/-- A pattern. -/
structure Glob where
  tokens : List Glob.Token

/-- Why a text is no pattern. -/
inductive GlobError where
  | unclosedClass
  | invalidRange (first last : Char)
  | unopenedAlternates
  | unclosedAlternates
  | danglingEscape
  deriving DecidableEq, Repr

/-- The wording of a refusal. -/
def GlobError.message : GlobError → String
  | .unclosedClass => "unclosed character class; missing ']'"
  | .invalidRange first last =>
    "invalid range; '" ++ first.toString ++ "' > '" ++ last.toString ++ "'"
  | .unopenedAlternates =>
    "unopened alternate group; missing '\x7b' (maybe escape '\x7d' with '[\x7d]'?)"
  | .unclosedAlternates =>
    "unclosed alternate group; missing '\x7d' (maybe escape '\x7b' with '[\x7b]'?)"
  | .danglingEscape => "dangling '\\'"

end ClassDocs
