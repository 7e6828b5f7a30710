import ClassDocs.FileTree.Name
import ClassDocs.Glob.Pattern

/-!
# Matching path patterns

A pattern is matched against the bytes of a path. An element leaves any of several rests of the
path to the elements after it.

## Main definitions

* `Glob.Token.rests`, `Glob.restsOf`: what a pattern leaves of a path.
* `Glob.isMatch`: whether a pattern matches a whole path.
-/

namespace ClassDocs.Glob

/-- The bytes of a character. -/
def charBytes (c : Char) : List UInt8 :=
  Text.bytes c.toString

/-- What is left after any number of bytes. -/
def suffixes : List UInt8 → List (List UInt8)
  | [] => [[]]
  | b :: rest => (b :: rest) :: suffixes rest

/-- What is left after any slash. -/
def afterSlashes : List UInt8 → List (List UInt8)
  | [] => []
  | b :: rest => if b == Text.slash then rest :: afterSlashes rest else afterSlashes rest

/-- What is left after some bytes. -/
def afterBytes : List UInt8 → List UInt8 → Option (List UInt8)
  | [], path => some path
  | b :: bytes, c :: path => if b == c then afterBytes bytes path else none
  | _ :: _, [] => none

/-- Rests of one path, each once. -/
def distinct (rests : List (List UInt8)) : List (List UInt8) :=
  rests.eraseDupsBy fun a b => a.length == b.length

/-- Whether a byte is in the range of two characters. The range goes from the last byte of the one
to the first byte of the other, and their further bytes count singly. -/
def rangeHas (range : Char × Char) (b : UInt8) : Bool :=
  let low := charBytes range.1
  let high := charBytes range.2
  if range.1 = range.2 then low.contains b
  else
    low.dropLast.contains b || high.tail.contains b ||
      (low.getLastD 0 ≤ b && b ≤ high.headD 0)

mutual

/-- Whether an element says nothing: it is a choice of sequences that say nothing. -/
def Token.isVoid : Token → Bool
  | .alternates branches => branchesAreVoid branches
  | _ => false

/-- Whether a sequence says nothing. -/
def isVoidSequence : List Token → Bool
  | [] => true
  | token :: rest => token.isVoid && isVoidSequence rest

/-- Whether all alternatives say nothing. -/
def branchesAreVoid : List (List Token) → Bool
  | [] => true
  | branch :: rest => isVoidSequence branch && branchesAreVoid rest

end

mutual

/-- What an element leaves of a path. Among alternatives, those that say nothing do not count. -/
def Token.rests : Token → List UInt8 → List (List UInt8)
  | .literal c, path => (afterBytes (charBytes c) path).toList
  | .any, path => if path.isEmpty then [] else [path.tail]
  | .star, path => suffixes path
  | .leadingDirs, path => path :: afterSlashes path
  | .innerDirs, path =>
    match path with
    | [] => []
    | b :: rest => if b == Text.slash then rest :: afterSlashes rest else []
  | .trailingDirs, path =>
    match path with
    | [] => []
    | b :: rest => if b == Text.slash then suffixes rest else []
  | .charClass negated ranges, path =>
    match path with
    | [] => []
    | b :: rest => if (ranges.any fun range => rangeHas range b) != negated then [rest] else []
  | .alternates branches, path =>
    if branchesAreVoid branches then [path] else distinct (restsOfBranches branches path)

/-- What a sequence leaves of some paths. -/
def restsOf : List Token → List (List UInt8) → List (List UInt8)
  | [], paths => paths
  | token :: tokens, paths => restsOf tokens (distinct (paths.flatMap fun path => token.rests path))

/-- What any of some alternatives leaves of a path. -/
def restsOfBranches : List (List Token) → List UInt8 → List (List UInt8)
  | [], _ => []
  | branch :: branches, path =>
    (if isVoidSequence branch then [] else restsOf branch [path]) ++ restsOfBranches branches path

end

/-- Whether a pattern matches a whole path. Two stars alone match any path. -/
def isMatch (glob : Glob) (path : List UInt8) : Bool :=
  match glob.tokens with
  | [.leadingDirs] => true
  | tokens => (restsOf tokens [path]).any List.isEmpty

end ClassDocs.Glob
