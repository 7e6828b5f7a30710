import ClassDocs.Yaml.Number

/-!
# Values without a given type

What a node stands for where any value is welcome.

## Main definitions

* `Value`: a value.
* `Value.ofPlainText?`: the value of a plain scalar.
-/

namespace ClassDocs.Yaml

/-- A value. -/
inductive Value where
  | null
  | bool (value : Bool)
  | int (value : Int)
  | float (value : Binary64)
  | string (text : String)
  | sequence (items : List Value)
  | mapping (pairs : List (Value × Value))
  | tagged (tag : String) (value : Value)

namespace Value

mutual

/-- Whether two values are the same. -/
def same : Value → Value → Bool
  | .null, .null => true
  | .bool a, .bool b => a == b
  | .int a, .int b => a == b
  | .float a, .float b => sameFloat a b
  | .string a, .string b => a == b
  | .sequence a, .sequence b => sameItems a b
  | .mapping a, .mapping b => samePairs a b
  | .tagged t a, .tagged u b => t == u && same a b
  | _, _ => false

/-- Whether two lists hold the same values. -/
def sameItems : List Value → List Value → Bool
  | [], [] => true
  | a :: as, b :: bs => same a b && sameItems as bs
  | _, _ => false

/-- Whether two lists hold the same entries. -/
def samePairs : List (Value × Value) → List (Value × Value) → Bool
  | [], [] => true
  | (k, v) :: as, (l, w) :: bs => same k l && same v w && samePairs as bs
  | _, _ => false

/-- Whether two double precision numbers are the same; the sign of zero does not count. -/
def sameFloat : Binary64 → Binary64 → Bool
  | .finite _ 0 _, .finite _ 0 _ => true
  | a, b => a == b

end

/-- The integer that a text spells, or a refusal of one beyond 64 bits that 128 bits would hold. -/
def intOfText? (text : String) : Option (Option Int) :=
  match natOfText? (Nat.pow 2 64) text with
  | some n => some (some n)
  | none =>
    match negativeOfText? (Nat.pow 2 63) text with
    | some n => some (some (-(n : Int)))
    | none =>
      if (natOfText? (Nat.pow 2 128) text).isSome ||
          (negativeOfText? (Nat.pow 2 127) text).isSome then
        some none
      else none

/-- The value of a plain scalar: null, a truth value, a number or its text. An integer beyond 64
bits has none. -/
def ofPlainText? (text : String) : Option Value :=
  if text == "" || isNullText text then some .null
  else
    match boolOfText? text with
    | some b => some (.bool b)
    | none =>
      match intOfText? text with
      | some n => n.map .int
      | none =>
        if isPaddedDigits text.toList then some (.string text)
        else
          match floatOfText? text with
          | some x => some (.float x)
          | none => some (.string text)

end Value

end ClassDocs.Yaml
