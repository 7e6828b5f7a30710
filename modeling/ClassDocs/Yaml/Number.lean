import ClassDocs.Decimal.Binary64

/-!
# Numbers and other plain values

How the text of a plain scalar is taken for a null, a truth value or a number.

## Main definitions

* `isNullText`, `boolOfText?`: nulls and truth values.
* `natOfText?`, `negativeOfText?`: integers.
* `floatOfText?`: double precision numbers.
-/

namespace ClassDocs.Yaml

/-- Whether a text spells null. -/
def isNullText (text : String) : Bool :=
  ["null", "Null", "NULL", "~"].contains text

/-- The truth value that a text spells. -/
def boolOfText? (text : String) : Option Bool :=
  if ["true", "True", "TRUE"].contains text then some true
  else if ["false", "False", "FALSE"].contains text then some false
  else none

/-- The value of a digit in bases up to 36. -/
def digitValue? (c : Char) : Option Nat :=
  if '0' ≤ c ∧ c ≤ '9' then some (c.toNat - '0'.toNat)
  else if 'a' ≤ c ∧ c ≤ 'z' then some (c.toNat - 'a'.toNat + 10)
  else if 'A' ≤ c ∧ c ≤ 'Z' then some (c.toNat - 'A'.toNat + 10)
  else none

/-- The number that at least one digit of a base spells. -/
def digitsOfBase? (base : Nat) (digits : List Char) : Option Nat :=
  if digits.isEmpty then none
  else digits.foldlM
    (fun n c => do
      let d ← digitValue? c
      if d < base then some (base * n + d) else none) 0

/-- Whether a sign starts a text. -/
def startsSigned : List Char → Bool
  | '+' :: _ => true
  | '-' :: _ => true
  | _ => false

/-- Whether a text has digits only, of which the first of several is zero. Such a text is not a
number. -/
def isPaddedDigits (text : List Char) : Bool :=
  let digits := if startsSigned text then text.tail else text
  1 < digits.length && digits.head? == some '0' && digits.all fun c => '0' ≤ c && c ≤ '9'

/-- The base that a two-character mark announces, and the text after it. -/
def baseMark? : List Char → Option (Nat × List Char)
  | '0' :: 'x' :: rest => some (16, rest)
  | '0' :: 'o' :: rest => some (8, rest)
  | '0' :: 'b' :: rest => some (2, rest)
  | _ => none

/-- A number without an upper bound, or nothing when a bound is reached. -/
def below (bound : Nat) (n : Option Nat) : Option Nat :=
  n.filter (· < bound)

/-- The number below a bound that a text without minus sign spells, in decimal or after a mark of
its base. -/
def natOfText? (bound : Nat) (text : String) : Option Nat :=
  let chars := text.toList
  let unsigned := if chars.head? == some '+' then chars.tail else chars
  match baseMark? unsigned with
  | some (base, rest) => below bound (digitsOfBase? base rest)
  | none =>
    if startsSigned unsigned || isPaddedDigits chars then none
    else below bound (digitsOfBase? 10 unsigned)

/-- The distance from zero, up to a bound, of the number that a text with a minus sign spells, in
decimal or after a mark of its base. -/
def negativeOfText? (bound : Nat) (text : String) : Option Nat :=
  match text.toList with
  | '-' :: rest =>
    match baseMark? rest with
    | some (base, digits) => below (bound + 1) (digitsOfBase? base digits)
    | none =>
      if isPaddedDigits text.toList then none else below (bound + 1) (digitsOfBase? 10 rest)
  | _ => none

/-- The exponent after the mantissa of a decimal number: nothing, or a mark, a sign and digits. -/
def exponentOfChars? : List Char → Option Int
  | [] => some 0
  | c :: rest =>
    if c == 'e' || c == 'E' then
      let negative := rest.head? == some '-'
      let digits := if startsSigned rest then rest.tail else rest
      (digitsOfBase? 10 digits).map fun n => if negative then -(n : Int) else n
    else none

/-- The number that digits with at most one point and an exponent spell. -/
def decimalOfChars? (negative : Bool) (chars : List Char) : Option Binary64 := do
  let isDigit (c : Char) : Bool := '0' ≤ c && c ≤ '9'
  let whole := chars.takeWhile isDigit
  let rest := chars.dropWhile isDigit
  let (fraction, rest) := match rest with
    | '.' :: rest => (rest.takeWhile isDigit, rest.dropWhile isDigit)
    | _ => ([], rest)
  let digits ← digitsOfBase? 10 (whole ++ fraction)
  let e ← exponentOfChars? rest
  some (Binary64.ofDecimal negative digits (e - fraction.length))

/-- The double precision number that a text spells: a decimal within the range of the format, an
infinity or the undefined value. -/
def floatOfText? (text : String) : Option Binary64 :=
  let chars := text.toList
  let plus := chars.head? == some '+'
  let unsigned := if plus then chars.tail else chars
  if plus && startsSigned unsigned then none
  else if [".inf", ".Inf", ".INF"].contains (String.ofList unsigned) then some (.infinite false)
  else if ["-.inf", "-.Inf", "-.INF"].contains text then some (.infinite true)
  else if [".nan", ".NaN", ".NAN"].contains text then some .undefined
  else
    let number := match unsigned with
      | '-' :: rest => if startsSigned rest then none else decimalOfChars? true rest
      | _ => decimalOfChars? false unsigned
    match number with
    | some (.finite negative m e) => some (.finite negative m e)
    | _ => none

end ClassDocs.Yaml
