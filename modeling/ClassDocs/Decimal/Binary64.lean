/-!
# Double precision numbers

Numbers `± mantissa * 2 ^ exponent` of the double precision format, read from decimal text by
rounding to nearest and written with the fewest digits that read back. All arithmetic is exact.

## Main definitions

* `Binary64`: a number, an infinity or the undefined value.
* `Binary64.ofDecimal`: the number nearest to a decimal; halfway cases go to the even mantissa.
* `Binary64.shortest`: the fewest digits that read back, nearest to the number.
* `Binary64.print`: the written form.
-/

namespace ClassDocs

/-- A double precision number, an infinity or the undefined value. -/
inductive Binary64 where
  | finite (negative : Bool) (mantissa : Nat) (exponent : Int)
  | infinite (negative : Bool)
  | undefined
  deriving DecidableEq, Repr

namespace Binary64

/-- The exponent of the least positive number. -/
def minExponent : Int := -1074

/-- The greatest exponent of a mantissa with 53 bits. -/
def maxExponent : Int := 971

/-- The fraction `n * base ^ e` as numerator and denominator. -/
def scaled (n base : Nat) (e : Int) : Nat × Nat :=
  if 0 ≤ e then (n * base.pow e.toNat, 1) else (n, base.pow (-e).toNat)

/-- A quotient rounded to nearest, halfway cases to even. -/
def roundDiv (num den : Nat) : Nat :=
  let q := num / den
  let r := num % den
  if den < 2 * r ∨ (2 * r = den ∧ q % 2 = 1) then q + 1 else q

/-- The exponent for which a positive fraction has a mantissa of 53 bits, or the least one. -/
def exponentFor (num den : Nat) : Int :=
  let guess : Int := (Nat.log2 num : Int) - (Nat.log2 den : Int) - 53
  let mantissa (e : Int) : Nat :=
    if 0 ≤ e then num / (den * Nat.pow 2 e.toNat) else num * Nat.pow 2 (-e).toNat / den
  let e := if mantissa guess < Nat.pow 2 53 then guess else guess + 1
  max e minExponent

/-- The number nearest to a positive fraction, or an infinity beyond the greatest one. -/
def ofFraction (negative : Bool) (num den : Nat) : Binary64 :=
  let e := exponentFor num den
  let m :=
    if 0 ≤ e then roundDiv num (den * Nat.pow 2 e.toNat)
    else roundDiv (num * Nat.pow 2 (-e).toNat) den
  let (m, e) := if m = Nat.pow 2 53 then (Nat.pow 2 52, e + 1) else (m, e)
  if maxExponent < e then .infinite negative else .finite negative m e

/-- The number nearest to `± digits * 10 ^ e`. Far outside the range of the format the result does
not depend on the digits. -/
def ofDecimal (negative : Bool) (digits : Nat) (e : Int) : Binary64 :=
  if digits = 0 then .finite negative 0 0
  else
    let size : Int := (Nat.toDigits 10 digits).length
    if 400 < size + e then .infinite negative
    else if size + e < -400 then .finite negative 0 0
    else
      let (num, den) := scaled digits 10 e
      ofFraction negative num den

/-- Whether a fraction lies in the interval of reals that round to `mantissa * 2 ^ exponent`. The
ends, given as quarters of the last place, belong to it when the mantissa is even. -/
def rounds (mantissa : Nat) (exponent : Int) (num den : Nat) : Bool :=
  let below : Nat := if mantissa = Nat.pow 2 52 ∧ minExponent < exponent then 1 else 2
  let (low, unit) := scaled (4 * mantissa - below) 2 (exponent - 2)
  let (high, _) := scaled (4 * mantissa + 2) 2 (exponent - 2)
  if mantissa % 2 = 0 then low * den ≤ num * unit && num * unit ≤ high * den
  else low * den < num * unit && num * unit < high * den

/-- The digits and the exponent of a decimal of a given number of digits that reads back as the
positive number `mantissa * 2 ^ exponent`: the nearer of the two neighbours on that grid that does,
the even one when both are as near. -/
def digitsOfSize? (mantissa : Nat) (exponent : Int) (leading : Int) (size : Nat) :
    Option (Nat × Int) :=
  let e : Int := leading - (size - 1 : Nat)
  let (num, den) := scaled mantissa 2 exponent
  let (num, den) :=
    if 0 ≤ e then (num, den * Nat.pow 10 e.toNat) else (num * Nat.pow 10 (-e).toNat, den)
  let low := num / den
  let reads (d : Nat) : Bool :=
    let (n, dn) := scaled d 10 e
    rounds mantissa exponent n dn
  let rest := num % den
  let nearest := if 2 * rest < den ∨ (2 * rest = den ∧ low % 2 = 0) then low else low + 1
  let other := if nearest = low then low + 1 else low
  if reads nearest then some (nearest, e)
  else if reads other then some (other, e)
  else none

/-- The exponent of the leading decimal digit of a positive fraction, found from a guess that is at
most a few too small. -/
def leadingExponent (num den : Nat) (guess : Int) : Nat → Int
  | 0 => guess
  | steps + 1 =>
    let reached := if 0 ≤ guess + 1 then den * Nat.pow 10 (guess + 1).toNat ≤ num
      else den ≤ num * Nat.pow 10 (-(guess + 1)).toNat
    if reached then leadingExponent num den (guess + 1) steps else guess

/-- The fewest digits that read back as the positive number `mantissa * 2 ^ exponent`, without
trailing zeros, and the exponent of the last one. -/
def shortest (mantissa : Nat) (exponent : Int) : Nat × Int :=
  let (num, den) := scaled mantissa 2 exponent
  let guess : Int := ((Nat.log2 num : Int) - (Nat.log2 den : Int) - 1) * 30103 / 100000 - 2
  let leading := leadingExponent num den guess 8
  let found := (List.range 17).findSome? fun n => digitsOfSize? mantissa exponent leading (n + 1)
  strip 20 (found.getD (mantissa, exponent))
where
  /-- Moves trailing zeros of the digits into the exponent. -/
  strip : Nat → Nat × Int → Nat × Int
    | 0, d => d
    | n + 1, (d, e) => if d % 10 = 0 ∧ d ≠ 0 then strip n (d / 10, e + 1) else (d, e)

/-- Digits with a point: positional notation when the point lies within sixteen digits to the left
or four zeros to the right of the digits' start, else an exponent of ten. -/
def printDigits (digits : Nat) (exponent : Int) : String :=
  let ds := Nat.toDigits 10 digits
  let point : Int := ds.length + exponent
  let zeros (n : Nat) := List.replicate n '0'
  if 0 ≤ exponent ∧ point ≤ 16 then
    String.ofList (ds ++ zeros exponent.toNat) ++ ".0"
  else if 0 < point ∧ point ≤ 16 then
    String.ofList (ds.take point.toNat) ++ "." ++ String.ofList (ds.drop point.toNat)
  else if -5 < point ∧ point ≤ 0 then
    "0." ++ String.ofList (zeros (-point).toNat ++ ds)
  else
    let power := "e" ++ toString (point - 1)
    match ds with
    | [d] => d.toString ++ power
    | d :: more => d.toString ++ "." ++ String.ofList more ++ power
    | [] => power

/-- The written form of a number. -/
def print : Binary64 → String
  | .undefined => ".nan"
  | .infinite negative => if negative then "-.inf" else ".inf"
  | .finite negative mantissa exponent =>
    let sign := if negative then "-" else ""
    if mantissa = 0 then sign ++ "0.0"
    else
      let (digits, e) := shortest mantissa exponent
      sign ++ printDigits digits e

end Binary64

end ClassDocs
