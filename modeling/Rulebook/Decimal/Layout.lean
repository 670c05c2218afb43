/-
**How a double is written.**

The digits of a double are those of its shortest decimal (`Rulebook.Decimal.Shortest`).  They are laid
out in two ways.  In text — rules, traces, messages — a number is positional, never has an exponent
and has no point unless it has a fraction.  In JSON it is recognisably a double: it always has a
point or an exponent.  Of two shortest decimals that are equally near, text has the upper and JSON the
one that ends in an even digit.

Main definitions:

* `Rulebook.decimalText` — the positional text;
* `Rulebook.pointedText` — the text with a point or an exponent.
-/

import Rulebook.Decimal.Shortest

set_option autoImplicit false

namespace Rulebook

/-- Digits with the point so placed that `point` of them stand before it.  A point beyond either end
is reached by zeros. -/
def positional (digits : List Char) (point : Int) : List Char :=
  if point ≤ 0 then '0' :: '.' :: (List.replicate point.natAbs '0' ++ digits)
  else if digits.length ≤ point.toNat then
    digits ++ List.replicate (point.toNat - digits.length) '0'
  else digits.take point.toNat ++ '.' :: digits.drop point.toNat

/-- Whether a double carries a minus sign; negative zero does. -/
def isNegative (x : Float) : Bool := Nat.pow 2 63 ≤ x.toBits.toNat

/-- The digits of a finite double and the place of the point, counted from the first digit; zero
has the one digit `0` before the point. -/
def digitsAndPoint (tie : TieRule) (x : Float) : List Char × Int :=
  if x == 0 then (['0'], 1)
  else
    let (c, k) := (Binary.ofFloat x).shortest tie
    let digits := Nat.toDigits 10 c
    (digits, digits.length + k)

/-- The sign of a number that is written with a minus when it is negative and with nothing else. -/
def signText (x : Float) : List Char := if isNegative x then ['-'] else []

/-- The positional text of a double: the fewest digits that read back, no exponent, and a point only
before a fraction. -/
def decimalText (x : Float) : String :=
  if x.isNaN then "NaN"
  else if x.isInf then if x < 0 then "-inf" else "inf"
  else
    let (digits, point) := digitsAndPoint .upper x
    String.ofList (signText x ++ positional digits point)

/-- Digits in scientific form: one before the point, the sign of the exponent always written. -/
def scientific (digits : List Char) (point : Int) : List Char :=
  let exponent := point - 1
  let body := match digits with
    | d :: e :: ds => d :: '.' :: e :: ds
    | ds => ds
  body ++ 'e' :: (if exponent < 0 then '-' else '+') :: Nat.toDigits 10 exponent.natAbs

/-- The text of a finite double that shows it to be one: positional with a point between `10 ^ -5` and
`10 ^ 16`, scientific elsewhere. -/
def pointedText (x : Float) : String :=
  let (digits, point) := digitsAndPoint .even x
  let body :=
    if -5 < point ∧ point ≤ 16 then
      let plain := positional digits point
      if digits.length ≤ point.toNat then plain ++ ['.', '0'] else plain
    else scientific digits point
  String.ofList (signText x ++ body)

example : decimalText 1125899906842624.25 = "1125899906842624.3" ∧
    pointedText 1125899906842624.25 = "1125899906842624.2" := by decide +kernel

end Rulebook
