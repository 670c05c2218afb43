/-
**Decimal numerals and the doubles they denote.**

Numbers reach a rule as text: in the rule itself, in a string value of the data, in a form field, in
a setting.  This module reads such text.  A numeral is an optional sign, digits with an optional
point among, before or after them, and an optional exponent; what it denotes is the double nearest
to its exact value.

Main definitions:

* `Rulebook.Decimal` — a decimal number: sign, digits, power of ten;
* `Rulebook.Decimal.toFloat` — the nearest double, infinite when the number is out of range;
* `Rulebook.Decimal.read?` — the decimal that a numeral spells;
* `Rulebook.readFloat?` — the double that a numeral, or a word for infinity or not-a-number, spells;
* `Rulebook.readFinite?` — the same for finite numbers alone, with blanks allowed at the ends.
-/

import Rulebook.Text.Character

set_option autoImplicit false

namespace Rulebook

/-! ### Digits -/

/-- The number that a row of decimal digits spells. -/
def natOfDigits (ds : List Char) : Nat :=
  ds.foldl (fun n d => 10 * n + (d.toNat - '0'.toNat)) 0

@[simp] theorem natOfDigits_nil : natOfDigits [] = 0 := rfl

/-- The largest whole number of 64 bits. -/
def maxWord : Nat := Nat.pow 2 64 - 1

/-- The number of decimal digits of a number. -/
def digitCount (n : Nat) : Nat := (Nat.toDigits 10 n).length

/-- A sign at the front, `true` for minus, and what follows it. -/
def splitSign : List Char → Bool × List Char
  | '-' :: cs => (true, cs)
  | '+' :: cs => (false, cs)
  | cs => (false, cs)

/-! ### Decimal numbers -/

/-- The decimal number `± mantissa * 10 ^ exponent`. -/
structure Decimal where
  /-- Whether the number carries a minus sign. -/
  negative : Bool
  /-- All its digits, the point left out. -/
  mantissa : Nat
  /-- The power of ten that the digits are scaled by. -/
  exponent : Int
  deriving DecidableEq, Repr

namespace Decimal

/-- The double nearest to the absolute value of the number.  Beyond `10 ^ 310` every number is
infinite and below `10 ^ -330` every number is zero, so no larger power of ten is computed. -/
def magnitude (d : Decimal) : Float :=
  let top := digitCount d.mantissa + d.exponent
  if d.mantissa = 0 ∨ top < -330 then 0
  else if 310 < top then 1 / 0
  else Float.ofScientific d.mantissa (d.exponent < 0) d.exponent.natAbs

/-- The double nearest to the number; a number out of range is infinite. -/
def toFloat (d : Decimal) : Float :=
  if d.negative then -d.magnitude else d.magnitude

/-! ### Reading -/

/-- The exponent at the end of a numeral: nothing at all, or `e` with a signed row of digits. -/
def readExponent? : List Char → Option Int
  | [] => some 0
  | c :: cs =>
    if c = 'e' ∨ c = 'E' then
      let (negative, ds) := splitSign cs
      if ds ≠ [] ∧ ds.all Char.isDigit then
        some (if negative then -(natOfDigits ds : Int) else natOfDigits ds)
      else none
    else none

/-- The fraction after a point, if one follows, and what comes after it. -/
def splitFraction : List Char → List Char × List Char
  | '.' :: cs => (cs.takeWhile Char.isDigit, cs.dropWhile Char.isDigit)
  | cs => ([], cs)

/-- The decimal that a numeral spells.  There must be a digit before or after the point. -/
def read? (cs : List Char) : Option Decimal :=
  let (negative, body) := splitSign cs
  let whole := body.takeWhile Char.isDigit
  let (fraction, rest) := splitFraction (body.dropWhile Char.isDigit)
  if whole = [] ∧ fraction = [] then none
  else (readExponent? rest).map fun e =>
    ⟨negative, natOfDigits (whole ++ fraction), e - fraction.length⟩

end Decimal

/-! ### Doubles from text -/

/-- The words for a number without decimal digits, in any case. -/
def readNonFinite? (cs : List Char) : Option Float :=
  let (negative, body) := splitSign cs
  let word := body.map Char.toLower
  if word = "inf".toList ∨ word = "infinity".toList then some (if negative then -1 / 0 else 1 / 0)
  else if word = "nan".toList then some (0 / 0)
  else none

/-- The double that a text spells: a numeral, or a word for infinity or not-a-number. -/
def readFloat? (cs : List Char) : Option Float :=
  match Decimal.read? cs with
  | some d => some d.toFloat
  | none => readNonFinite? cs

/-- The finite double that a text spells once the blanks at its ends are taken away. -/
def readFinite? (cs : List Char) : Option Float :=
  (readFloat? (trimBlank cs)).filter Float.isFinite

end Rulebook
