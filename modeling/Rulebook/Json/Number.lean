/-
**Reading the numbers of a JSON text.**

An integer that fits 64 bits is read exactly.  Any other number is read with the accuracy of one
double operation: the leading digits that fit 64 bits are taken as a whole number, and that is
multiplied or divided by a power of ten.  A number too large for a double is no number at all.

Main definitions:

* `Rulebook.Json.Numeral` — the parts of a number as they are written;
* `Rulebook.Json.Numeral.scan?` — the number at the front of a text;
* `Rulebook.Json.Numeral.value?` — the number that the parts stand for.
-/

import Rulebook.Decimal.Numeral
import Rulebook.Json.Basic

set_option autoImplicit false

namespace Rulebook.Json

/-- A number as it is written in a JSON text. -/
structure Numeral where
  /-- Whether a minus sign stands before it. -/
  negative : Bool
  /-- The digits before the point. -/
  whole : List Char
  /-- The digits after the point; empty when there is no point. -/
  fraction : List Char
  /-- The exponent, when there is one. -/
  exponent : Option Int
  deriving DecidableEq, Repr

namespace Numeral

/-! ### Scanning -/

/-- The digits of a fraction, if a point stands at the front: at least one digit must follow it. -/
def scanFraction? : List Char → Option (List Char × List Char)
  | '.' :: cs =>
    let digits := cs.takeWhile Char.isDigit
    if digits = [] then none else some (digits, cs.dropWhile Char.isDigit)
  | cs => some ([], cs)

/-- The exponent, if `e` stands at the front: at least one digit must follow its sign. -/
def scanExponent? : List Char → Option (Option Int × List Char)
  | c :: cs =>
    if c = 'e' ∨ c = 'E' then
      let (negative, body) := splitSign cs
      let digits := body.takeWhile Char.isDigit
      let value : Int := natOfDigits digits
      if digits = [] then none
      else some (some (if negative then -value else value), body.dropWhile Char.isDigit)
    else some (none, c :: cs)
  | [] => some (none, [])

/-- The digits before the point: a zero stands alone. -/
def scanWhole? (cs : List Char) : Option (List Char × List Char) :=
  let digits := cs.takeWhile Char.isDigit
  match digits with
  | [] => none
  | '0' :: _ :: _ => none
  | _ => some (digits, cs.dropWhile Char.isDigit)

/-- The number at the front of a text, and what follows it. -/
def scan? (cs : List Char) : Option (Numeral × List Char) := do
  let (negative, cs) := match cs with
    | '-' :: cs => (true, cs)
    | cs => (false, cs)
  let (whole, cs) ← scanWhole? cs
  let (fraction, cs) ← scanFraction? cs
  let (exponent, cs) ← scanExponent? cs
  return (⟨negative, whole, fraction, exponent⟩, cs)

/-! ### Value -/

/-- Appends digits to a number as long as the result fits 64 bits, and counts them. -/
def gather (n : Nat) : List Char → Nat × Nat
  | [] => (n, 0)
  | d :: ds =>
    let next := 10 * n + (d.toNat - '0'.toNat)
    if next ≤ maxWord then
      let (m, count) := gather next ds
      (m, count + 1)
    else (n, 0)

/-- A double divided by `10 ^ n`.  A power beyond the range of doubles is divided off in steps. -/
def divideByPower (x : Float) (n : Nat) : Float :=
  if n ≤ 308 then x / Float.ofScientific 1 false n
  else if x == 0 then x
  else divideByPower (x / Float.ofScientific 1 false 308) (n - 308)
termination_by n

/-- A double multiplied by `10 ^ n`, unless that is out of range. -/
def multiplyByPower? (x : Float) (n : Nat) : Option Float :=
  if n ≤ 308 then (some (x * Float.ofScientific 1 false n)).filter Float.isFinite
  else if x == 0 then some x
  else none

/-- The double that the parts stand for, unless it is out of range. -/
def double? (l : Numeral) : Option Float := do
  let (significand, used) := gather 0 l.whole
  let (significand, places) := gather significand l.fraction
  let scale : Int := (l.whole.length - used : Nat) - (places : Int) + l.exponent.getD 0
  let x := Float.ofNat significand
  let y ← if scale < 0 then some (divideByPower x scale.natAbs) else multiplyByPower? x scale.natAbs
  return if l.negative then -y else y

/-- Whether an integer is kept as one: it fits 64 bits with or without a sign. -/
def fitsWord (n : Int) : Bool := -(Nat.pow 2 63 : Int) ≤ n && n ≤ maxWord

/-- The number that the parts stand for, unless it is out of range.  Negative zero is a double. -/
def value? (l : Numeral) : Option Number :=
  let n : Int := natOfDigits l.whole
  if l.fraction = [] ∧ l.exponent = none ∧ ¬ (l.negative ∧ n = 0) ∧
      fitsWord (if l.negative then -n else n) then
    some (.integer (if l.negative then -n else n))
  else l.double?.map .double

end Numeral

end Rulebook.Json
