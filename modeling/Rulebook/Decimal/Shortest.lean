/-
**The shortest decimal that reads back.**

A finite double stands for every real number that rounds to it.  Its text is the decimal number of
the fewest digits among those reals, and of several the one nearest to the double.  Two may be equally
near, and which of them is taken then depends on where the number is written.  This module finds it by
exact arithmetic: it takes the double apart into `mantissa * 2 ^ exponent`, and asks for each power of
ten in turn, from the large to the small, whether one of its multiples rounds to the double.  The first
that does gives the digits.

Main definitions:

* `Rulebook.Binary` — a positive double as `mantissa * 2 ^ exponent`;
* `Rulebook.Binary.Rounds` — whether a decimal number rounds to it;
* `Rulebook.TieRule` — which of two decimal numbers is taken if neither is nearer;
* `Rulebook.Binary.shortest` — the digits and the power of ten of its shortest decimal.

Main results:

* `Rulebook.Binary.rounds_of_pick?` — what is picked at a power of ten rounds to the double.
-/

import Rulebook.Decimal.Numeral

set_option autoImplicit false

namespace Rulebook

/-- Which of two neighbouring decimal numbers is taken if neither is nearer. -/
inductive TieRule where
  /-- The upper. -/
  | upper
  /-- The one whose last digit is even. -/
  | even
  deriving DecidableEq, Repr

/-- Whether the upper of two is taken, given the digits of the lower. -/
def TieRule.takesUpper : TieRule → Nat → Bool
  | upper, _ => true
  | even, c => c % 2 == 1

/-- A positive finite double, `mantissa * 2 ^ exponent`. -/
structure Binary where
  /-- The significant bits as a whole number. -/
  mantissa : Nat
  /-- The power of two that they are scaled by. -/
  exponent : Int
  /-- Whether the double below is nearer than the double above, as it is at powers of two. -/
  narrowBelow : Bool
  deriving DecidableEq, Repr

namespace Binary

/-- The parts of the absolute value of a finite double, from its 64 bits: 11 bits of exponent and
52 of fraction after the sign. -/
def ofFloat (x : Float) : Binary :=
  let bits := x.toBits.toNat
  let fraction : Nat := bits % Nat.pow 2 52
  let biased : Nat := bits / Nat.pow 2 52 % Nat.pow 2 11
  if biased = 0 then ⟨fraction, -1074, false⟩
  else ⟨Nat.pow 2 52 + fraction, (biased : Int) - 1075, fraction = 0 ∧ 1 < biased⟩

/-- `base ^ e` as a numerator and a denominator. -/
def power (base : Nat) (e : Int) : Nat × Nat :=
  if e < 0 then (1, base.pow e.natAbs) else (base.pow e.natAbs, 1)

/-- `n` units in the last place of the double, measured in units of `10 ^ k`, as a fraction. -/
def scaled (b : Binary) (n : Nat) (k : Int) : Nat × Nat :=
  let two := power 2 b.exponent
  let ten := power 10 k
  (n * two.1 * ten.2, two.2 * ten.1)

/-- Whether the decimal number `c * 10 ^ k` rounds to the double.  The half-way points to its
neighbours are whole multiples of a quarter unit in its last place, and themselves round to it
exactly when its mantissa is even. -/
def Rounds (b : Binary) (c : Nat) (k : Int) : Prop :=
  let low := b.scaled (4 * b.mantissa - if b.narrowBelow then 1 else 2) k
  let high := b.scaled (4 * b.mantissa + 2) k
  if b.mantissa % 2 = 0 then low.1 ≤ 4 * c * low.2 ∧ 4 * c * high.2 ≤ high.1
  else low.1 < 4 * c * low.2 ∧ 4 * c * high.2 < high.1

instance (b : Binary) (c : Nat) (k : Int) : Decidable (b.Rounds c k) := by
  unfold Rounds
  dsimp only
  infer_instance

/-- The multiple of `10 ^ k` that is nearest to the double among those that round to it.  Only the
multiple below and the one above can be. -/
def pick? (tie : TieRule) (b : Binary) (k : Int) : Option Nat :=
  let value := b.scaled b.mantissa k
  let c := value.1 / value.2
  let excess := 2 * (value.1 - c * value.2)
  if b.Rounds c k then
    if b.Rounds (c + 1) k ∧ (value.2 < excess ∨ value.2 = excess ∧ tie.takesUpper c) then
      some (c + 1)
    else some c
  else if b.Rounds (c + 1) k then some (c + 1)
  else none

/-- What is picked at a power of ten rounds to the double. -/
theorem rounds_of_pick? {tie : TieRule} {b : Binary} {k : Int} {c : Nat}
    (h : b.pick? tie k = some c) :
    b.Rounds c k := by
  simp only [pick?] at h
  split at h
  · split at h
    · next h' => cases h; exact h'.1
    · next h' _ => cases h; exact h'
  · split at h
    · next h' => cases h; exact h'
    · cases h

/-- The first power of ten, from `10 ^ k` downward, with a multiple that rounds to the double. -/
def search (tie : TieRule) (b : Binary) : Nat → Int → Nat × Int
  | 0, k => (0, k)
  | steps + 1, k =>
    match b.pick? tie k with
    | some c => (c, k)
    | none => search tie b steps (k - 1)

/-- The digits and the power of ten of the shortest decimal of the double.  The search starts above
the double and can go down to `10 ^ -1074`, of which every double is a multiple. -/
def shortest (tie : TieRule) (b : Binary) : Nat × Int :=
  let top := digitCount (b.mantissa * Nat.pow 2 b.exponent.toNat)
  b.search tie (top + 1076) top

end Binary

end Rulebook
