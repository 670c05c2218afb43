/-
**Sets of characters, given by ranges of code points.**

The properties of characters that the Unicode standard lists are long tables of ranges.  This module
holds the type of such a table and the test whether a character is in it; the tables themselves are
`Rulebook.Text.Alphabetic`, `Rulebook.Text.Numeric` and `Rulebook.Text.Printable`.

Main definitions:

* `Rulebook.CharSet` — ranges of code points in ascending order, both ends included;
* `Rulebook.CharSet.contains` — whether a character lies in one of them.
-/

set_option autoImplicit false

namespace Rulebook

/-- A set of characters: ranges of code points, both ends included, in ascending order. -/
structure CharSet where
  /-- The ranges, each by its first and its last code point. -/
  ranges : List (Nat × Nat)

namespace CharSet

/-- Whether a code point lies in one of the ranges.  The search stops at the first range that starts
above it, since the ranges ascend. -/
def covers : List (Nat × Nat) → Nat → Bool
  | [], _ => false
  | (first, last) :: rest, n => first ≤ n && (n ≤ last || covers rest n)

/-- Whether the character is in the set. -/
def contains (s : CharSet) (c : Char) : Bool := covers s.ranges c.toNat

@[simp] theorem covers_nil (n : Nat) : covers [] n = false := rfl

theorem covers_cons (first last : Nat) (rest : List (Nat × Nat)) (n : Nat) :
    covers ((first, last) :: rest) n = (first ≤ n && (n ≤ last || covers rest n)) := rfl

/-- A code point below the first range is in none. -/
theorem covers_eq_false_of_lt {first last n : Nat} {rest : List (Nat × Nat)} (h : n < first) :
    covers ((first, last) :: rest) n = false := by
  simp [covers_cons, Nat.not_le.2 h]

end CharSet

end Rulebook
