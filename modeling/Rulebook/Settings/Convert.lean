/-
**Settings as values of a kind.**

A setting is written as a value of one kind and may be wanted as another: a switch may be a word, a
port may stand in quotes.  Lists and tables are never converted.

Main definitions:

* `Rulebook.Setting.toText?`, `Rulebook.Setting.toBool?`, `Rulebook.Setting.toNat?` — the conversions;
* `Rulebook.Setting.choose?` — one of several names;
* `Rulebook.roundToWord` — the whole number of 64 bits nearest to a double.
-/

import Rulebook.Decimal.Layout
import Rulebook.Evaluation.Lookup
import Rulebook.Toml.Setting

set_option autoImplicit false

namespace Rulebook

/-- The whole number of 64 bits nearest to a double, halves away from zero.  What is below zero or no
number becomes zero, what is too large becomes the largest. -/
def roundToWord (x : Float) : Nat :=
  if x.isNaN || x < 0 then 0
  else if x.isInf then maxWord
  else
    let b := Binary.ofFloat x
    let nearest :=
      if 0 ≤ b.exponent then b.mantissa * Nat.pow 2 b.exponent.toNat
      else (2 * b.mantissa + Nat.pow 2 b.exponent.natAbs) / Nat.pow 2 (b.exponent.natAbs + 1)
    min nearest maxWord

/-- A word in lower case, as far as it is ASCII.  No word that is compared with holds another
character. -/
def lowerWord (s : String) : String := String.ofList (s.toList.map Char.toLower)

namespace Setting

/-- The words for yes. -/
def trueWords : List String := ["true", "on", "yes"]

/-- The words for no. -/
def falseWords : List String := ["false", "off", "no"]

/-- A setting as a text. -/
def toText? : Setting → Option String
  | bool b => some (toString b)
  | integer n => some (toString n)
  | float x => some (decimalText x)
  | text s => some s
  | _ => none

/-- A setting as a switch. -/
def toBool? : Setting → Option Bool
  | bool b => some b
  | integer n => some (n != 0)
  | float x => some (x != 0)
  | text s =>
    let word := lowerWord s
    if word = "1" ∨ word ∈ trueWords then some true
    else if word = "0" ∨ word ∈ falseWords then some false
    else none
  | _ => none

/-- A setting as a whole number that is not negative and of at most 64 bits. -/
def toWord? : Setting → Option Nat
  | bool b => some b.toNat
  | integer n => if 0 ≤ n then some n.toNat else none
  | float x => some (roundToWord x)
  | text s =>
    let word := lowerWord s
    if word ∈ trueWords then some 1
    else if word ∈ falseWords then some 0
    else indexOf? (maxWord + 1) s.toList
  | _ => none

/-- A setting as a whole number below a bound. -/
def toNat? (bound : Nat) (v : Setting) : Option Nat := v.toWord?.filter (· < bound)

/-- A setting as one of several names.  A table with the name as its only key stands for it, too. -/
def choose? {τ : Type} (names : List (String × τ)) : Setting → Option τ
  | text s => names.lookup s
  | table [(key, _)] => names.lookup key
  | _ => none

/-- The part of a setting with a name or, in a list, at a place; nothing if it is not there.  Only
tables and lists have parts. -/
def part? (v : Setting) (place : Nat) (name : String) : Option (Option Setting) :=
  match v with
  | table ms => some (ms.lookup name)
  | list items => some items[place]?
  | _ => none

/-- A part of a setting, converted, or what holds if it is not there. -/
def partOr? {τ : Type} (v : Setting) (place : Nat) (name : String) (convert : Setting → Option τ)
    (absent : τ) : Option τ :=
  match v.part? place name with
  | none => none
  | some none => some absent
  | some (some w) => convert w

end Setting

end Rulebook
