/-
**Looking up attributes in data.**

An attribute names a member of the data, or a way into it: `user.tags.0` is the first item of the
member `tags` of the member `user`.  A member whose key is the whole name comes first.

Main definitions:

* `Rulebook.segments` — the parts of a dotted name;
* `Rulebook.indexOf?` — the number that a part names in an array;
* `Rulebook.Json.follow?` — the value at the end of a way;
* `Rulebook.Json.field?` — the value of an attribute.

Main results:

* `Rulebook.segments_append` — a dot between two names puts their parts together;
* `Rulebook.Json.follow?_append` — ways compose.
-/

import Rulebook.Decimal.Numeral
import Rulebook.Json.Basic

set_option autoImplicit false

namespace Rulebook

/-- The parts of a name between its dots; a name without dots is its only part. -/
def segments (cs : List Char) : List (List Char) := cs.splitOn '.'

/-- A dot between two names puts their parts together. -/
theorem segments_append (cs ds : List Char) :
    segments (cs ++ '.' :: ds) = segments cs ++ segments ds :=
  List.splitOn_append_cons_self cs ds

/-- The number that a row of ASCII digits spells, if it is below a bound; a plus sign may stand
before it. -/
def indexOf? (bound : Nat) (cs : List Char) : Option Nat :=
  let digits := match cs with
    | '+' :: ds => ds
    | ds => ds
  if digits ≠ [] ∧ digits.all Char.isDigit ∧ natOfDigits digits < bound then
    some (natOfDigits digits)
  else none

namespace Json

/-- The value one step into an object, by its key, or into an array, by its number. -/
def step? (v : Json) (segment : List Char) : Option Json :=
  match v with
  | .object members => members.lookup (String.ofList segment)
  | .array items => (indexOf? (Nat.pow 2 64) segment).bind fun n => items[n]?
  | _ => none

/-- The value at the end of a way. -/
def follow? (v : Json) : List (List Char) → Option Json
  | [] => some v
  | s :: rest =>
    match v.step? s with
    | some w => w.follow? rest
    | none => none

/-- The value of an attribute: the member under its whole name, or else the value at the end of the way
that its parts name. -/
def field? (v : Json) (name : String) : Option Json :=
  match v.get? name with
  | some w => some w
  | none => v.follow? (segments name.toList)

/-- Ways compose. -/
theorem follow?_append (v : Json) (as bs : List (List Char)) :
    v.follow? (as ++ bs) = (v.follow? as).bind fun w => w.follow? bs := by
  induction as generalizing v with
  | nil => simp [follow?]
  | cons a as ih =>
    simp only [List.cons_append, follow?]
    cases v.step? a with
    | none => rfl
    | some w => exact ih w

end Json

end Rulebook
