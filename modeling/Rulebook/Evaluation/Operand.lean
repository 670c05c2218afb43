/-
**Operands and how they compare.**

When a condition is evaluated its operands have become values: numbers, texts or truth values.  Two
values compare as numbers when both can be seen as numbers, and as texts otherwise; a strict policy
compares numbers with numbers and texts with texts only.

Main definitions:

* `Rulebook.Operand` — the value of an operand;
* `Rulebook.Operand.number?`, `Rulebook.Operand.text` — its two views;
* `Rulebook.compareNumbers`, `Rulebook.compareTexts` — the relations on numbers and on texts.
-/

import Rulebook.Evaluation.Policy
import Rulebook.Rule.Expr
import Rulebook.Rule.Error

set_option autoImplicit false

namespace Rulebook

/-- The value of an operand. -/
inductive Operand where
  | number (x : Float)
  | text (s : String)
  | bool (b : Bool)

namespace Operand

/-- The value of a literal. -/
def ofScalar : Scalar → Operand
  | .number x => .number x
  | .string s => .text s

/-- The kind of a value, as messages name it. -/
def kind : Operand → String
  | number _ => "number"
  | text _ => "string"
  | bool _ => "boolean"

/-- Whether a value counts as absent where presence is a matter of truth. -/
def isFalsy : Operand → Bool
  | number x => x == 0 || x.isNaN
  | text s => s.isEmpty
  | bool b => !b

/-- A value seen as a number, if it can be: a text by the number it spells, a truth value as one or
zero. -/
def number? : Operand → Option Float
  | number x => some x
  | text s => readFinite? s.toList
  | bool b => some (if b then 1 else 0)

/-- A value seen as a text. -/
def asText : Operand → String
  | number x => decimalText x
  | text s => s
  | bool b => toString b

end Operand

/-! ### Relations -/

/-- The distance from one to the next double, `2 ^ -52`: numbers that are nearer count as equal. -/
def tolerance : Float := Float.ofBits 0x3CB0000000000000

/-- A relation between numbers.  Equality allows for a tolerance, order does not. -/
def compareNumbers (r : Relation) (a b : Float) : Bool :=
  match r with
  | .gt => b < a
  | .lt => a < b
  | .ge => b ≤ a
  | .le => a ≤ b
  | .eq => (a - b).abs < tolerance
  | .ne => tolerance ≤ (a - b).abs

/-- A relation between texts, which are ordered by their code points. -/
def compareTexts (r : Relation) (a b : String) : Bool :=
  match r with
  | .gt => b < a
  | .lt => a < b
  | .ge => b ≤ a
  | .le => a ≤ b
  | .eq => a == b
  | .ne => a != b

/-- A value that does not compare: an error under a strict policy, otherwise a condition that does not
hold. -/
def mismatch (p : Policy) (r : Relation) (left right : String) : Except EvaluationError Bool :=
  if p.rejectsUnsupported then .error (.typeMismatch r.symbol left right) else .ok false

/-- Whether a relation holds between two values. -/
def compareOperands (p : Policy) (r : Relation) (left right : Operand) :
    Except EvaluationError Bool :=
  match p.comparison with
  | .loose =>
    match left.number?, right.number? with
    | some a, some b => .ok (compareNumbers r a b)
    | _, _ => .ok (compareTexts r left.asText right.asText)
  | .strict =>
    match left, right with
    | .number a, .number b => .ok (compareNumbers r a b)
    | .text a, .text b => .ok (compareTexts r a b)
    | _, _ => mismatch p r left.kind right.kind

end Rulebook
