/-
**Evaluating a condition.**

A condition compares an operand with a literal.  Its left operand is a literal or an attribute of the
data, whose value may be missing or of a kind that does not compare.

Main definitions:

* `Rulebook.Resolution`, `Rulebook.resolve` — what the data says about an attribute;
* `Rulebook.evaluateCondition` — whether a condition holds.
-/

import Rulebook.Evaluation.Lookup
import Rulebook.Evaluation.Operand

set_option autoImplicit false

namespace Rulebook

/-- What the data says about an attribute. -/
inductive Resolution where
  | present (value : Operand)
  | missing
  /-- It is an array or object, of the kind named. -/
  | unsupported (kind : String)

/-- A value that is present unless it counts as absent under the policy. -/
def presentUnlessFalsy (p : Policy) (o : Operand) : Resolution :=
  if p.presence = .truthy ∧ o.isFalsy then .missing else .present o

/-- What a value of the data is for a condition. -/
def resolveValue (p : Policy) : Option Json → Resolution
  | none => .missing
  | some .null => .missing
  | some (.number n) => presentUnlessFalsy p (.number n.toFloat)
  | some (.string s) => presentUnlessFalsy p (.text s)
  | some (.bool b) => presentUnlessFalsy p (.bool b)
  | some (.array items) => .unsupported (Json.array items).kind
  | some (.object members) => .unsupported (Json.object members).kind

/-- What the data says about an attribute. -/
def resolve (p : Policy) (data : Json) (name : String) : Resolution :=
  resolveValue p (data.field? name)

/-- The verdict on a node that has no place where it stands, such as a formula in a condition or an
operand in place of a formula: an error under a strict policy, and otherwise a verdict against. -/
def misplacedVerdict (p : Policy) (path : Path) (e : Expr) : Except EvaluationError Bool :=
  if p.rejectsUnsupported then .error (.unsupportedOperand path e.kind) else .ok false

/-- Whether a condition with the given right operand holds.  `path` is the place of the condition. -/
def evaluateAgainst (p : Policy) (data : Json) (path : Path) (r : Relation) (left : Expr)
    (right : Operand) : Except EvaluationError Bool :=
  match left with
  | .literal value => compareOperands p r (.ofScalar value) right
  | .reference name default =>
    match resolve p data name with
    | .present value => compareOperands p r value right
    | .unsupported kind => mismatch p r kind right.kind
    | .missing =>
      match default with
      | some value => compareOperands p r (.ofScalar value) right
      | none =>
        match p.missing with
        | .failClosed => .ok false
        | .error => .error (.missingAttribute name)
  | left => misplacedVerdict p (path.child .left) left

/-- Whether a condition holds.  `path` is the place of the condition. -/
def evaluateCondition (p : Policy) (data : Json) (path : Path) (r : Relation) (left right : Expr) :
    Except EvaluationError Bool :=
  if r.isInclusive ∧ p.inclusive = .legacyFalse then .ok false
  else
    match right with
    | .literal value => evaluateAgainst p data path r left (.ofScalar value)
    | right => misplacedVerdict p (path.child .right) right

end Rulebook
