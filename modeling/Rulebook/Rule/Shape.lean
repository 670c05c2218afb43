/-
**Well-formed expressions.**

An expression that arrives as JSON may have a shape that no rule text produces.  Well formed are joined
conditions, each between an attribute with a name or a literal on the left and a literal on the right.

Main definitions:

* `Rulebook.Expr.checkAt`, `Rulebook.Expr.check` — the first node, from left to right, that has no
  place where it stands.
-/

import Rulebook.Rule.Expr
import Rulebook.Rule.Error

set_option autoImplicit false

namespace Rulebook.Expr

/-- How messages call an attribute without a name. -/
def namelessAttribute : String := "空属性名"

/-- The complaint that a node has no place where it stands. -/
def misplaced (path : Path) (e : Expr) : EvaluationError := .unsupportedOperand path e.kind

/-- Checks the left operand of a condition. -/
def checkLeftOperand (path : Path) : Expr → Except EvaluationError Unit
  | reference name _ =>
    if name = "" then .error (.unsupportedOperand path namelessAttribute) else .ok ()
  | literal _ => .ok ()
  | e => .error (misplaced path e)

/-- Checks the right operand of a condition. -/
def checkRightOperand (path : Path) : Expr → Except EvaluationError Unit
  | literal _ => .ok ()
  | e => .error (misplaced path e)

/-- Checks an expression that stands at the given path. -/
def checkAt (path : Path) : Expr → Except EvaluationError Unit
  | comparison _ left right => do
    checkLeftOperand (path.child .left) left
    checkRightOperand (path.child .right) right
  | logical _ left right => do
    checkAt (path.child .left) left
    checkAt (path.child .right) right
  | e => .error (misplaced path e)

/-- Checks a whole expression. -/
def check (e : Expr) : Except EvaluationError Unit := e.checkAt .root

end Rulebook.Expr
