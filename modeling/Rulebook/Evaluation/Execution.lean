/-
**Evaluating an expression.**

Every condition of an expression is evaluated, from left to right, even when those before it already
decide the verdict; the first that fails with an error decides the error.  An execution also records
what it saw.

Main definitions:

* `Rulebook.Expr.verdictAt`, `Rulebook.Expr.tryEvaluate` — the verdict, or an error;
* `Rulebook.Expr.evaluate`, `Rulebook.Expr.holds` — the verdict, an error counting as a verdict
  against, under a given policy and under the one that is followed by default;
* `Rulebook.Observation`, `Rulebook.Expr.observeAt` — what an execution sees at each node;
* `Rulebook.Outcome`, `Rulebook.Expr.execute` — the verdict with the conditions that matched and, when
  asked for, a trace.
-/

import Rulebook.Evaluation.Condition

set_option autoImplicit false

namespace Rulebook

namespace Expr

/-! ### Verdicts -/

/-- The verdict on an expression that stands at the given place. -/
def verdictAt (p : Policy) (data : Json) (path : Path) : Expr → Except EvaluationError Bool
  | logical c left right => do
    let l ← left.verdictAt p data (path.child .left)
    let r ← right.verdictAt p data (path.child .right)
    return c.apply l r
  | comparison r left right => evaluateCondition p data path r left right
  | e => misplacedVerdict p path e

/-- The verdict on an expression, or an error when the policy asks for one. -/
def tryEvaluate (p : Policy) (data : Json) (e : Expr) : Except EvaluationError Bool :=
  e.verdictAt p data .root

/-- The verdict on an expression; an error counts as a verdict against. -/
def evaluate (p : Policy) (data : Json) (e : Expr) : Bool :=
  match e.tryEvaluate p data with
  | .ok verdict => verdict
  | .error _ => false

/-- The verdict on an expression under the policy that is followed unless another is chosen. -/
def holds (data : Json) (e : Expr) : Bool := e.evaluate default data

end Expr

/-! ### Observations -/

/-- What an execution sees at a node. -/
inductive Observation where
  /-- Two expressions joined, with their verdicts. -/
  | joined (path : Path) (c : Connective) (left right : Bool)
  /-- A condition, with its verdict. -/
  | condition (path : Path) (e : Expr) (verdict : Bool)
  /-- A node that is no formula. -/
  | leaf (path : Path) (e : Expr)

namespace Observation

/-- How a trace words a verdict. -/
def verdictText (b : Bool) : String := if b then "MATCHED" else "NOT_MATCHED"

/-- The line of the trace. -/
def render : Observation → String
  | joined path c l r =>
    path.render ++ ": " ++ c.keyword ++ " (" ++ toString l ++ ", " ++ toString r ++ ") => " ++
      verdictText (c.apply l r)
  | condition path e verdict =>
    path.render ++ ": " ++ e.render ++ " => " ++ verdictText verdict
  | leaf path e => path.render ++ ": 不支持的节点 " ++ e.kind ++ " => " ++ verdictText false

/-- The condition that matched, with its place. -/
def matched? : Observation → Option String
  | condition path e true => some (path.render ++ ": " ++ e.render)
  | _ => none

end Observation

/-- The result of an execution. -/
structure Outcome where
  matched : Bool
  /-- The conditions that hold, with their places, from left to right. -/
  matchedConditions : List String
  /-- What was seen at each node, children before their parent; empty unless asked for. -/
  trace : List String
  deriving DecidableEq, Repr

namespace Expr

/-- The verdict on an expression that stands at the given place, and what is seen on the way, children
before their parent. -/
def observeAt (p : Policy) (data : Json) (path : Path) :
    Expr → Except EvaluationError (Bool × List Observation)
  | logical c left right => do
    let (l, before) ← left.observeAt p data (path.child .left)
    let (r, after) ← right.observeAt p data (path.child .right)
    return (c.apply l r, before ++ after ++ [.joined path c l r])
  | comparison r left right => do
    let verdict ← evaluateCondition p data path r left right
    return (verdict, [.condition path (.comparison r left right) verdict])
  | e => do
    let verdict ← misplacedVerdict p path e
    return (verdict, [.leaf path e])

/-- Evaluates an expression and reports on it; `traced` asks for a trace. -/
def execute (p : Policy) (data : Json) (traced : Bool) (e : Expr) :
    Except EvaluationError Outcome := do
  let (matched, seen) ← e.observeAt p data .root
  return ⟨matched, seen.filterMap Observation.matched?,
    if traced then seen.map Observation.render else []⟩

end Expr

end Rulebook
