/-
**Resolving an attribute early changes nothing.**

A condition may be given the value of its attribute before it is evaluated: the value that the data has
for it, where a literal can be written for that value, or its default where the data has nothing that
counts.  What stands in for the attribute is then compared as the attribute would have been, so whichever
conditions are treated so, the expression has the same verdict, or fails with the same error.

The conditions that are treated are chosen by their places, and a condition may stand anywhere, also
where it is never evaluated: inside another condition.  There it is only a node that has no place, and
still the same kind of node.

Main definitions:

* `Rulebook.standIn?` — the literal that may stand in for an attribute;
* `Rulebook.Expr.resolveEarly` — an expression with some of its conditions treated so.

Main results:

* `Rulebook.yield_of_standIn?` — a literal that stands in yields what the attribute yields;
* `Rulebook.Expr.verdictAt_resolveEarly` — the verdict at any place, by induction over the expression;
* `Rulebook.Expr.early_resolution_changes_nothing` — **resolving early changes nothing**.
-/

import Rulebook.Evaluation.Execution
import Rulebook.Proofs.Comparison

set_option autoImplicit false

namespace Rulebook

/-! ### Standing in -/

/-- The literal that a value can be written as: a number or a text. -/
def Json.scalar? : Json → Option Scalar
  | .number n => some (.number n.toFloat)
  | .string s => some (.string s)
  | _ => none

/-- The literal that may stand in for an attribute: its default where the data has nothing that counts,
and otherwise the value that the data has, if a literal can be written for it. -/
def standIn? (p : Policy) (data : Json) (name : String) (default : Option Scalar) : Option Scalar :=
  match (data.field? name).filter fun v => !v.countsAsAbsent p.presence with
  | none => default
  | some v => v.scalar?

/-- A value that can be written as a literal is for a condition what the literal is. -/
theorem Json.operand?_of_scalar? {v : Json} {value : Scalar} (h : v.scalar? = some value) :
    v.operand? = some (.ofScalar value) := by
  cases v with
  | number n => cases h; rfl
  | string s => cases h; rfl
  | null => cases h
  | bool b => cases h
  | array items => cases h
  | object members => cases h

/-- **A literal that stands in for an attribute yields what the attribute yields.** -/
theorem yield_of_standIn? {p : Policy} {data : Json} {name : String} {default : Option Scalar}
    {value : Scalar} (h : standIn? p data name default = some value) :
    (Expr.literal value).yield p data = (Expr.reference name default).yield p data := by
  simp only [standIn?] at h
  simp only [Expr.yield]
  cases hfield : (data.field? name).filter fun v => !v.countsAsAbsent p.presence with
  | none =>
      rw [hfield] at h
      rw [show default = some value from h, Option.elim_some]
  | some v =>
      rw [hfield] at h
      simp only [v.operand?_of_scalar? h, Option.elim_some]

/-! ### Early resolution -/

namespace Expr

/-- An operand with the literal in its place that stands in for it, if there is one. -/
def standIn (p : Policy) (data : Json) : Expr → Expr
  | reference name default =>
    (standIn? p data name default).elim (reference name default) literal
  | e => e

/-- An expression in which the left operands of the chosen conditions are resolved.  A condition is chosen
by the way to it. -/
def resolveEarly (p : Policy) (data : Json) (chosen : List Side → Bool) : Expr → Expr
  | comparison r left right =>
    let left' := left.resolveEarly p data fun way => chosen (.left :: way)
    let right' := right.resolveEarly p data fun way => chosen (.right :: way)
    comparison r (if chosen [] then left'.standIn p data else left') right'
  | logical c left right =>
    logical c (left.resolveEarly p data fun way => chosen (.left :: way))
      (right.resolveEarly p data fun way => chosen (.right :: way))
  | e => e

variable (p : Policy) (data : Json)

/-- A left operand is compared as before when a literal stands in for it. -/
theorem evaluateAgainst_standIn (path : Path) (r : Relation) (left : Expr) (right : Operand) :
    evaluateAgainst p data path r (left.standIn p data) right =
      evaluateAgainst p data path r left right := by
  cases left with
  | literal value => rfl
  | comparison r' left' right' => rfl
  | logical c left' right' => rfl
  | reference name default =>
      rw [standIn]
      cases h : standIn? p data name default with
      | none => rfl
      | some value => rw [Option.elim_some, evaluateAgainst_eq, evaluateAgainst_eq, yield_of_standIn? h]

/-- A left operand is compared as before when it is resolved inside: only a formula has an inside, and of
a formula no more than its kind is looked at. -/
theorem evaluateAgainst_resolveEarly (chosen : List Side → Bool) (path : Path) (r : Relation)
    (left : Expr) (right : Operand) :
    evaluateAgainst p data path r (left.resolveEarly p data chosen) right =
      evaluateAgainst p data path r left right := by
  cases left <;> rfl

/-- A condition holds as before when its operands are resolved. -/
theorem evaluateCondition_resolveEarly (chosen : List Side → Bool) (path : Path) (r : Relation)
    (left right : Expr) :
    ((comparison r left right).resolveEarly p data chosen).verdictAt p data path =
      evaluateCondition p data path r left right := by
  rw [resolveEarly, verdictAt]
  unfold evaluateCondition
  split
  · rfl
  · cases right with
    | reference name default => rfl
    | comparison r' left' right' => rfl
    | logical c left' right' => rfl
    | literal value =>
        show evaluateAgainst _ _ _ _ _ _ = evaluateAgainst _ _ _ _ _ _
        split
        · rw [evaluateAgainst_standIn, evaluateAgainst_resolveEarly]
        · rw [evaluateAgainst_resolveEarly]

/-- The verdict at any place is the same when conditions are resolved early. -/
theorem verdictAt_resolveEarly (e : Expr) (chosen : List Side → Bool) (path : Path) :
    (e.resolveEarly p data chosen).verdictAt p data path = e.verdictAt p data path := by
  induction e generalizing chosen path with
  | reference name default => rfl
  | literal value => rfl
  | comparison r left right =>
      exact evaluateCondition_resolveEarly p data chosen path r left right
  | logical c left right ihleft ihright =>
      simp only [resolveEarly, verdictAt, ihleft, ihright]

/-- **Resolving an attribute early changes nothing**: whichever conditions are given the values of their
attributes beforehand, the expression has the same verdict or fails with the same error. -/
theorem early_resolution_changes_nothing (chosen : List Side → Bool) (e : Expr) :
    (e.resolveEarly p data chosen).tryEvaluate p data = e.tryEvaluate p data :=
  verdictAt_resolveEarly p data e chosen .root

example :
    (logical .and (comparison .eq (reference "team" none) (literal (.string "ops")))
        (comparison .ne (reference "zone" (some (.string "eu"))) (literal (.string "us")))).resolveEarly
      .lenient (.object [("team", .string "dev")]) (fun way => way == [.left] || way == [.right]) =
    logical .and (comparison .eq (literal (.string "dev")) (literal (.string "ops")))
      (comparison .ne (literal (.string "eu")) (literal (.string "us"))) := rfl

end Expr

end Rulebook
