/-
**Evaluation at a place.**

The evaluator carries the place of the node at hand and uses it for one thing only: to say where
something was seen.  So evaluating the same expression at another place gives the same verdict, and
errors and observations that differ in their places alone.  Moreover a well-formed expression never
fails in a way that mentions a place.

Main definitions:

* `Rulebook.Path.along`, `Rulebook.Path.under` — the end of a way, and a place moved below another;
* `Rulebook.EvaluationError.under`, `Rulebook.Observation.under` — what is said of a moved place.

Main results:

* `Rulebook.Expr.verdictAt_under`, `Rulebook.Expr.observeAt_under` — evaluation commutes with moving;
* `Rulebook.Expr.verdictAt_eq_map_observeAt` — the verdict is the one that is observed;
* `Rulebook.Expr.WellFormed.mapError_verdictAt` — the errors of a well-formed expression do not
  mention a place.
-/

import Rulebook.Evaluation.Execution
import Rulebook.Proofs.Fallible
import Rulebook.Proofs.WellFormed

set_option autoImplicit false

namespace Rulebook

/-! ### Moved places -/

/-- The place at the end of a way that starts at `base`. -/
def Path.along (base : Path) (way : List Side) : Path := ⟨base.start, base.steps ++ way⟩

@[simp] theorem Path.steps_along (base : Path) (way : List Side) :
    (base.along way).steps = base.steps ++ way := rfl

@[simp] theorem Path.along_nil (base : Path) : base.along [] = base := by simp [Path.along]

@[simp] theorem Path.along_cons (base : Path) (s : Side) (way : List Side) :
    base.along (s :: way) = (base.child s).along way := by
  simp [Path.along, Path.child]

/-- The place `p`, its way continued from `base`. -/
def Path.under (base p : Path) : Path := base.along p.steps

@[simp] theorem Path.under_root (base : Path) : base.under .root = base := Path.along_nil base

@[simp] theorem Path.child_under (base p : Path) (s : Side) :
    (base.under p).child s = base.under (p.child s) := by
  simp [Path.under, Path.along, Path.child]

theorem Path.under_under (a b p : Path) : a.under (b.under p) = (a.under b).under p := by
  simp [Path.under, Path.along]

/-- What an error says of a moved place. -/
def EvaluationError.under (base : Path) : EvaluationError → EvaluationError
  | typeMismatch operator left right => typeMismatch operator left right
  | missingAttribute name => missingAttribute name
  | unsupportedOperand path found => unsupportedOperand (base.under path) found

/-- What is seen at a moved place. -/
def Observation.under (base : Path) : Observation → Observation
  | joined path c left right => joined (base.under path) c left right
  | condition path e verdict => condition (base.under path) e verdict
  | leaf path e => leaf (base.under path) e

theorem Observation.under_under (a b : Path) (o : Observation) :
    (o.under b).under a = o.under (a.under b) := by
  cases o <;> simp [Observation.under, Path.under_under]

/-! ### Conditions -/

section Conditions

variable (p : Policy) (data : Json) (base path : Path)

theorem mapError_mismatch (r : Relation) (left right : String) :
    (mismatch p r left right).mapError (.under base) = mismatch p r left right := by
  unfold mismatch
  split <;> rfl

theorem mapError_compareOperands (r : Relation) (left right : Operand) :
    (compareOperands p r left right).mapError (.under base) = compareOperands p r left right := by
  unfold compareOperands
  split
  · split <;> rfl
  · split
    · rfl
    · rfl
    · exact mapError_mismatch p base r _ _

theorem misplacedVerdict_under (e : Expr) :
    misplacedVerdict p (base.under path) e =
      (misplacedVerdict p path e).mapError (.under base) := by
  unfold misplacedVerdict
  split <;> rfl

theorem evaluateAgainst_under (r : Relation) (left : Expr) (right : Operand) :
    evaluateAgainst p data (base.under path) r left right =
      (evaluateAgainst p data path r left right).mapError (.under base) := by
  unfold evaluateAgainst
  split
  · exact (mapError_compareOperands p base r _ _).symm
  · split
    · exact (mapError_compareOperands p base r _ _).symm
    · exact (mapError_mismatch p base r _ _).symm
    · split
      · exact (mapError_compareOperands p base r _ _).symm
      · split <;> rfl
  · rw [Path.child_under]
    exact misplacedVerdict_under p base _ _

/-- A condition holds at a moved place as it does at the place itself. -/
theorem evaluateCondition_under (r : Relation) (left right : Expr) :
    evaluateCondition p data (base.under path) r left right =
      (evaluateCondition p data path r left right).mapError (.under base) := by
  unfold evaluateCondition
  split
  · rfl
  · split
    · exact evaluateAgainst_under p data base path r left _
    · rw [Path.child_under]
      exact misplacedVerdict_under p base _ _

end Conditions

/-! ### Expressions -/

namespace Expr

variable (p : Policy) (data : Json)

/-- **The verdict does not depend on the place**, and an error only by the place that it mentions. -/
theorem verdictAt_under (base path : Path) (e : Expr) :
    e.verdictAt p data (base.under path) =
      (e.verdictAt p data path).mapError (.under base) := by
  induction e generalizing path with
  | reference name default => exact misplacedVerdict_under p base path _
  | literal value => exact misplacedVerdict_under p base path _
  | comparison r left right _ _ => exact evaluateCondition_under p data base path r left right
  | logical c left right ihl ihr =>
      -- the right child is not looked at once the left one has failed
      simp only [verdictAt, Path.child_under, ihl, ihr]
      cases left.verdictAt p data (path.child .left) with
      | error e => rfl
      | ok l => cases right.verdictAt p data (path.child .right) <;> rfl

/-- What an execution gives at a moved place. -/
def relocated (base : Path) (r : Except EvaluationError (Bool × List Observation)) :
    Except EvaluationError (Bool × List Observation) :=
  (r.map fun s => (s.1, s.2.map (.under base))).mapError (.under base)

/-- **What is seen does not depend on the place**, but for the places that are told. -/
theorem observeAt_under (base path : Path) (e : Expr) :
    e.observeAt p data (base.under path) = relocated base (e.observeAt p data path) := by
  induction e generalizing path with
  | reference name default =>
      simp only [observeAt, misplacedVerdict_under]
      cases misplacedVerdict p path (reference name default) <;> rfl
  | literal value =>
      simp only [observeAt, misplacedVerdict_under]
      cases misplacedVerdict p path (literal value) <;> rfl
  | comparison r left right _ _ =>
      simp only [observeAt, evaluateCondition_under]
      cases evaluateCondition p data path r left right <;> rfl
  | logical c left right ihl ihr =>
      simp only [observeAt, Path.child_under, ihl, ihr]
      cases left.observeAt p data (path.child .left) with
      | error e => rfl
      | ok l =>
          cases right.observeAt p data (path.child .right) with
          | error e => rfl
          | ok r =>
              refine congrArg Except.ok (Prod.ext rfl ?_)
              simp [Observation.under]

/-- The verdict is the one that is observed. -/
theorem verdictAt_eq_map_observeAt (path : Path) (e : Expr) :
    e.verdictAt p data path = (e.observeAt p data path).map Prod.fst := by
  induction e generalizing path with
  | reference name default =>
      simp only [verdictAt, observeAt]
      cases misplacedVerdict p path (reference name default) <;> rfl
  | literal value =>
      simp only [verdictAt, observeAt]
      cases misplacedVerdict p path (literal value) <;> rfl
  | comparison r left right _ _ =>
      simp only [verdictAt, observeAt]
      cases evaluateCondition p data path r left right <;> rfl
  | logical c left right ihl ihr =>
      simp only [verdictAt, observeAt, ihl, ihr]
      cases left.observeAt p data (path.child .left) with
      | error e => rfl
      | ok l => cases right.observeAt p data (path.child .right) <;> rfl

variable {p data}

/-- An evaluation has the verdict that is observed. -/
theorem tryEvaluate_eq_ok_iff {e : Expr} {v : Bool} :
    e.tryEvaluate p data = .ok v ↔ ∃ r, e.observeAt p data .root = .ok r ∧ r.1 = v := by
  rw [tryEvaluate, verdictAt_eq_map_observeAt]
  exact map_eq_ok_iff

/-! ### Well-formed expressions -/

theorem mapError_evaluateAgainst (base path : Path) (r : Relation) {left : Expr}
    (hleft : left.IsOperand) (right : Operand) :
    (evaluateAgainst p data path r left right).mapError (.under base) =
      evaluateAgainst p data path r left right := by
  cases hleft with
  | literal value => exact mapError_compareOperands p base r _ _
  | @reference name default _ =>
      simp only [evaluateAgainst]
      split
      · exact mapError_compareOperands p base r _ _
      · exact mapError_mismatch p base r _ _
      · split
        · exact mapError_compareOperands p base r _ _
        · split <;> rfl

/-- The errors of a well-formed expression do not mention a place. -/
theorem WellFormed.mapError_verdictAt {e : Expr} (h : e.WellFormed) (p : Policy) (data : Json)
    (base path : Path) :
    (e.verdictAt p data path).mapError (.under base) = e.verdictAt p data path := by
  induction h generalizing path with
  | condition r hleft value =>
      rw [verdictAt, evaluateCondition]
      split
      · rfl
      · exact mapError_evaluateAgainst base path r hleft _
  | @joined c left right _ _ ihl ihr =>
      have hl := ihl (path.child .left)
      have hr := ihr (path.child .right)
      rw [verdictAt]
      cases hleft : left.verdictAt p data (path.child .left) with
      | error e => rw [hleft] at hl; exact congrArg Except.error (Except.error.inj hl)
      | ok l =>
          cases hright : right.verdictAt p data (path.child .right) with
          | error e => rw [hright] at hr; exact congrArg Except.error (Except.error.inj hr)
          | ok r => rfl

/-- A well-formed expression has the same verdict at every place. -/
theorem WellFormed.verdictAt_under {e : Expr} (h : e.WellFormed) (p : Policy) (data : Json)
    (base path : Path) :
    e.verdictAt p data (base.under path) = e.verdictAt p data path := by
  rw [Expr.verdictAt_under, h.mapError_verdictAt]

/-- What is seen at a moved well-formed expression: the same, at the moved places. -/
theorem WellFormed.observeAt_under {e : Expr} (h : e.WellFormed) (p : Policy) (data : Json)
    (base path : Path) :
    e.observeAt p data (base.under path) =
      (e.observeAt p data path).map fun s => (s.1, s.2.map (.under base)) := by
  have hverdict := h.mapError_verdictAt p data base path
  rw [verdictAt_eq_map_observeAt] at hverdict
  rw [Expr.observeAt_under, relocated]
  cases hseen : e.observeAt p data path with
  | error error =>
      rw [hseen] at hverdict
      exact congrArg Except.error (Except.error.inj hverdict)
  | ok s => rfl

end Expr

end Rulebook
