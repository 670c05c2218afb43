/-
**What a condition comes down to.**

A condition is evaluated in two steps.  First its left operand is made a scalar: a literal is one, and
an attribute gives what the data has for it, or its default where the data has nothing that counts.
This may fall short, and the policy then says what becomes of the condition.  Then the scalar is
compared with the literal on the right, either both as numbers or both as texts; a strict comparison
leaves scalars of different kinds uncompared.  Here the two steps are told apart, so that what is said
of conditions can be said of either.

Main definitions:

* `Rulebook.Json.countsAsAbsent` — the values of the data that do not count;
* `Rulebook.Shortfall` — why a left operand yields no scalar;
* `Rulebook.Expr.yield` — the scalar that a left operand yields;
* `Rulebook.Pairing` — two numbers or two texts that are compared.

Main results:

* `Rulebook.resolve_eq` — what the data says about an attribute, by what counts as absent;
* `Rulebook.evaluateAgainst_eq` — a condition by what its left operand yields;
* `Rulebook.compareOperands_eq` — a comparison by how the scalars are paired;
* `Rulebook.evaluateCondition_eq` — both steps of a condition with a literal on the right.
-/

import Rulebook.Evaluation.Condition

set_option autoImplicit false

namespace Rulebook

/-! ### The data -/

namespace Json

/-- Whether a value counts as absent: `null` always does, and where presence is a matter of truth zero,
the empty text and `false` do. -/
def countsAsAbsent (presence : Presence) : Json → Bool
  | .null => true
  | .number n => presence == .truthy && (n.toFloat == 0 || n.toFloat.isNaN)
  | .string s => presence == .truthy && s.isEmpty
  | .bool b => presence == .truthy && !b
  | .array _ => false
  | .object _ => false

/-- The scalar that a value is for a condition, unless it is `null` or a collection. -/
def operand? : Json → Option Operand
  | .number n => some (.number n.toFloat)
  | .string s => some (.text s)
  | .bool b => some (.bool b)
  | _ => none

end Json

theorem presentUnlessFalsy_eq_ite (p : Policy) (o : Operand) :
    presentUnlessFalsy p o =
      if p.presence == .truthy && o.isFalsy then .missing else .present o := by
  unfold presentUnlessFalsy
  simp only [Bool.and_eq_true, beq_iff_eq]

/-- **What the data says about an attribute**: nothing, if it has no value that counts; otherwise a scalar
or a collection. -/
theorem resolve_eq (p : Policy) (data : Json) (name : String) :
    resolve p data name =
      match (data.field? name).filter fun v => !v.countsAsAbsent p.presence with
      | none => .missing
      | some v => v.operand?.elim (.unsupported v.kind) .present := by
  rw [resolve]
  cases data.field? name with
  | none => rfl
  | some v =>
      rw [Option.filter_some]
      cases v with
      | null => rfl
      | array items => rfl
      | object members => rfl
      | number n =>
          rw [resolveValue, presentUnlessFalsy_eq_ite, Json.countsAsAbsent, Operand.isFalsy]
          cases p.presence == .truthy && (n.toFloat == 0 || n.toFloat.isNaN) <;> rfl
      | string s =>
          rw [resolveValue, presentUnlessFalsy_eq_ite, Json.countsAsAbsent, Operand.isFalsy]
          cases p.presence == .truthy && s.isEmpty <;> rfl
      | bool b =>
          rw [resolveValue, presentUnlessFalsy_eq_ite, Json.countsAsAbsent, Operand.isFalsy]
          cases p.presence == .truthy && !b <;> rfl

/-! ### The left operand -/

/-- Why a left operand yields no scalar. -/
inductive Shortfall where
  /-- The attribute is missing and has no default. -/
  | missing (name : String)
  /-- The attribute is an array or an object, of the kind named. -/
  | collection (kind : String)
  /-- It is neither an attribute nor a literal. -/
  | misplaced (e : Expr)

/-- The scalar that the left operand of a condition yields. -/
def Expr.yield (p : Policy) (data : Json) : Expr → Except Shortfall Operand
  | literal value => .ok (.ofScalar value)
  | reference name default =>
    match (data.field? name).filter fun v => !v.countsAsAbsent p.presence with
    | none => default.elim (.error (.missing name)) fun value => .ok (.ofScalar value)
    | some v => v.operand?.elim (.error (.collection v.kind)) .ok
  | e => .error (.misplaced e)

/-- What becomes of a condition at the given place whose left operand yields no scalar. -/
def Shortfall.verdict (p : Policy) (path : Path) (r : Relation) (right : Operand) :
    Shortfall → Except EvaluationError Bool
  | missing name =>
    match p.missing with
    | .failClosed => .ok false
    | .error => .error (.missingAttribute name)
  | collection kind => mismatch p r kind right.kind
  | misplaced e => misplacedVerdict p (path.child .left) e

/-- **A condition by what its left operand yields.** -/
theorem evaluateAgainst_eq (p : Policy) (data : Json) (path : Path) (r : Relation) (left : Expr)
    (right : Operand) :
    evaluateAgainst p data path r left right =
      match left.yield p data with
      | .ok o => compareOperands p r o right
      | .error lack => lack.verdict p path r right := by
  cases left with
  | literal value => rfl
  | comparison r' left' right' => rfl
  | logical c left' right' => rfl
  | reference name default =>
      simp only [evaluateAgainst, resolve_eq, Expr.yield]
      cases (data.field? name).filter fun v => !v.countsAsAbsent p.presence with
      | none => cases default <;> rfl
      | some v =>
          dsimp only
          cases v.operand? <;> rfl

/-! ### The comparison -/

/-- Two values as they are compared. -/
inductive Pairing where
  | numbers (a b : Float)
  | texts (s t : String)

/-- Whether a relation holds between two values. -/
def Pairing.holds (r : Relation) : Pairing → Bool
  | numbers a b => compareNumbers r a b
  | texts s t => compareTexts r s t

/-- How two scalars are compared: loosely, as numbers if both can be seen as numbers and otherwise as
texts; strictly, only if both are numbers or both are texts. -/
def pairing? : Coercion → Operand → Operand → Option Pairing
  | .loose, left, right =>
    match left.number?, right.number? with
    | some a, some b => some (.numbers a b)
    | _, _ => some (.texts left.asText right.asText)
  | .strict, .number a, .number b => some (.numbers a b)
  | .strict, .text s, .text t => some (.texts s t)
  | .strict, _, _ => none

/-- Loosely compared, any two scalars pair. -/
theorem exists_pairing_of_loose (left right : Operand) :
    ∃ pair, pairing? .loose left right = some pair := by
  simp only [pairing?]
  split <;> exact ⟨_, rfl⟩

/-- A scalar pairs with a literal where they are compared loosely or are of one kind. -/
theorem exists_pairing {mode : Coercion} {o : Operand} {value : Scalar}
    (h : mode = .loose ∨ o.kind = (Operand.ofScalar value).kind) :
    ∃ pair, pairing? mode o (.ofScalar value) = some pair := by
  cases mode with
  | loose => exact exists_pairing_of_loose _ _
  | strict =>
      replace h := h.resolve_left nofun
      cases o <;> cases value <;>
        first | exact ⟨_, rfl⟩ | simp [Operand.kind, Operand.ofScalar] at h

/-- **A comparison by how the scalars are paired.** -/
theorem compareOperands_eq (p : Policy) (r : Relation) (left right : Operand) :
    compareOperands p r left right =
      match pairing? p.comparison left right with
      | some pair => .ok (pair.holds r)
      | none => .error (.typeMismatch r.symbol left.kind right.kind) := by
  obtain ⟨presence, comparison, inclusive, missing⟩ := p
  cases comparison with
  | loose =>
      simp only [compareOperands, pairing?]
      cases left.number? with
      | none => rfl
      | some a => cases right.number? <;> rfl
  | strict => cases left <;> cases right <;> rfl

/-- **A condition with a literal on the right**, where the inclusive relations are evaluated: it is decided
by the pairing of what its left operand yields with the literal. -/
theorem evaluateCondition_eq {p : Policy} (h : p.inclusive = .evaluate) (data : Json) (path : Path)
    (r : Relation) (left : Expr) (value : Scalar) :
    evaluateCondition p data path r left (.literal value) =
      match left.yield p data with
      | .error lack => lack.verdict p path r (.ofScalar value)
      | .ok o =>
        match pairing? p.comparison o (.ofScalar value) with
        | some pair => .ok (pair.holds r)
        | none => .error (.typeMismatch r.symbol o.kind (Operand.ofScalar value).kind) := by
  unfold evaluateCondition
  rw [if_neg (by simp [h])]
  simp only [evaluateAgainst_eq]
  cases left.yield p data with
  | error lack => rfl
  | ok o => exact compareOperands_eq p r o _

/-- A condition whose operands pair holds when its relation holds between the pair. -/
theorem evaluateCondition_of_pairing? {p : Policy} {data : Json} {left : Expr} {o : Operand}
    {value : Scalar} {pair : Pairing} (h : p.inclusive = .evaluate) (hyield : left.yield p data = .ok o)
    (hpair : pairing? p.comparison o (.ofScalar value) = some pair) (path : Path) (r : Relation) :
    evaluateCondition p data path r left (.literal value) = .ok (pair.holds r) := by
  simp only [evaluateCondition_eq h, hyield, hpair]

end Rulebook
