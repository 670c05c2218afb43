/-
**Why an evaluation has no verdict.**

An evaluation fails only as its policy asks for: values and nodes that do not fit are errors under a
strict comparison, a missing attribute where missing data is an error.  A policy that asks for neither
forgives everything, and every expression of any shape has a verdict under it.  The errors of a
well-formed expression are about its data alone, never about a misplaced node.

Main definitions:

* `Rulebook.EvaluationError.AskedFor` — the errors that a policy asks for;
* `Rulebook.Policy.Forgives` — a policy that asks for none;
* `Rulebook.LeftError`, `Rulebook.ConditionError` — the errors of a condition, with what makes them.

Main results:

* `Rulebook.conditionError_of_evaluateCondition` — a condition has no other errors;
* `Rulebook.Expr.failsAsAsked_verdictAt` — an evaluation fails only as its policy asks for;
* `Rulebook.Expr.exists_verdictAt_eq_ok` — **under a forgiving policy every expression has a verdict**;
* `Rulebook.Expr.WellFormed.ne_unsupportedOperand` — a well-formed expression has no misplaced node.
-/

import Rulebook.Proofs.Relocation

set_option autoImplicit false

namespace Rulebook

/-- The errors that a policy asks for. -/
def EvaluationError.AskedFor (p : Policy) : EvaluationError → Prop
  | typeMismatch _ _ _ => p.comparison = .strict
  | missingAttribute _ => p.missing = .error
  | unsupportedOperand _ _ => p.comparison = .strict

/-- A policy that asks for no error: values of all kinds compare, and what is missing fails its
condition. -/
structure Policy.Forgives (p : Policy) : Prop where
  comparison : p.comparison = .loose
  missing : p.missing = .failClosed

theorem Policy.Forgives.not_askedFor {p : Policy} (h : p.Forgives) (error : EvaluationError) :
    ¬ error.AskedFor p := by
  obtain ⟨hcomparison, hmissing⟩ := h
  cases error <;> simp [EvaluationError.AskedFor, hcomparison, hmissing]

theorem Policy.forgives_lenient : Policy.lenient.Forgives := ⟨rfl, rfl⟩

@[simp] theorem Policy.rejectsUnsupported_iff {p : Policy} :
    p.rejectsUnsupported = true ↔ p.comparison = .strict := beq_iff_eq

/-! ### Failing as asked -/

/-- A computation whose only errors are those that the policy asks for. -/
def FailsAsAsked {α : Type} (p : Policy) (x : Except EvaluationError α) : Prop :=
  ∀ error, x = .error error → error.AskedFor p

section FailsAsAsked

variable {α β : Type} {p : Policy}

theorem failsAsAsked_ok (a : α) : FailsAsAsked p (.ok a) := fun _ h => nomatch h

theorem failsAsAsked_error {error : EvaluationError} (h : error.AskedFor p) :
    FailsAsAsked p (.error error : Except EvaluationError α) := by
  intro other hother
  cases hother
  exact h

theorem FailsAsAsked.bind {x : Except EvaluationError α} {f : α → Except EvaluationError β}
    (hx : FailsAsAsked p x) (hf : ∀ a, FailsAsAsked p (f a)) : FailsAsAsked p (x >>= f) := by
  cases x with
  | error error => exact failsAsAsked_error (hx error rfl)
  | ok a => exact hf a

theorem Policy.Forgives.exists_eq_ok (hp : p.Forgives) {x : Except EvaluationError α}
    (hx : FailsAsAsked p x) : ∃ a, x = .ok a := by
  cases x with
  | error error => exact absurd (hx error rfl) (hp.not_askedFor error)
  | ok a => exact ⟨a, rfl⟩

end FailsAsAsked

/-! ### The errors of a condition -/

/-- The errors of a condition with a value on its right, each with what makes it one. -/
inductive LeftError (p : Policy) (path : Path) (r : Relation) (left : Expr) : EvaluationError → Prop
  | mismatch (hstrict : p.comparison = .strict) (kind kind' : String) :
      LeftError p path r left (.typeMismatch r.symbol kind kind')
  | missing (hmissing : p.missing = .error) {name : String} (hleft : left = .reference name none) :
      LeftError p path r left (.missingAttribute name)
  | misplaced (hstrict : p.comparison = .strict) (hleft : left.isFormula = true) :
      LeftError p path r left (.unsupportedOperand (path.child .left) left.kind)

/-- The errors of a condition: those of its left operand, or that there is no value on its right. -/
inductive ConditionError (p : Policy) (path : Path) (r : Relation) (left right : Expr) :
    EvaluationError → Prop
  | left {error : EvaluationError} (h : LeftError p path r left error) :
      ConditionError p path r left right error
  | right (hstrict : p.comparison = .strict) (hright : ∀ value, right ≠ .literal value) :
      ConditionError p path r left right (.unsupportedOperand (path.child .right) right.kind)

section Errors

variable {p : Policy} {data : Json} {path : Path} {r : Relation} {error : EvaluationError}

/-- What is rejected under a strict comparison counts as `b` under any other. -/
theorem eq_of_reject {error' : EvaluationError} {b : Bool}
    (h : (if p.rejectsUnsupported then .error error' else .ok b) = Except.error error) :
    p.comparison = .strict ∧ error' = error := by
  split at h
  · next hrejects => exact ⟨Policy.rejectsUnsupported_iff.1 hrejects, Except.error.inj h⟩
  · cases h

theorem leftError_of_compareOperands {left : Expr} {a b : Operand}
    (h : compareOperands p r a b = .error error) : LeftError p path r left error := by
  unfold compareOperands at h
  split at h
  · split at h <;> cases h
  · split at h
    · cases h
    · cases h
    · obtain ⟨hstrict, rfl⟩ := eq_of_reject h
      exact .mismatch hstrict _ _

/-- A comparison with a value has no other errors. -/
theorem leftError_of_evaluateAgainst {left : Expr} {right : Operand}
    (h : evaluateAgainst p data path r left right = .error error) : LeftError p path r left error := by
  unfold evaluateAgainst at h
  split at h
  · exact leftError_of_compareOperands h
  · split at h
    · exact leftError_of_compareOperands h
    · obtain ⟨hstrict, rfl⟩ := eq_of_reject h
      exact .mismatch hstrict _ _
    · split at h
      · exact leftError_of_compareOperands h
      · split at h
        · cases h
        · next hmissing =>
            cases h
            exact .missing hmissing rfl
  · next hliteral hreference =>
      obtain ⟨hstrict, rfl⟩ := eq_of_reject h
      refine .misplaced hstrict ?_
      cases left with
      | reference name default => exact absurd rfl (hreference name default)
      | literal value => exact absurd rfl (hliteral value)
      | comparison r' left right => rfl
      | logical c left right => rfl

/-- **A condition has no other errors.** -/
theorem conditionError_of_evaluateCondition {left right : Expr}
    (h : evaluateCondition p data path r left right = .error error) :
    ConditionError p path r left right error := by
  unfold evaluateCondition at h
  split at h
  · cases h
  · split at h
    · exact .left (leftError_of_evaluateAgainst h)
    · next hliteral =>
        obtain ⟨hstrict, rfl⟩ := eq_of_reject h
        exact .right hstrict hliteral

theorem LeftError.askedFor {left : Expr} (h : LeftError p path r left error) : error.AskedFor p := by
  cases h with
  | mismatch hstrict => exact hstrict
  | missing hmissing _ => exact hmissing
  | misplaced hstrict _ => exact hstrict

theorem ConditionError.askedFor {left right : Expr} (h : ConditionError p path r left right error) :
    error.AskedFor p := by
  cases h with
  | left h => exact h.askedFor
  | right hstrict _ => exact hstrict

end Errors

/-! ### Conditions -/

section Conditions

variable (p : Policy) (data : Json) (path : Path)

theorem failsAsAsked_misplacedVerdict (e : Expr) : FailsAsAsked p (misplacedVerdict p path e) := by
  intro error h
  obtain ⟨hstrict, rfl⟩ := eq_of_reject h
  exact hstrict

theorem failsAsAsked_evaluateAgainst (r : Relation) (left : Expr) (right : Operand) :
    FailsAsAsked p (evaluateAgainst p data path r left right) :=
  fun _ h => (leftError_of_evaluateAgainst h).askedFor

/-- A condition fails only as the policy asks for. -/
theorem failsAsAsked_evaluateCondition (r : Relation) (left right : Expr) :
    FailsAsAsked p (evaluateCondition p data path r left right) :=
  fun _ h => (conditionError_of_evaluateCondition h).askedFor

end Conditions

/-! ### Expressions -/

namespace Expr

variable (p : Policy) (data : Json)

/-- **An evaluation fails only as its policy asks for.** -/
theorem failsAsAsked_verdictAt (path : Path) (e : Expr) :
    FailsAsAsked p (e.verdictAt p data path) := by
  induction e generalizing path with
  | reference name default => exact failsAsAsked_misplacedVerdict p path _
  | literal value => exact failsAsAsked_misplacedVerdict p path _
  | comparison r left right _ _ => exact failsAsAsked_evaluateCondition p data path r left right
  | logical c left right ihl ihr =>
      exact (ihl (path.child .left)).bind fun _ => (ihr (path.child .right)).bind fun _ =>
        failsAsAsked_ok _

/-- **Under a forgiving policy every expression has a verdict.** -/
theorem exists_verdictAt_eq_ok {p : Policy} (hp : p.Forgives) (path : Path) (e : Expr) :
    ∃ verdict, e.verdictAt p data path = .ok verdict :=
  hp.exists_eq_ok (failsAsAsked_verdictAt p data path e)

variable {p data}

/-- The errors of a well-formed expression do not tell of a misplaced node. -/
theorem WellFormed.ne_unsupportedOperand {e : Expr} (h : e.WellFormed) {path place : Path}
    {found : String} : e.verdictAt p data path ≠ .error (.unsupportedOperand place found) := by
  intro herror
  -- moved one step down, the error would tell of another place
  have hmoved := h.mapError_verdictAt p data ⟨place.start, [.left]⟩ path
  rw [herror] at hmoved
  have hplace := (EvaluationError.unsupportedOperand.inj (Except.error.inj hmoved)).1
  have hlength := congrArg (fun q : Path => q.steps.length) hplace
  simp [Path.under] at hlength

end Expr

end Rulebook
