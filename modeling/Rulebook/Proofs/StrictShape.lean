/-
**The check and the strict evaluator agree on what is a legal shape.**

The shape of an expression is looked at twice: by the check, and again by the evaluator, which meets a
misplaced node only when it comes to it, the right operand of a condition before the left one, and
which complains only where comparison is strict.  The two agree.  Whatever the evaluator complains
about is a node that the check finds in the wrong place; and where a node is in the wrong place, a
strict evaluation has no verdict on any data.  Only an attribute without a name is treated
differently: the check refuses it, and the evaluator looks it up as any other.

Main definitions:

* `Rulebook.Complains` — a computation that complains only about given nodes;
* `Rulebook.Expr.Misplaces` — the nodes of an expression that cannot play their part;
* `Rulebook.Expr.Named` — an expression with a name given to every attribute that has none.

Main results:

* `Rulebook.Expr.complains_verdictAt` — an evaluation complains only about misplaced nodes;
* `Rulebook.Expr.Named.exists_error` — a wrong shape has no strict verdict;
* `Rulebook.Expr.check_agrees_with_strict_evaluation` — **the agreement of the two**.
-/

import Rulebook.Proofs.FirstMisplaced
import Rulebook.Proofs.Refusal

set_option autoImplicit false

namespace Rulebook

/-! ### Complaints -/

/-- A computation that complains only about nodes of the given places and kinds. -/
def Complains {α : Type} (about : Path → String → Prop) (x : Except EvaluationError α) : Prop :=
  ∀ place found, x = .error (.unsupportedOperand place found) → about place found

section Complains

variable {α β : Type} {about about' : Path → String → Prop}

theorem complains_ok (a : α) : Complains about (.ok a) := fun _ _ h => nomatch h

theorem Complains.mono {x : Except EvaluationError α} (hx : Complains about x)
    (h : ∀ place found, about place found → about' place found) : Complains about' x :=
  fun place found hfound => h place found (hx place found hfound)

theorem Complains.bind {x : Except EvaluationError α} {f : α → Except EvaluationError β}
    (hx : Complains about x) (hf : ∀ a, Complains about (f a)) : Complains about (x >>= f) := by
  intro place found h
  cases x with
  | error error =>
      obtain rfl := Except.error.inj h
      exact hx place found rfl
  | ok a => exact hf a place found h

end Complains

/-! ### Conditions -/

section Conditions

variable {about : Path → String → Prop} (p : Policy) (data : Json) (path : Path) (r : Relation)

theorem complains_misplacedVerdict {e : Expr} (h : about path e.kind) :
    Complains about (misplacedVerdict p path e) := by
  intro place found herror
  obtain ⟨rfl, rfl⟩ := EvaluationError.unsupportedOperand.inj (eq_of_reject herror).2
  exact h

/-- Of its operands a condition complains when the left one is a formula, or the right one no literal. -/
theorem complains_evaluateCondition {left right : Expr}
    (hleft : left.isFormula = true → about (path.child .left) left.kind)
    (hright : (∀ value, right ≠ .literal value) → about (path.child .right) right.kind) :
    Complains about (evaluateCondition p data path r left right) := by
  intro place found herror
  cases conditionError_of_evaluateCondition herror with
  | left h =>
      cases h with
      | misplaced _ hformula => exact hleft hformula
  | right _ hliteral => exact hright hliteral

end Conditions

/-! ### Misplaced nodes -/

namespace Expr

/-- A node of the given kind stands at the given place, for a part that it cannot play; `base` is the
place of the expression. -/
def Misplaces (e : Expr) (base place : Path) (found : String) : Prop :=
  ∃ x ∈ e.seats, ¬x.Fits ∧ place = base.along x.way ∧ found = x.node.kind

theorem misplaces_of_not_formula {e : Expr} (hseats : e.seats = [⟨[], .formula, e⟩])
    (h : e.isFormula = false) (base : Path) : e.Misplaces base base e.kind := by
  refine ⟨⟨[], .formula, e⟩, by rw [hseats]; exact List.mem_singleton.2 rfl, ?_, ?_, rfl⟩
  · exact fun hfits => absurd (h.symm.trans hfits) Bool.false_ne_true
  · exact (Path.along_nil base).symm

theorem misplaces_left {r : Relation} {left right : Expr} (h : left.isFormula = true) (base : Path) :
    (comparison r left right).Misplaces base (base.child .left) left.kind := by
  refine ⟨⟨[.left], .leftOperand, left⟩, by simp [seats], fun hfits => ?_, rfl, rfl⟩
  cases Role.admits_leftOperand_iff.1 hfits <;> cases h

theorem misplaces_right {r : Relation} {left right : Expr} (h : ∀ value, right ≠ .literal value)
    (base : Path) : (comparison r left right).Misplaces base (base.child .right) right.kind := by
  refine ⟨⟨[.right], .rightOperand, right⟩, by simp [seats], fun hfits => ?_, rfl, rfl⟩
  obtain ⟨value, hvalue⟩ := Role.admits_rightOperand_iff.1 hfits
  exact h value hvalue

/-- What is misplaced on one side of a joined expression is misplaced in the whole. -/
theorem Misplaces.below {c : Connective} {left right : Expr} {base place : Path} {found : String}
    (s : Side) (h : (if s = .left then left else right).Misplaces (base.child s) place found) :
    (logical c left right).Misplaces base place found := by
  obtain ⟨x, hx, hfits, rfl, rfl⟩ := h
  refine ⟨x.below s, ?_, hfits, (Path.along_cons base s x.way).symm, rfl⟩
  cases s with
  | left => exact List.mem_cons_of_mem _ (List.mem_append_left _ (List.mem_map_of_mem hx))
  | right => exact List.mem_cons_of_mem _ (List.mem_append_right _ (List.mem_map_of_mem hx))

/-- **An evaluation complains only about misplaced nodes.** -/
theorem complains_verdictAt (p : Policy) (data : Json) (base : Path) (e : Expr) :
    Complains (e.Misplaces base) (e.verdictAt p data base) := by
  induction e generalizing base with
  | reference name default =>
      exact complains_misplacedVerdict p base (misplaces_of_not_formula rfl rfl base)
  | literal value => exact complains_misplacedVerdict p base (misplaces_of_not_formula rfl rfl base)
  | comparison r left right _ _ =>
      exact complains_evaluateCondition p data base r (fun h => misplaces_left h base)
        fun h => misplaces_right h base
  | logical c left right ihl ihr =>
      refine (ihl (base.child .left)).mono (fun _ _ => .below .left) |>.bind fun _ => ?_
      refine (ihr (base.child .right)).mono (fun _ _ => .below .right) |>.bind fun _ => ?_
      exact complains_ok _

/-! ### Wrong shapes -/

/-- The second expression is the first with a name given to every attribute that has none. -/
inductive Named : Expr → Expr → Prop
  | nameless {name : String} (h : name ≠ "") (default : Option Scalar) :
      Named (.reference "" default) (.reference name default)
  | reference {name : String} (h : name ≠ "") (default : Option Scalar) :
      Named (.reference name default) (.reference name default)
  | literal (value : Scalar) : Named (.literal value) (.literal value)
  | comparison (r : Relation) {left left' right right' : Expr} (hleft : Named left left')
      (hright : Named right right') : Named (.comparison r left right) (.comparison r left' right')
  | logical (c : Connective) {left left' right right' : Expr} (hleft : Named left left')
      (hright : Named right right') : Named (.logical c left right) (.logical c left' right')

/-- A left operand that is none, even with a name, is a formula. -/
theorem Named.isFormula_of_not_isOperand {e e' : Expr} (h : Named e e') (he' : ¬e'.IsOperand) :
    e.isFormula = true := by
  cases h with
  | nameless hname default => exact absurd (.reference default hname) he'
  | reference hname default => exact absurd (.reference default hname) he'
  | literal value => exact absurd (.literal value) he'
  | comparison r _ _ => rfl
  | logical c _ _ => rfl

theorem Named.literal_of_literal {e e' : Expr} {value : Scalar} (h : Named e e')
    (he : e = .literal value) : e' = .literal value := by
  subst he
  cases h
  rfl

section Strict

variable {p : Policy} (hstrict : p.comparison = .strict) (data : Json) (path : Path)
include hstrict

theorem misplacedVerdict_of_strict (e : Expr) :
    misplacedVerdict p path e = .error (.unsupportedOperand path e.kind) := by
  rw [misplacedVerdict, if_pos (Policy.rejectsUnsupported_iff.2 hstrict)]

/-- A condition with a wrong operand has no strict verdict. -/
theorem exists_error_evaluateCondition (hinclusive : p.inclusive = .evaluate) (r : Relation)
    {left right : Expr} (h : left.isFormula = true ∨ ∀ value, right ≠ .literal value) :
    ∃ error, evaluateCondition p data path r left right = .error error := by
  have hlegacy : ¬(r.isInclusive ∧ p.inclusive = .legacyFalse) := by simp [hinclusive]
  unfold evaluateCondition
  rw [if_neg hlegacy]
  -- the right operand is looked at first
  cases right with
  | literal value =>
      have hleft := h.resolve_right fun hright => hright value rfl
      cases left with
      | reference name default => cases hleft
      | literal value => cases hleft
      | comparison r' left right => exact ⟨_, misplacedVerdict_of_strict hstrict _ _⟩
      | logical c left right => exact ⟨_, misplacedVerdict_of_strict hstrict _ _⟩
  | reference name default => exact ⟨_, misplacedVerdict_of_strict hstrict _ _⟩
  | comparison r' left' right' => exact ⟨_, misplacedVerdict_of_strict hstrict _ _⟩
  | logical c left' right' => exact ⟨_, misplacedVerdict_of_strict hstrict _ _⟩

/-- **A wrong shape has no strict verdict**, unless it lacks nothing but names. -/
theorem Named.exists_error (hinclusive : p.inclusive = .evaluate) {e e' : Expr} (h : Named e e')
    (he' : ¬e'.WellFormed) : ∃ error, e.verdictAt p data path = .error error := by
  induction h generalizing path with
  | nameless _ default => exact ⟨_, misplacedVerdict_of_strict hstrict path _⟩
  | reference _ default => exact ⟨_, misplacedVerdict_of_strict hstrict path _⟩
  | literal value => exact ⟨_, misplacedVerdict_of_strict hstrict path _⟩
  | @comparison r left left' right right' hleft hright _ _ =>
      refine exists_error_evaluateCondition hstrict data path hinclusive r ?_
      by_contra! hnone
      obtain ⟨hformula, value, hvalue⟩ := hnone
      obtain rfl := hright.literal_of_literal hvalue
      refine he' (.condition r (by_contra fun hoperand => ?_) value)
      exact hformula (hleft.isFormula_of_not_isOperand hoperand)
  | @logical c left left' right right' _ _ ihl ihr =>
      rw [verdictAt]
      cases hl : left.verdictAt p data (path.child .left) with
      | error error => exact ⟨error, rfl⟩
      | ok l =>
          -- the left side has a verdict, so the right side is to blame
          have hwell : left'.WellFormed := by
            by_contra hleft
            obtain ⟨error, herror⟩ := ihl (path.child .left) hleft
            cases hl.symm.trans herror
          obtain ⟨error, herror⟩ := ihr (path.child .right) fun hright => he' (.joined c hwell hright)
          exact ⟨error, by rw [herror]; rfl⟩

end Strict

/-! ### The agreement -/

/-- **The check and the strict evaluator agree on what is a legal shape.**  No evaluation of an
expression that passes the check, under any policy and on any data, complains about a node.  An
expression that does not pass, even with names given to its nameless attributes, has no verdict on any
data where comparison is strict and the inclusive relations are evaluated.  And whenever an evaluation
complains about a node, the place that it tells leads to a node of the kind that it tells, and the
expression does not pass the check. -/
theorem check_agrees_with_strict_evaluation (e : Expr) :
    (e.check = .ok () → ∀ p data place found,
      e.tryEvaluate p data ≠ .error (.unsupportedOperand place found)) ∧
    (∀ e' error, Named e e' → e'.check = .error error →
      ∀ p data, p.comparison = .strict → p.inclusive = .evaluate →
        ∃ error, e.tryEvaluate p data = .error error) ∧
    ∀ p data place found, e.tryEvaluate p data = .error (.unsupportedOperand place found) →
      (∃ way node, place = ⟨"root", way⟩ ∧ place.render = "root" ++ wayText way ∧
        e.nodeAt? way = some node ∧ node.kind = found) ∧
      ∃ error, e.check = .error error := by
  have hmisplaces : ∀ p data place found,
      e.tryEvaluate p data = .error (.unsupportedOperand place found) →
        e.Misplaces .root place found := fun p data => complains_verdictAt p data .root e
  have hcheck : ∀ {place found}, e.Misplaces .root place found → e.check ≠ .ok () := by
    rintro place found ⟨x, hx, hfits, -⟩ hok
    exact hfits (check_eq_ok_iff_seats.1 hok x hx)
  refine ⟨fun hok p data place found h => hcheck (hmisplaces p data place found h) hok,
    fun e' error hnamed herror p data hstrict hinclusive => ?_, fun p data place found h => ?_⟩
  · refine hnamed.exists_error hstrict data .root hinclusive fun hwell => ?_
    exact nomatch herror.symm.trans (check_eq_ok_iff.2 hwell)
  · have hplace := hmisplaces p data place found h
    refine ⟨?_, ?_⟩
    · obtain ⟨x, hx, -, rfl, rfl⟩ := hplace
      exact ⟨x.way, x.node, rfl, Path.render_along .root x.way, (mem_seats.1 hx).nodeAt?_eq, rfl⟩
    · cases hresult : e.check with
      | ok u => exact absurd hresult (hcheck hplace)
      | error error => exact ⟨error, rfl⟩

/-- A nameless attribute is refused by the check alone: the evaluator finds it in the data, and complains
of the attribute that stands on the right of the other condition.  With a name given to the first, the
check refuses the second, too. -/
theorem nameless_attribute_is_refused_by_check_alone :
    let nameless : Expr := .comparison .gt (.reference "" none) (.literal (.number 1))
    let named : Expr := .comparison .gt (.reference "age" none) (.literal (.number 1))
    let reversed : Expr := .comparison .eq (.literal (.string "ops")) (.reference "team" none)
    let data : Json := .object [("", .number (.integer 5)), ("age", .number (.integer 5))]
    let place : Path := ⟨"root", [.right, .right]⟩
    nameless.check = .error (.unsupportedOperand ⟨"root", [.left]⟩ "空属性名") ∧
      nameless.tryEvaluate .strict data = .ok true ∧
      (named.check = .ok () ∧
        named.tryEvaluate .strict data ≠ .error (.unsupportedOperand .root "BinaryExpression")) ∧
      ((logical .and named reversed).check = .error (.unsupportedOperand place "Identifier") ∧
        ∃ error, (logical .and nameless reversed).tryEvaluate .strict data = .error error) ∧
      (logical .and nameless reversed).tryEvaluate .strict data =
        .error (.unsupportedOperand place "Identifier") ∧
      ∃ way node, place = ⟨"root", way⟩ ∧ place.render = "root" ++ wayText way ∧
        (logical .and nameless reversed).nodeAt? way = some node ∧ node.kind = "Identifier" := by
  intro nameless named reversed data place
  have hnamed : Named (logical .and nameless reversed) (logical .and named reversed) :=
    .logical .and (.comparison .gt (.nameless (by decide) none) (.literal _))
      (.comparison .eq (.literal _) (.reference (by decide) none))
  have hrefused : (logical .and named reversed).check =
      .error (.unsupportedOperand place "Identifier") := rfl
  have hcomplaint : (logical .and nameless reversed).tryEvaluate .strict data =
      .error (.unsupportedOperand place "Identifier") := by decide +kernel
  obtain ⟨-, hstrict, hplace⟩ := check_agrees_with_strict_evaluation (logical .and nameless reversed)
  have hpasses := (check_agrees_with_strict_evaluation named).1 rfl
  exact ⟨rfl, by decide +kernel, ⟨rfl, hpasses .strict data _ _⟩,
    ⟨hrefused, hstrict _ _ hnamed hrefused .strict data rfl rfl⟩, hcomplaint,
    (hplace .strict data place "Identifier" hcomplaint).1⟩

end Expr

end Rulebook
