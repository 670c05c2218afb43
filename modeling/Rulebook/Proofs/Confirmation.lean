/-
**What a strict evaluation tells, a lenient one confirms.**

A policy that compares strictly, or to which missing data is an error, leaves some expressions without a
verdict.  Forgiving those errors changes no verdict that there is: where two values compare strictly,
they compare loosely with the same result, and where nothing is missing it does not matter what missing
data would mean.  One thing could come in between: a text that spells a number is compared as a text by
the strict policy and as a number by the loose one, if the other side spells a number as well.  So
expressions are asked to have no such text on the right of a condition; what stands on the left does not
matter.

Main definitions:

* `Rulebook.ConfirmedBy` — a computation whose result another one gives as well;
* `Rulebook.Policy.forgiving` — a policy with its errors forgiven;
* `Rulebook.Expr.ComparesPlainTexts` — no text on the right of a condition spells a number.

Main results:

* `Rulebook.compareOperands_confirmedBy` — values that compare strictly compare loosely alike;
* `Rulebook.Expr.observeAt_confirmedBy` — what is seen of an expression, by induction over it;
* `Rulebook.Expr.strict_verdict_is_confirmed` — **a verdict is confirmed when errors are forgiven**.
-/

import Rulebook.Proofs.Combination
import Rulebook.Proofs.Rendering

set_option autoImplicit false

namespace Rulebook

/-! ### Confirmed results -/

/-- What the first computation results in, if it has a result, the second results in as well. -/
def ConfirmedBy {ε α : Type} (x y : Except ε α) : Prop := ∀ a, x = .ok a → y = .ok a

section ConfirmedBy

variable {ε α β : Type}

theorem ConfirmedBy.refl (x : Except ε α) : ConfirmedBy x x := fun _ h => h

theorem ConfirmedBy.bind {x y : Except ε α} {f g : α → Except ε β} (hx : ConfirmedBy x y)
    (hf : ∀ a, ConfirmedBy (f a) (g a)) : ConfirmedBy (x >>= f) (y >>= g) := by
  intro b hb
  obtain ⟨a, hxa, hfa⟩ := bind_eq_ok_iff.1 hb
  exact bind_eq_ok_iff.2 ⟨a, hx a hxa, hf a b hfa⟩

end ConfirmedBy

/-- The policy that decides as before what is present and which relations are evaluated, and forgives
all errors. -/
def Policy.forgiving (p : Policy) : Policy := { p with comparison := .loose, missing := .failClosed }

/-! ### Conditions -/

section Conditions

variable (p : Policy) (data : Json) (path : Path) (r : Relation)

/-- A verdict that may be an error instead: where it is none, it is the same when errors are forgiven. -/
theorem reject_confirmedBy (error : EvaluationError) :
    ConfirmedBy (if p.rejectsUnsupported then .error error else .ok false)
      (if p.forgiving.rejectsUnsupported then .error error else .ok false) := by
  intro b hb
  split at hb
  · cases hb
  · exact hb

theorem mismatch_confirmedBy (left right : String) :
    ConfirmedBy (mismatch p r left right) (mismatch p.forgiving r left right) :=
  reject_confirmedBy p _

theorem misplacedVerdict_confirmedBy (e : Expr) :
    ConfirmedBy (misplacedVerdict p path e) (misplacedVerdict p.forgiving path e) :=
  reject_confirmedBy p _

/-- **Values that compare strictly compare loosely alike**, unless a text on the right could be compared
as a number. -/
theorem compareOperands_confirmedBy (left : Operand) {right : Operand}
    (hright : ∀ s, right = .text s → readFinite? s.toList = none) :
    ConfirmedBy (compareOperands p r left right) (compareOperands p.forgiving r left right) := by
  intro b hb
  obtain ⟨presence, comparison, inclusive, missing⟩ := p
  cases comparison with
  | loose => exact hb
  | strict =>
      cases left with
      | number x =>
          cases right with
          | number y => exact hb
          | text t => cases hb
          | bool c => cases hb
      | text s =>
          cases right with
          | number y => cases hb
          | text t =>
              -- the right text is no number, so both are compared as texts
              have hnumber : (Operand.text t).number? = none := hright t rfl
              have hloose : compareOperands (Policy.forgiving ⟨presence, .strict, inclusive, missing⟩) r
                  (.text s) (.text t) = .ok (compareTexts r s t) := by
                simp only [compareOperands, Policy.forgiving, hnumber]
                cases (Operand.text s).number? <;> rfl
              exact hloose.trans hb
          | bool c => cases hb
      | bool c => cases right <;> cases hb

theorem evaluateAgainst_confirmedBy (left : Expr) {right : Operand}
    (hright : ∀ s, right = .text s → readFinite? s.toList = none) :
    ConfirmedBy (evaluateAgainst p data path r left right)
      (evaluateAgainst p.forgiving data path r left right) := by
  cases left with
  | literal value => exact compareOperands_confirmedBy p r _ hright
  | reference name default =>
      -- what the data says of the attribute is up to the policy on presence alone
      have hresolve : resolve p.forgiving data name = resolve p data name := rfl
      simp only [evaluateAgainst, hresolve]
      cases resolve p data name with
      | present value => exact compareOperands_confirmedBy p r value hright
      | unsupported kind => exact mismatch_confirmedBy p r kind right.kind
      | missing =>
          cases default with
          | some value => exact compareOperands_confirmedBy p r _ hright
          | none =>
              intro b hb
              cases hmissing : p.missing with
              | failClosed =>
                  rw [hmissing] at hb
                  exact hb
              | error =>
                  rw [hmissing] at hb
                  cases hb
  | comparison r' left right => exact misplacedVerdict_confirmedBy p _ _
  | logical c left right => exact misplacedVerdict_confirmedBy p _ _

/-- A condition that has a verdict has the same one when errors are forgiven. -/
theorem evaluateCondition_confirmedBy (left : Expr) {right : Expr}
    (hright : ∀ s, right = .literal (.string s) → readFinite? s.toList = none) :
    ConfirmedBy (evaluateCondition p data path r left right)
      (evaluateCondition p.forgiving data path r left right) := by
  unfold evaluateCondition
  by_cases hinclusive : r.isInclusive ∧ p.inclusive = .legacyFalse
  · rw [if_pos hinclusive, if_pos (show r.isInclusive ∧ p.forgiving.inclusive = _ from hinclusive)]
    exact .refl _
  · rw [if_neg hinclusive, if_neg (show ¬ (r.isInclusive ∧ p.forgiving.inclusive = _) from hinclusive)]
    cases right with
    | literal value =>
        refine evaluateAgainst_confirmedBy p data path r left fun s hs => ?_
        cases value with
        | number x => cases hs
        | string t =>
            cases hs
            exact hright s rfl
    | reference name default => exact misplacedVerdict_confirmedBy p _ _
    | comparison r' left' right' => exact misplacedVerdict_confirmedBy p _ _
    | logical c left' right' => exact misplacedVerdict_confirmedBy p _ _

end Conditions

/-! ### Expressions -/

namespace Expr

/-- A condition whose right operand is no text that spells a number. -/
def ComparesPlainText : Expr → Prop
  | comparison _ _ (literal (.string s)) => readFinite? s.toList = none
  | _ => True

/-- No text on the right of a condition of the expression spells a number. -/
def ComparesPlainTexts (e : Expr) : Prop := ∀ n ∈ e.nodes, n.ComparesPlainText

theorem ComparesPlainTexts.of_logical {c : Connective} {left right : Expr}
    (h : (logical c left right).ComparesPlainTexts) :
    left.ComparesPlainTexts ∧ right.ComparesPlainTexts := (forall_nodes_logical.1 h).2

theorem ComparesPlainTexts.of_comparison {r : Relation} {left right : Expr}
    (h : (comparison r left right).ComparesPlainTexts) (s : String)
    (hs : right = .literal (.string s)) : readFinite? s.toList = none := by
  subst hs
  exact (forall_nodes_comparison.1 h).1

/-- What is seen of an expression under a policy is seen when errors are forgiven. -/
theorem observeAt_confirmedBy (p : Policy) (data : Json) (path : Path) {e : Expr}
    (he : e.ComparesPlainTexts) :
    ConfirmedBy (e.observeAt p data path) (e.observeAt p.forgiving data path) := by
  induction e generalizing path with
  | reference name default =>
      exact (misplacedVerdict_confirmedBy p path _).bind fun _ => .refl _
  | literal value => exact (misplacedVerdict_confirmedBy p path _).bind fun _ => .refl _
  | comparison r left right _ _ =>
      exact (evaluateCondition_confirmedBy p data path r left he.of_comparison).bind fun _ => .refl _
  | logical c left right ihl ihr =>
      obtain ⟨hleft, hright⟩ := he.of_logical
      exact (ihl (path.child .left) hleft).bind fun _ =>
        (ihr (path.child .right) hright).bind fun _ => .refl _

/-- **A verdict is confirmed when errors are forgiven.**  Let no text on the right of a condition spell
a number.  If the expression has a verdict under a policy, then with loose comparison and failing closed
instead it has the same verdict, and an execution reports the same: the same conditions that matched and
the same trace.  So the lenient policy confirms every verdict of the strict one. -/
theorem strict_verdict_is_confirmed {e : Expr} (he : e.ComparesPlainTexts) (data : Json) :
    (∀ p b, e.tryEvaluate p data = .ok b →
      e.tryEvaluate { p with comparison := .loose, missing := .failClosed } data = .ok b ∧
        ∀ traced, ∃ o, e.execute p data traced = .ok o ∧ o.matched = b ∧
          e.execute { p with comparison := .loose, missing := .failClosed } data traced = .ok o) ∧
      ∀ b, e.tryEvaluate .strict data = .ok b → e.tryEvaluate .lenient data = .ok b := by
  have hverdict : ∀ p b, e.tryEvaluate p data = .ok b → e.tryEvaluate p.forgiving data = .ok b ∧
      ∀ traced, ∃ o, e.execute p data traced = .ok o ∧ o.matched = b ∧
        e.execute p.forgiving data traced = .ok o := by
    intro p b hb
    obtain ⟨seen, hseen, rfl⟩ : ∃ seen, e.observeAt p data .root = .ok seen ∧ seen.1 = b := by
      rw [tryEvaluate, verdictAt_eq_map_observeAt] at hb
      cases hseen : e.observeAt p data .root with
      | error error =>
          rw [hseen] at hb
          cases hb
      | ok seen =>
          rw [hseen] at hb
          exact ⟨seen, rfl, Except.ok.inj hb⟩
    have hconfirmed := observeAt_confirmedBy p data .root he seen hseen
    refine ⟨?_, fun traced => ⟨outcomeOf traced seen, ?_, rfl, ?_⟩⟩
    · rw [tryEvaluate, verdictAt_eq_map_observeAt, hconfirmed]
      rfl
    · rw [execute_eq_map, hseen]
      rfl
    · rw [execute_eq_map, hconfirmed]
      rfl
  exact ⟨hverdict, fun b hb => (hverdict .strict b hb).1⟩

/-- A number, a text, and a default that spells a number where the right side does not: the strict
verdict, its matched conditions and its trace are the lenient ones. -/
theorem strict_verdict_on_default_is_confirmed :
    let e : Expr := .logical .or
      (.logical .and (.comparison .ge (.reference "age" none) (.literal (.number 30)))
        (.comparison .ne (.reference "team" none) (.literal (.string "ops"))))
      (.comparison .lt (.reference "level" (some (.string "7"))) (.literal (.string "seven")))
    let data : Json := .object [("age", .number (.integer 41)), ("team", .string "ops")]
    e.ComparesPlainTexts ∧ e.tryEvaluate .strict data = .ok true ∧
      e.tryEvaluate .lenient data = .ok true ∧
      ∃ o, e.execute .strict data true = .ok o ∧ e.execute .lenient data true = .ok o ∧
        o.matchedConditions = ["root.left.left: age >= 30", "root.right: level < \"seven\""] := by
  intro e data
  have hplain : e.ComparesPlainTexts := by
    have hops : readFinite? ['o', 'p', 's'] = none := by decide +kernel
    have hseven : readFinite? ['s', 'e', 'v', 'e', 'n'] = none := by decide +kernel
    simp [e, ComparesPlainTexts, nodes, ComparesPlainText, hops, hseven]
  have hstrict : e.tryEvaluate .strict data = .ok true := by decide +kernel
  have hmatched : (e.execute .strict data true).toOption.map Outcome.matchedConditions =
      some ["root.left.left: age >= 30", "root.right: level < \"seven\""] := by decide +kernel
  obtain ⟨hlenient, houtcome⟩ := (strict_verdict_is_confirmed hplain data).1 .strict true hstrict
  obtain ⟨o, ho, -, ho'⟩ := houtcome true
  rw [ho] at hmatched
  exact ⟨hplain, hstrict, hlenient, o, ho, ho', Option.some.inj hmatched⟩

/-- Where a text on the right does spell a number, the lenient verdict may be another one. -/
example :
    let e : Expr := .comparison .eq (.reference "size" none) (.literal (.string "10"))
    let data : Json := .object [("size", .string "10.0")]
    e.tryEvaluate .strict data = .ok false ∧ e.tryEvaluate .lenient data = .ok true := by
  decide +kernel

end Expr

end Rulebook
