/-
**Complementary relations exclude each other.**

Each relation has a complement: `>` has `<=`, `<` has `>=` and `==` has `!=`.  Between two texts and
between two finite numbers one of them holds and the other does not.  For the orders this is what the order
of doubles gives.  Equality is not decided by the order but by a distance, so for it the distance has to be
a number, as that of finite doubles is, even where it is rounded or infinite.

A condition that has two scalars to compare therefore has opposite verdicts under a relation and its
complement.  Otherwise it fails both times, and in the same way, or it holds neither time; the latter is so
exactly when its left operand yields no scalar and the policy forgives that.

Main definitions:

* `Rulebook.Relation.complement` — the relation that excludes another;
* `Rulebook.Operand.IsFinite`, `Rulebook.Pairing.IsFinite` — values in which every number is finite;
* `Rulebook.Shortfall.Forgiven` — whether a left operand may yield no scalar;
* `Rulebook.EvaluationError.Alike` — errors that differ at most in the relation that they name.

Main results:

* `Rulebook.isFinite_of_pairing?` — finite scalars are compared as texts or as finite numbers;
* `Rulebook.Pairing.holds_complement` — between those, a relation or its complement holds;
* `Rulebook.Shortfall.verdict_of_forgiven`, `Rulebook.Shortfall.verdict_of_not_forgiven` — the verdict where
  there is nothing to compare;
* `Rulebook.complementary_relations_exclude_each_other` — **the same of conditions**.
-/

import Rulebook.Proofs.Comparison
import Rulebook.Proofs.FloatOrder
import Rulebook.Proofs.FormRows

set_option autoImplicit false

namespace Rulebook

/-! ### Finite numbers -/

/-- Whether a value is anything but a number that is not finite. -/
def Operand.IsFinite : Operand → Prop
  | number x => x.isFinite = true
  | text _ => True
  | bool _ => True

/-- Whether two values are compared as texts or as finite numbers. -/
def Pairing.IsFinite : Pairing → Prop
  | numbers a b => a.isFinite = true ∧ b.isFinite = true
  | texts _ _ => True

/-- A finite value seen as a number is finite: a text is never seen as another. -/
theorem Operand.isFinite_of_number? {o : Operand} {x : Float} (ho : o.IsFinite)
    (h : o.number? = some x) : x.isFinite = true := by
  cases o with
  | number y =>
      cases h
      exact ho
  | text s => exact isFinite_of_readFinite? h
  | bool b =>
      cases h
      cases b <;> decide +kernel

/-- **Finite scalars are compared as texts or as finite numbers.** -/
theorem isFinite_of_pairing? {mode : Coercion} {left right : Operand} {pair : Pairing}
    (hleft : left.IsFinite) (hright : right.IsFinite) (h : pairing? mode left right = some pair) :
    pair.IsFinite := by
  cases mode with
  | loose =>
      simp only [pairing?] at h
      split at h
      · next a b ha hb =>
          cases h
          exact ⟨left.isFinite_of_number? hleft ha, right.isFinite_of_number? hright hb⟩
      · cases h
        trivial
  | strict =>
      cases left <;> cases right <;> cases h
      · exact ⟨hleft, hright⟩
      · trivial

/-! ### Complementary relations -/

/-- The relation that excludes another. -/
def Relation.complement : Relation → Relation
  | gt => le
  | le => gt
  | lt => ge
  | ge => lt
  | eq => ne
  | ne => eq

theorem isNaN_tolerance : tolerance.isNaN = false := by decide +kernel

/-- Conditions that exclude each other are decided the opposite way. -/
theorem decide_eq_not_decide {P Q : Prop} [Decidable P] [Decidable Q] (h : ¬P ↔ Q) :
    decide Q = !decide P := by
  rw [← decide_not]
  exact decide_eq_decide.2 h.symm

/-- Of numbers: being less, and being at least as large. -/
theorem decide_le_eq_not_decide_lt {a b : Float} (ha : a.isNaN = false) (hb : b.isNaN = false) :
    decide (b ≤ a) = !decide (a < b) := decide_eq_not_decide (Magnitude.not_lt_iff_le ha hb)

theorem compareNumbers_complement {a b : Float} (ha : a.isFinite = true) (hb : b.isFinite = true)
    (r : Relation) : compareNumbers r.complement a b = !compareNumbers r a b := by
  have horder := decide_le_eq_not_decide_lt (isNaN_isInf_of_isFinite ha).1
    (isNaN_isInf_of_isFinite hb).1
  have hswapped := decide_le_eq_not_decide_lt (isNaN_isInf_of_isFinite hb).1
    (isNaN_isInf_of_isFinite ha).1
  have hdistance := decide_le_eq_not_decide_lt (Magnitude.isNaN_abs_sub ha hb) isNaN_tolerance
  cases r <;>
    simp only [Relation.complement, compareNumbers, horder, hswapped, hdistance, Bool.not_not]

theorem compareTexts_complement (s t : String) (r : Relation) :
    compareTexts r.complement s t = !compareTexts r s t := by
  have horder (s t : String) : decide (t ≤ s) = !decide (s < t) := decide_eq_not_decide String.not_lt
  cases r <;> simp only [Relation.complement, compareTexts, horder, bne, Bool.not_not]

/-- **Between texts and between finite numbers a relation holds or its complement does.** -/
theorem Pairing.holds_complement {pair : Pairing} (h : pair.IsFinite) (r : Relation) :
    pair.holds r.complement = !pair.holds r := by
  cases pair with
  | numbers a b => exact compareNumbers_complement h.1 h.2 r
  | texts s t => exact compareTexts_complement s t r

/-! ### Conditions without a verdict of their own -/

/-- Whether a policy takes it that a left operand yields no scalar; otherwise it is an error. -/
def Shortfall.Forgiven (p : Policy) : Shortfall → Prop
  | missing _ => p.missing = .failClosed
  | collection _ => p.rejectsUnsupported = false
  | misplaced _ => p.rejectsUnsupported = false

/-- Errors of one kind that differ at most in the relation that they name. -/
inductive EvaluationError.Alike : EvaluationError → EvaluationError → Prop where
  | typeMismatch (r r' left right : String) :
    Alike (.typeMismatch r left right) (.typeMismatch r' left right)
  | missingAttribute (name : String) : Alike (.missingAttribute name) (.missingAttribute name)
  | unsupportedOperand (path : Path) (found : String) :
    Alike (.unsupportedOperand path found) (.unsupportedOperand path found)

namespace Shortfall

variable {p : Policy} {lack : Shortfall} (path : Path) (right : Operand)

/-- What is forgiven makes a condition fail to hold, whatever its relation. -/
theorem verdict_of_forgiven (h : lack.Forgiven p) (r : Relation) :
    lack.verdict p path r right = .ok false := by
  cases lack with
  | missing name => rw [verdict, show p.missing = .failClosed from h]
  | collection kind =>
      rw [verdict, mismatch, show p.rejectsUnsupported = false from h]
      rfl
  | misplaced e =>
      rw [verdict, misplacedVerdict, show p.rejectsUnsupported = false from h]
      rfl

/-- What is not forgiven is the same error whatever the relation, but for the relation that it names. -/
theorem verdict_of_not_forgiven (h : ¬lack.Forgiven p) (r r' : Relation) :
    ∃ e e', lack.verdict p path r right = .error e ∧ lack.verdict p path r' right = .error e' ∧
      e.Alike e' := by
  cases lack with
  | missing name =>
      have hmissing : p.missing = .error := by
        cases hm : p.missing with
        | failClosed => exact absurd hm h
        | error => rfl
      simp only [verdict, hmissing]
      exact ⟨_, _, rfl, rfl, .missingAttribute name⟩
  | collection kind =>
      simp only [verdict, mismatch, if_pos (Bool.not_eq_false _ ▸ h)]
      exact ⟨_, _, rfl, rfl, .typeMismatch _ _ kind right.kind⟩
  | misplaced e =>
      simp only [verdict, misplacedVerdict, if_pos (Bool.not_eq_false _ ▸ h)]
      exact ⟨_, _, rfl, rfl, .unsupportedOperand _ e.kind⟩

end Shortfall

/-! ### Conditions -/

/-- Where its operands pair, a condition has opposite verdicts under a relation and its complement. -/
theorem opposite_verdicts {p : Policy} {data : Json} {left : Expr} {o : Operand} {value : Scalar}
    {pair : Pairing} (hinclusive : p.inclusive = .evaluate) (hyield : left.yield p data = .ok o)
    (hpair : pairing? p.comparison o (.ofScalar value) = some pair) (hfinite : pair.IsFinite)
    (path : Path) (r : Relation) :
    ∃ b, evaluateCondition p data path r left (.literal value) = .ok b ∧
      evaluateCondition p data path r.complement left (.literal value) = .ok !b := by
  refine ⟨pair.holds r, evaluateCondition_of_pairing? hinclusive hyield hpair path r, ?_⟩
  rw [evaluateCondition_of_pairing? hinclusive hyield hpair, Pairing.holds_complement hfinite]

/-- **Complementary relations exclude each other**: a condition that compares with a literal, where all
numbers are finite and the inclusive relations are evaluated, fails in the same way under a relation and
under its complement, or has opposite verdicts, or does not hold under either.  The last is so exactly when
its left operand yields no scalar and the policy forgives that; and a scalar that is compared loosely, or
with a literal of its own kind, has opposite verdicts. -/
theorem complementary_relations_exclude_each_other {p : Policy} {data : Json} {left : Expr}
    {value : Scalar} (hinclusive : p.inclusive = .evaluate)
    (hleft : ∀ o, left.yield p data = .ok o → o.IsFinite) (hright : (Operand.ofScalar value).IsFinite)
    (path : Path) (r : Relation) :
    let verdict (r : Relation) := evaluateCondition p data path r left (.literal value)
    ((∃ e e', verdict r = .error e ∧ verdict r.complement = .error e' ∧ e.Alike e') ∨
      (∃ b, verdict r = .ok b ∧ verdict r.complement = .ok !b) ∨
      (verdict r = .ok false ∧ verdict r.complement = .ok false)) ∧
    (verdict r = .ok false ∧ verdict r.complement = .ok false ↔
      ∃ lack, left.yield p data = .error lack ∧ lack.Forgiven p) ∧
    ∀ o, left.yield p data = .ok o →
      p.comparison = .loose ∨ o.kind = (Operand.ofScalar value).kind →
        ∃ b, verdict r = .ok b ∧ verdict r.complement = .ok !b := by
  intro verdict
  cases hyield : left.yield p data with
  | error lack =>
      have hverdict (r : Relation) : verdict r = lack.verdict p path r (.ofScalar value) := by
        simp only [verdict, evaluateCondition_eq hinclusive, hyield]
      by_cases hforgiven : lack.Forgiven p
      · have hfalse (r : Relation) : verdict r = .ok false :=
          (hverdict r).trans (Shortfall.verdict_of_forgiven path _ hforgiven r)
        exact ⟨.inr (.inr ⟨hfalse _, hfalse _⟩),
          iff_of_true ⟨hfalse _, hfalse _⟩ ⟨lack, rfl, hforgiven⟩, nofun⟩
      · obtain ⟨e, e', he, he', halike⟩ :=
          Shortfall.verdict_of_not_forgiven path (.ofScalar value) hforgiven r r.complement
        rw [hverdict, hverdict, he, he']
        refine ⟨.inl ⟨e, e', rfl, rfl, halike⟩, iff_of_false nofun ?_, nofun⟩
        rintro ⟨lack', h, hforgiven'⟩
        cases h
        exact hforgiven hforgiven'
  | ok o =>
      cases hpair : pairing? p.comparison o (.ofScalar value) with
      | none =>
          have hverdict (r : Relation) : verdict r =
              .error (.typeMismatch r.symbol o.kind (Operand.ofScalar value).kind) := by
            simp only [verdict, evaluateCondition_eq hinclusive, hyield, hpair]
          rw [hverdict, hverdict]
          refine ⟨.inl ⟨_, _, rfl, rfl, .typeMismatch _ _ _ _⟩, iff_of_false nofun nofun, ?_⟩
          intro o' ho' hkinds
          cases ho'
          obtain ⟨pair, hpair'⟩ := exists_pairing hkinds
          cases hpair.symm.trans hpair'
      | some pair =>
          have hopposite : ∃ b, verdict r = .ok b ∧ verdict r.complement = .ok !b :=
            opposite_verdicts hinclusive hyield hpair
              (isFinite_of_pairing? (hleft o hyield) hright hpair) path r
          refine ⟨.inr (.inl hopposite), iff_of_false ?_ nofun, fun _ _ _ => hopposite⟩
          obtain ⟨b, hb, hb'⟩ := hopposite
          rw [hb, hb']
          -- a truth value and its opposite are not both false
          cases b <;> nofun

/-- A number and a text that spells it are equal, so they are not unequal. -/
theorem spelled_load_is_not_unequal :
    let data := Json.object [("load", .number (.double 0.5))]
    let verdict (r : Relation) :=
      evaluateCondition .lenient data .root r (.reference "load" none) (.literal (.string " 0.5 "))
    verdict .eq = .ok true ∧ verdict .ne = .ok false := by
  intro data verdict
  have hequal : verdict .eq = .ok true := by decide +kernel
  have hyield : (Expr.reference "load" none).yield .lenient data = .ok (.number 0.5) := rfl
  have hfinite (o : Operand) (h : (Expr.reference "load" none).yield .lenient data = .ok o) :
      o.IsFinite := by
    cases hyield.symm.trans h
    show (0.5 : Float).isFinite = true
    decide +kernel
  have htext : (Operand.ofScalar (.string " 0.5 ")).IsFinite := trivial
  obtain ⟨-, -, hopposite⟩ :=
    complementary_relations_exclude_each_other rfl hfinite htext .root .eq
  obtain ⟨b, hb, hcomplement⟩ := hopposite _ hyield (.inl rfl)
  cases hb.symm.trans hequal
  exact ⟨hequal, hcomplement⟩

end Rulebook
