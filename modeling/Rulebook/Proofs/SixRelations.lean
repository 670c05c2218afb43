/-
**The story that the six relations tell.**

Of two things the six relations should say what an order says: that the first is less than the second, or
equal to it, or greater, and one of these alone; the other three relations then follow.  Texts are ordered,
and so are finite numbers, but numbers also count as equal when they are nearer to each other than the
tolerance, while less and greater allow for none.  Numbers that are so near without being the same tell
another story: they count as equal, and still one of them is less.

A condition whose operands pair says of them what the relations say of the pair.  So it tells the one story
or the other, and which of them is a matter of how near the two are.

Main definitions:

* `Rulebook.OneStory` — what the relations say of two things that are ordered;
* `Rulebook.NearStory` — what they say of numbers that are near each other;
* `Rulebook.Pairing.Near` — being different numbers that are nearer to each other than the tolerance.

Main results:

* `Rulebook.Pairing.exactlyOne_of_not_near` — less, equal or greater, where nothing is near;
* `Rulebook.Pairing.oneStory`, `Rulebook.Pairing.nearStory` — the stories of two values;
* `Rulebook.relations_tell_one_story` — **the story of a condition**.
-/

import Rulebook.Proofs.Complement

set_option autoImplicit false

namespace Rulebook

/-! ### Stories -/

/-- Whether one of three is so and the others are not. -/
def ExactlyOne (P Q R : Prop) : Prop := (P ∧ ¬Q ∧ ¬R) ∨ (¬P ∧ Q ∧ ¬R) ∨ (¬P ∧ ¬Q ∧ R)

/-- What the relations say of two things that are ordered. -/
structure OneStory (holds : Relation → Prop) : Prop where
  exactlyOne : ExactlyOne (holds .lt) (holds .eq) (holds .gt)
  ge : holds .ge ↔ holds .gt ∨ holds .eq
  le : holds .le ↔ holds .lt ∨ holds .eq
  ne : holds .ne ↔ holds .lt ∨ holds .gt

/-- What the relations say of two things that count as equal while one of them is less. -/
structure NearStory (holds : Relation → Prop) : Prop where
  eq : holds .eq
  not_ne : ¬holds .ne
  lt_iff_not_gt : holds .lt ↔ ¬holds .gt
  ge : holds .ge ↔ holds .gt
  le : holds .le ↔ holds .lt

section Stories

variable {holds : Relation → Prop} (hcomplement : ∀ r : Relation, holds r.complement ↔ ¬holds r)

include hcomplement

/-- Where one of three relations holds and the others are complements, the relations tell one story. -/
theorem OneStory.of_exactlyOne (h : ExactlyOne (holds .lt) (holds .eq) (holds .gt)) :
    OneStory holds where
  exactlyOne := h
  ge := (hcomplement .lt).trans (by unfold ExactlyOne at h; tauto)
  le := (hcomplement .gt).trans (by unfold ExactlyOne at h; tauto)
  ne := (hcomplement .eq).trans (by unfold ExactlyOne at h; tauto)

theorem NearStory.of_eq (heq : holds .eq) (h : holds .lt ↔ ¬holds .gt) : NearStory holds where
  eq := heq
  not_ne := fun hne => (hcomplement .eq).1 hne heq
  lt_iff_not_gt := h
  ge := (hcomplement .lt).trans (by tauto)
  le := (hcomplement .gt).trans h.symm

end Stories

/-! ### Pairs -/

namespace Pairing

/-- Whether two values are different numbers that are nearer to each other than the tolerance. -/
def Near : Pairing → Prop
  | numbers a b => (a < b ∨ b < a) ∧ (a - b).abs < tolerance
  | texts _ _ => False

/-- **Of two values that are not near each other one is less, or they are equal.** -/
theorem exactlyOne_of_not_near {pair : Pairing} (hfinite : pair.IsFinite) (hnear : ¬pair.Near) :
    ExactlyOne (pair.holds .lt = true) (pair.holds .eq = true) (pair.holds .gt = true) := by
  cases pair with
  | texts s t =>
      simp only [holds, compareTexts, decide_eq_true_iff, beq_iff_eq]
      by_cases hlt : s < t
      · exact .inl ⟨hlt, fun h => String.lt_irrefl t (h ▸ hlt), String.lt_asymm hlt⟩
      · by_cases hgt : t < s
        · exact .inr (.inr ⟨hlt, fun h => String.lt_irrefl t (h ▸ hgt), hgt⟩)
        · exact .inr (.inl ⟨hlt,
            String.le_antisymm (String.not_lt.1 hgt) (String.not_lt.1 hlt), hgt⟩)
  | numbers a b =>
      simp only [holds, compareNumbers, decide_eq_true_iff]
      by_cases hlt : a < b
      · exact .inl ⟨hlt, fun h => hnear ⟨.inl hlt, h⟩, Magnitude.asymm_of_lt hlt⟩
      · by_cases hgt : b < a
        · exact .inr (.inr ⟨hlt, fun h => hnear ⟨.inr hgt, h⟩, hgt⟩)
        · refine .inr (.inl ⟨hlt, ?_, hgt⟩)
          rw [Magnitude.abs_sub_eq_zero hfinite.1 hfinite.2 hlt hgt]
          decide +kernel

variable {pair : Pairing}

theorem holds_complement_iff (hfinite : pair.IsFinite) (r : Relation) :
    pair.holds r.complement = true ↔ ¬pair.holds r = true := by
  rw [holds_complement hfinite, Bool.not_eq_true', Bool.not_eq_true]

/-- Values that are not near each other tell one story. -/
theorem oneStory (hfinite : pair.IsFinite) (hnear : ¬pair.Near) :
    OneStory fun r => pair.holds r = true :=
  .of_exactlyOne (holds_complement_iff hfinite) (exactlyOne_of_not_near hfinite hnear)

/-- Numbers that are near each other tell the other. -/
theorem nearStory (hfinite : pair.IsFinite) (hnear : pair.Near) :
    NearStory fun r => pair.holds r = true := by
  cases pair with
  | texts s t => exact hnear.elim
  | numbers a b =>
      obtain ⟨hdiffer, hdistance⟩ := hnear
      refine .of_eq (holds_complement_iff hfinite) (decide_eq_true hdistance) ?_
      simp only [holds, compareNumbers, decide_eq_true_iff]
      exact ⟨Magnitude.asymm_of_lt, hdiffer.resolve_right⟩

end Pairing

/-! ### Conditions -/

/-- **The story of a condition**: where the inclusive relations are evaluated, a condition that compares a
scalar with a literal, loosely or one of the same kind, has a verdict under every relation, and the
verdicts tell one story, unless the two are compared as numbers that are near each other. -/
theorem relations_tell_one_story {p : Policy} {data : Json} {left : Expr} {o : Operand}
    {value : Scalar} (hinclusive : p.inclusive = .evaluate) (hyield : left.yield p data = .ok o)
    (hleft : o.IsFinite) (hright : (Operand.ofScalar value).IsFinite)
    (hkinds : p.comparison = .loose ∨ o.kind = (Operand.ofScalar value).kind) (path : Path) :
    let verdict (r : Relation) := evaluateCondition p data path r left (.literal value)
    (∀ r, ∃ b, verdict r = .ok b) ∧
    ∃ pair, pairing? p.comparison o (.ofScalar value) = some pair ∧
      (¬pair.Near → OneStory fun r => verdict r = .ok true) ∧
      (pair.Near → NearStory fun r => verdict r = .ok true) := by
  intro verdict
  obtain ⟨pair, hpair⟩ := exists_pairing hkinds
  have hverdict (r : Relation) : verdict r = .ok (pair.holds r) :=
    evaluateCondition_of_pairing? hinclusive hyield hpair path r
  have hholds : (fun r => verdict r = .ok true) = fun r => pair.holds r = true := by
    funext r
    rw [hverdict, Except.ok.injEq]
  have hfinite := isFinite_of_pairing? hleft hright hpair
  refine ⟨fun r => ⟨_, hverdict r⟩, pair, hpair, ?_⟩
  rw [hholds]
  exact ⟨Pairing.oneStory hfinite, Pairing.nearStory hfinite⟩

/-- Half is far enough from one for the relations to tell one story, and both are numbers, so that they tell
it under a strict policy too. -/
theorem half_load_is_below_one :
    let data := Json.object [("load", .number (.double 0.5))]
    let verdict (r : Relation) :=
      evaluateCondition .strict data .root r (.reference "load" none) (.literal (.number 1))
    OneStory fun r => verdict r = .ok true := by
  intro data verdict
  have hyield : (Expr.reference "load" none).yield .strict data = .ok (.number 0.5) := rfl
  have hhalf : (0.5 : Float).isFinite = true := by decide +kernel
  have hone : (Operand.ofScalar (.number 1)).IsFinite :=
    show (1 : Float).isFinite = true by decide +kernel
  have hfar : ¬(Pairing.numbers 0.5 1).Near := by
    have hdistance : ¬((0.5 : Float) - 1).abs < tolerance := by decide +kernel
    exact fun hnear => hdistance hnear.2
  have hkind : (Operand.number 0.5).kind = (Operand.ofScalar (.number 1)).kind := by
    rw [Operand.ofScalar, Operand.kind, Operand.kind]
  obtain ⟨-, pair, hpair, hstory, -⟩ :=
    relations_tell_one_story rfl hyield hhalf hone (.inr hkind) .root
  obtain rfl : pair = .numbers 0.5 1 := (Option.some_inj.1 hpair).symm
  exact hstory hfar

/-- A number that is nearer to zero than the tolerance is equal to zero, and yet it is greater. -/
theorem tiny_load_is_zero_and_more :
    let data := Json.object [("load", .number (.double 1e-17))]
    let verdict (r : Relation) :=
      evaluateCondition .lenient data .root r (.reference "load" none) (.literal (.number 0))
    ((Expr.reference "load" none).yield .lenient data = .ok (.number 1e-17) ∧
      (1e-17 : Float).isFinite = true ∧ (0 : Float).isFinite = true) ∧
    verdict .eq = .ok true ∧ verdict .gt = .ok true ∧ ¬OneStory fun r => verdict r = .ok true := by
  intro data verdict
  have hequal : verdict .eq = .ok true := by decide +kernel
  have hgreater : verdict .gt = .ok true := by decide +kernel
  refine ⟨⟨rfl, by decide +kernel, by decide +kernel⟩, hequal, hgreater, fun hstory => ?_⟩
  rcases hstory.exactlyOne with ⟨-, hunequal, -⟩ | ⟨-, -, hless⟩ | ⟨-, hunequal, -⟩
  · exact hunequal hequal
  · exact hless hgreater
  · exact hunequal hequal

end Rulebook
