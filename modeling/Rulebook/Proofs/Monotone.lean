/-
**What an evaluation that knows less can match.**

Under a forgiving policy an attribute that is missing fails its condition.  An evaluation may be told of
fewer attributes than another because its data lacks them, or because its policy counts more values as
missing; and its policy may leave relations out that the other evaluates.  It then matches fewer
conditions, and since joining conditions never turns a lost condition into a match, it matches no
expression that the other does not.  This needs that no attribute carries a default, which stands in
where the data says nothing.

Main definitions:

* `Rulebook.Expr.WithoutDefaults` — no attribute carries a default;
* `Rulebook.KnowsLess` — an evaluation that is told no more than another;
* `Rulebook.Expr.MatchesLess` — an evaluation that matches no more than another.

Main results:

* `Rulebook.evaluateCondition_grantsLess` — a condition that holds for who knows less holds for who
  knows more;
* `Rulebook.Expr.exists_observeAt_seesLess` — what is seen of an expression, by induction over it;
* `Rulebook.Expr.missing_data_grants_nothing` — **missing data never grants a match**;
* `Rulebook.Expr.lenient_policy_matches_more` — **the lenient policy matches all that an older one
  does**.
-/

import Rulebook.Proofs.Combination
import Rulebook.Proofs.Refusal
import Rulebook.Proofs.Rendering

set_option autoImplicit false

namespace Rulebook

/-! ### Expressions without defaults -/

namespace Expr

/-- A node that carries no default. -/
def CarriesNoDefault : Expr → Prop
  | reference _ default => default = none
  | _ => True

/-- No attribute of the expression carries a default. -/
def WithoutDefaults (e : Expr) : Prop := ∀ n ∈ e.nodes, n.CarriesNoDefault

/-- What is read from rule text has no defaults. -/
theorem withoutDefaults_of_parse {rule : String} {e : Expr} (h : parse rule = .ok e) :
    e.WithoutDefaults := by
  intro n hn
  have hclean := (clean_of_parse h).1.nodes n hn
  cases n with
  | reference name default => exact hclean.1
  | _ => trivial

end Expr

/-! ### Knowing less -/

/-- An evaluation under `p` on `d` is told no more about an expression than one under `p'` on `d'`. -/
structure KnowsLess (p : Policy) (d : Json) (p' : Policy) (d' : Json) (e : Expr) : Prop where
  forgives : p.Forgives
  forgives' : p'.Forgives
  /-- The relations that the one evaluates are evaluated by the other. -/
  inclusive : p'.inclusive = .legacyFalse → p.inclusive = .legacyFalse
  withoutDefaults : e.WithoutDefaults
  /-- Of an attribute the one is told nothing, or what the other is told. -/
  resolve : ∀ name ∈ e.mentions,
    resolve p d name = .missing ∨ resolve p d name = resolve p' d' name

section KnowsLess

variable {p p' : Policy} {d d' : Json}

theorem KnowsLess.of_logical {c : Connective} {left right : Expr}
    (h : KnowsLess p d p' d' (.logical c left right)) :
    KnowsLess p d p' d' left ∧ KnowsLess p d p' d' right := by
  obtain ⟨hp, hp', hinclusive, hdefaults, hresolve⟩ := h
  obtain ⟨-, hleft, hright⟩ := Expr.forall_nodes_logical.1 hdefaults
  obtain ⟨hl, hr⟩ := List.forall_mem_append.1 hresolve
  exact ⟨⟨hp, hp', hinclusive, hleft, hl⟩, ⟨hp, hp', hinclusive, hright, hr⟩⟩

theorem KnowsLess.of_comparison {r : Relation} {left right : Expr}
    (h : KnowsLess p d p' d' (.comparison r left right)) : KnowsLess p d p' d' left :=
  { h with
    withoutDefaults := (Expr.forall_nodes_comparison.1 h.withoutDefaults).2.1
    resolve := (List.forall_mem_append.1 h.resolve).1 }

end KnowsLess

/-! ### Presence -/

theorem presentUnlessFalsy_eq (p : Policy) (o : Operand) :
    presentUnlessFalsy p o = .missing ∨ presentUnlessFalsy p o = .present o := by
  unfold presentUnlessFalsy
  split
  · exact .inl rfl
  · exact .inr rfl

/-- A value is missing, or what it is where it need not count as true. -/
theorem resolve_presence (p p' : Policy) (h : p'.presence = .strict) (d : Json) (name : String) :
    resolve p d name = .missing ∨ resolve p d name = resolve p' d name := by
  have hstrict : ∀ o, presentUnlessFalsy p' o = .present o := by
    intro o
    rw [presentUnlessFalsy, h, if_neg (by simp)]
  unfold resolve resolveValue
  split
  · exact .inl rfl
  · exact .inl rfl
  · rw [hstrict]; exact presentUnlessFalsy_eq p _
  · rw [hstrict]; exact presentUnlessFalsy_eq p _
  · rw [hstrict]; exact presentUnlessFalsy_eq p _
  · exact .inr rfl
  · exact .inr rfl

/-! ### Conditions -/

/-- Two verdicts, the first of which is for a condition only where the second is. -/
def GrantsLess (x y : Except EvaluationError Bool) : Prop :=
  ∃ v v', x = .ok v ∧ y = .ok v' ∧ (v = true → v' = true)

theorem grantsLess_of_false {y : Except EvaluationError Bool} (h : ∃ v, y = .ok v) :
    GrantsLess (.ok false) y := by
  obtain ⟨v, hv⟩ := h
  exact ⟨false, v, rfl, hv, fun h => nomatch h⟩

theorem grantsLess_of_eq {x y : Except EvaluationError Bool} (h : x = y) (hy : ∃ v, y = .ok v) :
    GrantsLess x y := by
  obtain ⟨v, hv⟩ := hy
  exact ⟨v, v, h.trans hv, hv, id⟩

theorem Policy.Forgives.rejectsUnsupported_eq {p : Policy} (h : p.Forgives) :
    p.rejectsUnsupported = false := by
  rw [Policy.rejectsUnsupported, h.comparison]
  rfl

section Conditions

variable {p p' : Policy} {d d' : Json} (path : Path) (r : Relation)

theorem misplacedVerdict_of_forgives (hp : p.Forgives) (e : Expr) :
    misplacedVerdict p path e = .ok false := by
  rw [misplacedVerdict, hp.rejectsUnsupported_eq]
  rfl

theorem mismatch_of_forgives (hp : p.Forgives) (left right : String) :
    mismatch p r left right = .ok false := by
  rw [mismatch, hp.rejectsUnsupported_eq]
  rfl

/-- Values compare alike under all forgiving policies. -/
theorem compareOperands_of_forgives (hp : p.Forgives) (hp' : p'.Forgives) (left right : Operand) :
    compareOperands p r left right = compareOperands p' r left right := by
  unfold compareOperands
  rw [hp.comparison, hp'.comparison]

/-- A missing attribute without a default fails its condition. -/
theorem evaluateAgainst_of_missing (hp : p.Forgives) {name : String}
    (h : resolve p d name = .missing) (right : Operand) :
    evaluateAgainst p d path r (.reference name none) right = .ok false := by
  simp only [evaluateAgainst, h, hp.missing]

/-- A left operand of which both are told the same holds alike. -/
theorem evaluateAgainst_of_resolve (hp : p.Forgives) (hp' : p'.Forgives) {left : Expr}
    (h : ∀ name default, left = .reference name default → resolve p d name = resolve p' d' name)
    (right : Operand) :
    evaluateAgainst p d path r left right = evaluateAgainst p' d' path r left right := by
  cases left with
  | reference name default =>
      simp only [evaluateAgainst, h name default rfl, compareOperands_of_forgives r hp hp',
        mismatch_of_forgives r hp, mismatch_of_forgives r hp', hp.missing, hp'.missing]
  | literal value => exact compareOperands_of_forgives r hp hp' _ _
  | comparison r' left right =>
      simp only [evaluateAgainst, misplacedVerdict_of_forgives _ hp, misplacedVerdict_of_forgives _ hp']
  | logical c left right =>
      simp only [evaluateAgainst, misplacedVerdict_of_forgives _ hp, misplacedVerdict_of_forgives _ hp']

theorem evaluateAgainst_grantsLess {left : Expr} (h : KnowsLess p d p' d' left) (right : Operand) :
    GrantsLess (evaluateAgainst p d path r left right) (evaluateAgainst p' d' path r left right) := by
  have hverdict := h.forgives'.exists_eq_ok (failsAsAsked_evaluateAgainst p' d' path r left right)
  by_cases hmissing : ∃ name, left = .reference name none ∧ resolve p d name = .missing
  · obtain ⟨name, rfl, hname⟩ := hmissing
    rw [evaluateAgainst_of_missing path r h.forgives hname]
    exact grantsLess_of_false hverdict
  · refine grantsLess_of_eq ?_ hverdict
    refine evaluateAgainst_of_resolve path r h.forgives h.forgives' (fun name default hleft => ?_) right
    subst hleft
    obtain rfl : default = none := h.withoutDefaults _ List.mem_cons_self
    exact (h.resolve name List.mem_cons_self).resolve_left fun hname => hmissing ⟨name, rfl, hname⟩

/-- **A condition that holds for who knows less holds for who knows more.** -/
theorem evaluateCondition_grantsLess {left right : Expr}
    (h : KnowsLess p d p' d' (.comparison r left right)) :
    GrantsLess (evaluateCondition p d path r left right)
      (evaluateCondition p' d' path r left right) := by
  have hverdict := h.forgives'.exists_eq_ok (failsAsAsked_evaluateCondition p' d' path r left right)
  by_cases hleft : r.isInclusive ∧ p.inclusive = .legacyFalse
  · have hfalse : evaluateCondition p d path r left right = .ok false := by
      unfold evaluateCondition
      rw [if_pos hleft]
    rw [hfalse]
    exact grantsLess_of_false hverdict
  · have hleft' : ¬ (r.isInclusive ∧ p'.inclusive = .legacyFalse) :=
      fun h' => hleft ⟨h'.1, h.inclusive h'.2⟩
    unfold evaluateCondition
    rw [if_neg hleft, if_neg hleft']
    split
    · exact evaluateAgainst_grantsLess path r h.of_comparison _
    · rw [misplacedVerdict_of_forgives _ h.forgives, misplacedVerdict_of_forgives _ h.forgives']
      exact grantsLess_of_false ⟨false, rfl⟩

end Conditions

/-! ### Expressions -/

theorem Connective.apply_mono (c : Connective) {a a' b b' : Bool} (ha : a = true → a' = true)
    (hb : b = true → b' = true) (h : c.apply a b = true) : c.apply a' b' = true := by
  cases c with
  | and =>
      rw [apply_and, Bool.and_eq_true] at h ⊢
      exact ⟨ha h.1, hb h.2⟩
  | or =>
      rw [apply_or, Bool.or_eq_true] at h ⊢
      exact h.imp ha hb

/-- What is seen of an expression where no more of it matches: the verdict is for it only if the other
is, and the conditions that matched are among the others, in their order. -/
structure SeesLess (s s' : Bool × List Observation) : Prop where
  verdict : s.1 = true → s'.1 = true
  matched : (s.2.filterMap Observation.matched?).Sublist (s'.2.filterMap Observation.matched?)

theorem SeesLess.condition {v v' : Bool} (h : v = true → v' = true) (path : Path) (e : Expr) :
    SeesLess (v, [.condition path e v]) (v', [.condition path e v']) := by
  refine ⟨h, ?_⟩
  cases v with
  | false => exact List.nil_sublist _
  | true =>
      obtain rfl : v' = true := h rfl
      exact .refl _

theorem SeesLess.joined {l l' r r' : Bool × List Observation} (hl : SeesLess l l')
    (hr : SeesLess r r') (c : Connective) (path : Path) :
    SeesLess (c.apply l.1 r.1, l.2 ++ r.2 ++ [.joined path c l.1 r.1])
      (c.apply l'.1 r'.1, l'.2 ++ r'.2 ++ [.joined path c l'.1 r'.1]) := by
  refine ⟨c.apply_mono hl.verdict hr.verdict, ?_⟩
  simp only [List.filterMap_append]
  exact (hl.matched.append hr.matched).append (.refl _)

namespace Expr

variable {p p' : Policy} {d d' : Json}

/-- **What is seen of an expression by who knows less**: fewer conditions that match, and no verdict for
it that the other does not see. -/
theorem exists_observeAt_seesLess (path : Path) {e : Expr} (h : KnowsLess p d p' d' e) :
    ∃ s s', e.observeAt p d path = .ok s ∧ e.observeAt p' d' path = .ok s' ∧ SeesLess s s' := by
  induction e generalizing path with
  | reference name default =>
      simp only [observeAt, misplacedVerdict_of_forgives path h.forgives,
        misplacedVerdict_of_forgives path h.forgives']
      exact ⟨_, _, rfl, rfl, id, .refl _⟩
  | literal value =>
      simp only [observeAt, misplacedVerdict_of_forgives path h.forgives,
        misplacedVerdict_of_forgives path h.forgives']
      exact ⟨_, _, rfl, rfl, id, .refl _⟩
  | comparison r left right _ _ =>
      obtain ⟨v, v', hv, hv', hgrants⟩ := evaluateCondition_grantsLess path r h
      refine ⟨_, _, ?_, ?_, .condition hgrants path (comparison r left right)⟩
      · rw [observeAt, hv]
        rfl
      · rw [observeAt, hv']
        rfl
  | logical c left right ihl ihr =>
      obtain ⟨hleft, hright⟩ := h.of_logical
      obtain ⟨l, l', hl, hl', hless⟩ := ihl (path.child .left) hleft
      obtain ⟨r, r', hr, hr', hless'⟩ := ihr (path.child .right) hright
      refine ⟨_, _, ?_, ?_, hless.joined hless' c path⟩
      · rw [observeAt, hl, hr]
        rfl
      · rw [observeAt, hl', hr']
        rfl

/-- The expression has a verdict in either evaluation; it matches under `p` on `d` only if it matches
under `p'` on `d'`; and the conditions that match under `p` on `d` are, in their order, among those that
match under `p'` on `d'`. -/
def MatchesLess (e : Expr) (p : Policy) (d : Json) (p' : Policy) (d' : Json) : Prop :=
  (e.evaluate p d = true → e.evaluate p' d' = true) ∧
    ∀ traced, ∃ o o', e.execute p d traced = .ok o ∧ e.execute p' d' traced = .ok o' ∧
      e.tryEvaluate p d = .ok o.matched ∧ e.tryEvaluate p' d' = .ok o'.matched ∧
      (o.matched = true → o'.matched = true) ∧
      o.matchedConditions.Sublist o'.matchedConditions

/-- Who knows less matches less. -/
theorem matchesLess_of_knowsLess {e : Expr} (h : KnowsLess p d p' d' e) :
    e.MatchesLess p d p' d' := by
  obtain ⟨s, s', hs, hs', hless⟩ := exists_observeAt_seesLess .root h
  have hverdict : e.tryEvaluate p d = .ok s.1 := tryEvaluate_eq_ok_iff.2 ⟨s, hs, rfl⟩
  have hverdict' : e.tryEvaluate p' d' = .ok s'.1 := tryEvaluate_eq_ok_iff.2 ⟨s', hs', rfl⟩
  constructor
  · rw [evaluate, evaluate, hverdict, hverdict']
    exact hless.verdict
  · intro traced
    exact ⟨outcomeOf traced s, outcomeOf traced s', execute_eq_ok_iff.2 ⟨s, hs, rfl⟩,
      execute_eq_ok_iff.2 ⟨s', hs', rfl⟩, hverdict, hverdict', hless.verdict, hless.matched⟩

/-! ### Less data -/

/-- **Missing data never grants a match.**  Let the data of an evaluation that fails closed and compares
loosely lack, or have `null` for, some of the attributes that an expression without defaults lists, and
agree with the full data on the others.  Then the expression matches on it only if it matches on the
full data, and the conditions that match are among those that match there, in their order. -/
theorem missing_data_grants_nothing {e : Expr} (he : e.WithoutDefaults) (presence : Presence)
    (inclusive : Inclusive) {full part : Json}
    (h : ∀ name ∈ e.attributes, part.field? name = full.field? name ∨
      part.field? name = none ∨ part.field? name = some .null) :
    e.MatchesLess ⟨presence, .loose, inclusive, .failClosed⟩ part
      ⟨presence, .loose, inclusive, .failClosed⟩ full := by
  refine matchesLess_of_knowsLess ⟨⟨rfl, rfl⟩, ⟨rfl, rfl⟩, id, he, fun name hname => ?_⟩
  rcases h name (mem_attributes.2 hname) with hsame | habsent | hnull
  · exact .inr (by rw [resolve, resolve, hsame])
  · exact .inl (by rw [resolve, habsent]; rfl)
  · exact .inl (by rw [resolve, hnull]; rfl)

/-- With an attribute absent and another one `null`, a match is left that needs neither. -/
theorem absent_and_null_attributes_grant_nothing :
    let e : Expr := .logical .and
      (.logical .or
        (.logical .or (.comparison .ge (.reference "user.age" none) (.literal (.number 30)))
          (.comparison .ne (.reference "boss" none) (.literal (.string "ann"))))
        (.comparison .ne (.reference "team" none) (.literal (.string "ops"))))
      (.comparison .gt (.reference "score" none) (.literal (.number 1)))
    let full : Json := .object [("boss", .string "bob"), ("score", .number (.integer 2)),
      ("team", .string "dev"), ("user", .object [("age", .number (.integer 41))])]
    let part : Json := .object [("boss", .null), ("score", .number (.integer 2)),
      ("team", .string "dev"), ("user", .object [])]
    e.MatchesLess .lenient part .lenient full ∧
      (e.execute .lenient part false).toOption.map Outcome.matchedConditions =
        some ["root.left.right: team != \"ops\"", "root.right: score > 1"] := by
  intro e full part
  have hdefaults : e.WithoutDefaults := by
    simp [e, WithoutDefaults, nodes, CarriesNoDefault]
  have hattributes : e.attributes = ["boss", "score", "team", "user.age"] := by decide
  have hfields : ∀ name ∈ e.attributes, part.field? name = full.field? name ∨
      part.field? name = none ∨ part.field? name = some .null := by
    rw [hattributes]
    simp only [List.forall_mem_cons, List.not_mem_nil, false_implies, implies_true, and_true]
    exact ⟨.inr (.inr rfl), .inl rfl, .inl rfl, .inr (.inl rfl)⟩
  exact ⟨missing_data_grants_nothing hdefaults .strict .evaluate hfields, by decide +kernel⟩

/-! ### Older policies -/

/-- **The lenient policy matches whatever an older one does.**  Let an expression without defaults be
evaluated with loose comparison and failing closed, whatever counts as present and whether or not
inclusive relations are evaluated.  It matches only if it matches under the lenient policy, and the
conditions that match are among those that match there, in their order.  So it is for every rule under
the legacy policy. -/
theorem lenient_policy_matches_more (data : Json) :
    (∀ e : Expr, e.WithoutDefaults → ∀ presence inclusive,
      e.MatchesLess ⟨presence, .loose, inclusive, .failClosed⟩ data
        ⟨.strict, .loose, .evaluate, .failClosed⟩ data) ∧
    ∀ rule e, parse rule = .ok e → e.MatchesLess .legacy data .lenient data := by
  have hlenient : ∀ e : Expr, e.WithoutDefaults → ∀ presence inclusive,
      e.MatchesLess ⟨presence, .loose, inclusive, .failClosed⟩ data .lenient data := by
    intro e he presence inclusive
    exact matchesLess_of_knowsLess
      { forgives := ⟨rfl, rfl⟩
        forgives' := Policy.forgives_lenient
        inclusive := fun h => nomatch h
        withoutDefaults := he
        resolve := fun name _ => resolve_presence _ .lenient rfl data name }
  exact ⟨hlenient, fun rule e h => hlenient e (withoutDefaults_of_parse h) .truthy .legacyFalse⟩

/-- A rule that matches under the legacy policy by its last condition alone matches under the lenient
one by a zero and an inclusive relation as well. -/
theorem legacy_match_is_lenient_match :
    let rule := "score == 0 OR age >= 30 OR team == 'ops'"
    let data : Json := .object [("age", .number (.integer 41)), ("score", .number (.integer 0)),
      ("team", .string "ops")]
    ∃ e, parse rule = .ok e ∧ e.MatchesLess .legacy data .lenient data ∧
      e.MatchesLess ⟨.truthy, .loose, .evaluate, .failClosed⟩ data .lenient data ∧
      (e.execute .legacy data false).toOption.map Outcome.matchedConditions =
        some ["root.right: team == \"ops\""] ∧
      (e.execute .lenient data false).toOption.map Outcome.matchedConditions =
        some ["root.left.left: score == 0", "root.left.right: age >= 30",
          "root.right: team == \"ops\""] := by
  intro rule data
  have hparse : parse rule = .ok (.logical .or
      (.logical .or (.comparison .eq (.reference "score" none) (.literal (.number 0)))
        (.comparison .ge (.reference "age" none) (.literal (.number 30))))
      (.comparison .eq (.reference "team" none) (.literal (.string "ops")))) := by decide +kernel
  obtain ⟨hpolicies, hrules⟩ := lenient_policy_matches_more data
  exact ⟨_, hparse, hrules rule _ hparse,
    hpolicies _ (withoutDefaults_of_parse hparse) .truthy .evaluate, by decide +kernel,
    by decide +kernel⟩

end Expr

end Rulebook
