/-
**Every test is made, and the leftmost error counts.**

The tests of an expression are its conditions and whatever else stands in the place of one.  Joining
them does not skip any: an evaluation fails if and only if one of its tests fails by itself, whatever
the others say, and then as the leftmost one that does.  Where none fails, the verdict is what the
connectives make of the verdicts of the tests.

Main definitions:

* `Rulebook.Judged.verdict` — the verdict on a node by itself, at its own place;
* `Rulebook.Expr.value` — what the connectives make of given truth values.

Main results:

* `Rulebook.Expr.agree_tests` — an expression fails as the row of its tests does;
* `Rulebook.Expr.verdictAt_eq_value` — the verdict from those of the tests;
* `Rulebook.Expr.leftmost_failing_test_decides` — **the law of evaluation**.
-/

import Rulebook.Proofs.JudgedNodes

set_option autoImplicit false

namespace Rulebook

section Verdicts

variable (p : Policy) (data : Json)

namespace Judged

/-- The verdict on the node by itself, if its way starts at `base`. -/
def verdictFrom (base : Path) (x : Judged) : Except EvaluationError Bool :=
  x.node.verdictAt p data (base.along x.way)

/-- The verdict on the node by itself, at its own place. -/
def verdict (x : Judged) : Except EvaluationError Bool := x.verdictFrom p data .root

theorem verdictFrom_below (base : Path) (s : Side) (x : Judged) :
    (x.below s).verdictFrom p data base = x.verdictFrom p data (base.child s) := by
  rw [verdictFrom, way_below, Path.along_cons, node_below, verdictFrom]

theorem verdictFrom_nil (base : Path) (e : Expr) :
    verdictFrom p data base ⟨[], e⟩ = e.verdictAt p data base := by
  rw [verdictFrom, Path.along_nil]

end Judged

/-- A verdict does not depend on the place; only an error may. -/
theorem Expr.verdictAt_eq_ok_iff {path : Path} {e : Expr} {v : Bool} :
    e.verdictAt p data path = .ok v ↔ e.tryEvaluate p data = .ok v := by
  have hmoved := e.verdictAt_under p data path .root
  rw [Path.under_root] at hmoved
  rw [hmoved, Expr.tryEvaluate]
  cases e.verdictAt p data .root <;> simp [Except.mapError]

end Verdicts

/-! ### Errors -/

namespace Expr

section Verdicts

variable (p : Policy) (data : Json)

theorem verdictAt_logical_eq (path : Path) (c : Connective) (left right : Expr) :
    (logical c left right).verdictAt p data path =
      (left.verdictAt p data (path.child .left)).bind fun l =>
        (right.verdictAt p data (path.child .right)).map (c.apply l) := by
  rw [verdictAt]
  rfl

/-- The tests of a joined expression are made one side after the other. -/
theorem mapM_tests_logical (path : Path) (c : Connective) (left right : Expr) :
    (logical c left right).tests.mapM (Judged.verdictFrom p data path) =
      (left.tests.mapM (Judged.verdictFrom p data (path.child .left))).bind fun ls =>
        (right.tests.mapM (Judged.verdictFrom p data (path.child .right))).map (ls ++ ·) := by
  have hbelow (s : Side) : (Judged.verdictFrom p data path) ∘ Judged.below s =
      Judged.verdictFrom p data (path.child s) :=
    funext fun x => x.verdictFrom_below p data path s
  rw [tests_logical, List.mapM_append, List.mapM_map, List.mapM_map, hbelow, hbelow]
  rfl

/-- An expression fails as the row of its tests does. -/
theorem agree_tests (path : Path) (e : Expr) :
    Agree (fun _ _ => True) (e.verdictAt p data path)
      (e.tests.mapM (Judged.verdictFrom p data path)) := by
  induction e using joined_induction generalizing path with
  | single e h =>
      rw [tests_of_not_logical h, mapM_cons_eq, List.mapM_nil, Judged.verdictFrom_nil]
      cases e.verdictAt p data path with
      | error error => exact .error error
      | ok v => exact .ok trivial
  | joined c left right ihl ihr =>
      rw [verdictAt_logical_eq, mapM_tests_logical]
      exact (ihl _).bind fun _ _ _ => (ihr _).map fun _ _ _ => trivial

/-- The error of an expression is that of its leftmost test that fails. -/
theorem verdictAt_eq_error_iff {path : Path} {e : Expr} {error : EvaluationError} :
    e.verdictAt p data path = .error error ↔
      ∃ before x after, e.tests = before ++ x :: after ∧
        (∀ b ∈ before, ∃ v, b.verdictFrom p data path = .ok v) ∧
        x.verdictFrom p data path = .error error := by
  rw [← mapM_eq_error_iff, (agree_tests p data path e).eq_error_iff]

end Verdicts

/-! ### Verdicts -/

/-- What the connectives of an expression make of truth values of its tests, which are given by the
ways to them. -/
def value : (List Side → Bool) → Expr → Bool
  | verdicts, logical c left right =>
    c.apply (left.value fun way => verdicts (.left :: way))
      (right.value fun way => verdicts (.right :: way))
  | verdicts, _ => verdicts []

/-- The verdict on the node that a way leads to. -/
def verdictAlong (p : Policy) (data : Json) (e : Expr) (way : List Side) : Bool :=
  ((e.reach? way).map (evaluate p data)).getD false

theorem value_of_not_logical {e : Expr} (h : e.isLogical = false) (verdicts : List Side → Bool) :
    e.value verdicts = verdicts [] := by
  cases e with
  | logical c left right => cases h
  | reference name default => rfl
  | literal value => rfl
  | comparison r left right => rfl

section Verdicts

variable {p : Policy} {data : Json}

/-- Where every test has a verdict, the verdict is what the connectives make of them. -/
theorem verdictAt_eq_value (path : Path) (e : Expr) (verdicts : List Side → Bool)
    (h : ∀ x ∈ e.tests, x.verdictFrom p data path = .ok (verdicts x.way)) :
    e.verdictAt p data path = .ok (e.value verdicts) := by
  induction e using joined_induction generalizing path verdicts with
  | single e hsingle =>
      rw [value_of_not_logical hsingle, ← Judged.verdictFrom_nil]
      rw [tests_of_not_logical hsingle] at h
      exact h ⟨[], e⟩ List.mem_cons_self
  | joined c left right ihl ihr =>
      rw [tests_logical] at h
      obtain ⟨hl, hr⟩ := List.forall_mem_append.1 h
      have hleft := ihl (path.child .left) (fun way => verdicts (.left :: way)) fun x hx => by
        rw [← Judged.verdictFrom_below]
        exact hl _ (List.mem_map_of_mem hx)
      have hright := ihr (path.child .right) (fun way => verdicts (.right :: way)) fun x hx => by
        rw [← Judged.verdictFrom_below]
        exact hr _ (List.mem_map_of_mem hx)
      rw [verdictAt_logical_eq, hleft, hright]
      rfl

/-- Where an expression has a verdict, each of its tests has one. -/
theorem exists_verdictFrom {path : Path} {e : Expr} {v : Bool}
    (h : e.verdictAt p data path = .ok v) {x : Judged} (hx : x ∈ e.tests) :
    ∃ w, x.verdictFrom p data path = .ok w := by
  cases hrow : e.tests.mapM (Judged.verdictFrom p data path) with
  | error error =>
      rw [(verdictAt_eq_error_iff p data).2 (mapM_eq_error_iff.1 hrow)] at h
      cases h
  | ok ys => exact exists_of_mapM hrow hx

/-- A verdict is there exactly if all tests have one, and is what the connectives make of them. -/
theorem verdictAt_eq_ok_iff_value {path : Path} {e : Expr} {v : Bool} :
    e.verdictAt p data path = .ok v ↔ ∃ verdicts : List Side → Bool,
      (∀ x ∈ e.tests, x.verdictFrom p data path = .ok (verdicts x.way)) ∧ e.value verdicts = v := by
  constructor
  · intro h
    have htests : ∀ x ∈ e.tests, x.verdictFrom p data path = .ok (e.verdictAlong p data x.way) := by
      intro x hx
      obtain ⟨w, hw⟩ := exists_verdictFrom h hx
      have hevaluate : x.node.evaluate p data = w := by
        rw [evaluate, (verdictAt_eq_ok_iff p data).1 hw]
      rw [hw, verdictAlong, (mem_tests.1 hx).1, Option.map_some, Option.getD_some, hevaluate]
    refine ⟨e.verdictAlong p data, htests, ?_⟩
    rw [verdictAt_eq_value path e _ htests] at h
    exact Except.ok.inj h
  · rintro ⟨verdicts, htests, rfl⟩
    exact verdictAt_eq_value path e verdicts htests

/-- A node that is no formula never counts as true. -/
theorem eq_false_of_verdictAt {path : Path} {e : Expr} (hformula : e.isFormula = false) {v : Bool}
    (h : e.verdictAt p data path = .ok v) : v = false := by
  have hleaf : misplacedVerdict p path e = .ok v := by
    cases e with
    | reference name default => exact h
    | literal value => exact h
    | comparison r left right => cases hformula
    | logical c left right => cases hformula
  rw [misplacedVerdict] at hleaf
  split at hleaf
  · cases hleaf
  · exact (Except.ok.inj hleaf).symm

end Verdicts

/-- **The law of evaluation.**  The tests of an expression are the nodes that a way leads to and that
join nothing, from left to right.  The expression fails if and only if one of them fails by itself, and
as the leftmost that does, whatever the tests before it say.  Otherwise its verdict is what its
connectives make of the verdicts of the tests, where a node that is no formula counts as false. -/
theorem leftmost_failing_test_decides (p : Policy) (data : Json) (e : Expr) :
    (∀ x, x ∈ e.tests ↔ e.reach? x.way = some x.node ∧ x.node.isLogical = false) ∧
    (e.tests.Pairwise fun x y => LeftOf x.way y.way) ∧
    ((∃ error, e.tryEvaluate p data = .error error) ↔
      ∃ x ∈ e.tests, ∃ error, x.verdict p data = .error error) ∧
    (∀ error, e.tryEvaluate p data = .error error ↔
      ∃ before x after, e.tests = before ++ x :: after ∧
        (∀ b ∈ before, ∃ v, b.verdict p data = .ok v) ∧ x.verdict p data = .error error) ∧
    (∀ v, e.tryEvaluate p data = .ok v ↔ ∃ verdicts : List Side → Bool,
      (∀ x ∈ e.tests, x.verdict p data = .ok (verdicts x.way)) ∧ e.value verdicts = v) ∧
    (∀ x ∈ e.tests, x.node.isFormula = false → ∀ v, x.verdict p data = .ok v → v = false) := by
  refine ⟨fun x => mem_tests, e.tests_pairwise, ⟨?_, ?_⟩,
    fun error => verdictAt_eq_error_iff p data, fun v => verdictAt_eq_ok_iff_value,
    fun x _ hformula v h => eq_false_of_verdictAt hformula h⟩
  · rintro ⟨error, h⟩
    obtain ⟨before, x, after, htests, -, hx⟩ := (verdictAt_eq_error_iff p data).1 h
    exact ⟨x, htests ▸ List.mem_append_right before List.mem_cons_self, error, hx⟩
  · rintro ⟨x, hx, error, herror⟩
    cases h : e.tryEvaluate p data with
    | error error' => exact ⟨error', rfl⟩
    | ok v =>
        obtain ⟨w, hw⟩ := exists_verdictFrom h hx
        rw [Judged.verdict, hw] at herror
        cases herror

/-- Under a strict policy an attribute that is missing on the right is an error, though the left side
already holds. -/
theorem missing_attribute_beside_match :
    (logical .or (.comparison .eq (.reference "team" none) (.literal (.string "ops")))
        (.comparison .eq (.reference "role" none) (.literal (.string "lead")))).tryEvaluate .strict
      (.object [("team", .string "ops")]) = .error (.missingAttribute "role") := by
  refine ((leftmost_failing_test_decides .strict _ _).2.2.2.1 _).2
    ⟨[⟨[.left], .comparison .eq (.reference "team" none) (.literal (.string "ops"))⟩],
      ⟨[.right], .comparison .eq (.reference "role" none) (.literal (.string "lead"))⟩, [], rfl,
      fun b hb => ⟨true, ?_⟩, by decide +kernel⟩
  obtain rfl := List.mem_singleton.1 hb
  decide +kernel

end Expr

end Rulebook
