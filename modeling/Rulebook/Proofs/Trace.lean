/-
**A trace is a faithful record.**

An execution that is traced leaves one line for each node that it judges, in the order in which they
are judged.  A line names the place of its node, tells what was seen there, and ends with the verdict,
which is the one that an evaluation of the node by itself has.  The conditions that matched are told
again among the matched conditions, in the same order.

Main definitions:

* `Rulebook.Judged.observation`, `Rulebook.Judged.line` — what is seen at a node, and the line for it;
* `Rulebook.placeText`, `Rulebook.shownVerdict` — the place and the verdict that a line shows.

Main results:

* `Rulebook.Expr.observeAt_eq_map_observation` — what an execution sees, node by node;
* `Rulebook.Judged.render_observation` — the line of a trace says what was seen;
* `Rulebook.Expr.trace_tells_every_verdict` — **what a trace tells**.
-/

import Rulebook.Proofs.LeftmostError

set_option autoImplicit false

namespace Rulebook

/-! ### What is seen -/

namespace Judged

/-- What an execution sees at the node, given the verdicts on expressions. -/
def observation (verdict : Expr → Bool) (base : Path) (x : Judged) : Observation :=
  match x.node with
  | .logical c left right => .joined (base.along x.way) c (verdict left) (verdict right)
  | .comparison r left right =>
    .condition (base.along x.way) (.comparison r left right) (verdict (.comparison r left right))
  | e => .leaf (base.along x.way) e

theorem observation_below (verdict : Expr → Bool) (base : Path) (s : Side) (x : Judged) :
    (x.below s).observation verdict base = x.observation verdict (base.child s) := by
  rw [observation, way_below, Path.along_cons, node_below, observation]

end Judged

namespace Expr

variable {p : Policy} {data : Json}

theorem evaluate_of_tryEvaluate {e : Expr} {v : Bool} (h : e.tryEvaluate p data = .ok v) :
    e.evaluate p data = v := by
  rw [evaluate, h]

/-- A joined expression has a verdict exactly if both sides have one. -/
theorem tryEvaluate_logical_eq_ok_iff {c : Connective} {left right : Expr} {v : Bool} :
    (logical c left right).tryEvaluate p data = .ok v ↔
      ∃ l r, left.tryEvaluate p data = .ok l ∧ right.tryEvaluate p data = .ok r ∧
        c.apply l r = v := by
  rw [tryEvaluate, verdictAt_logical_eq]
  constructor
  · intro h
    obtain ⟨l, hl, h⟩ := bind_eq_ok_iff.1 h
    obtain ⟨r, hr, hv⟩ := map_eq_ok_iff.1 h
    exact ⟨l, r, (verdictAt_eq_ok_iff p data).1 hl, (verdictAt_eq_ok_iff p data).1 hr, hv⟩
  · rintro ⟨l, r, hl, hr, rfl⟩
    rw [(verdictAt_eq_ok_iff p data).2 hl, (verdictAt_eq_ok_iff p data).2 hr]
    rfl

/-- Where an expression has a verdict, each node that is judged on the way has one. -/
theorem tryEvaluate_of_mem_judged {e : Expr} {v : Bool} (h : e.tryEvaluate p data = .ok v)
    {x : Judged} (hx : x ∈ e.judged) :
    x.node.tryEvaluate p data = .ok (x.node.evaluate p data) := by
  induction e using joined_induction generalizing x v with
  | single e hsingle =>
      rw [judged_of_not_logical hsingle] at hx
      obtain rfl := List.mem_singleton.1 hx
      rw [h, evaluate_of_tryEvaluate h]
  | joined c left right ihl ihr =>
      obtain ⟨l, r, hl, hr, -⟩ := tryEvaluate_logical_eq_ok_iff.1 h
      rcases List.mem_append.1 hx with hx | hx
      · rcases List.mem_append.1 hx with hx | hx
        · obtain ⟨y, hy, rfl⟩ := List.mem_map.1 hx
          rw [Judged.node_below]
          exact ihl hl hy
        · obtain ⟨y, hy, rfl⟩ := List.mem_map.1 hx
          rw [Judged.node_below]
          exact ihr hr hy
      · obtain rfl := List.mem_singleton.1 hx
        rw [h, evaluate_of_tryEvaluate h]

theorem tryEvaluate_of_observeAt {path : Path} {e : Expr} {v : Bool} {seen : List Observation}
    (h : e.observeAt p data path = .ok (v, seen)) : e.tryEvaluate p data = .ok v := by
  have hverdict : e.verdictAt p data path = .ok v := by
    rw [verdictAt_eq_map_observeAt, h]
    rfl
  exact (verdictAt_eq_ok_iff p data).1 hverdict

theorem seen_of_not_formula {path : Path} {e : Expr} {v : Bool} {seen : List Observation}
    (hformula : e.isFormula = false) (h : e.observeAt p data path = .ok (v, seen)) :
    seen = [.leaf path e] := by
  have hleaf : (do let w ← misplacedVerdict p path e; pure (w, [Observation.leaf path e])) =
      Except.ok (v, seen) := by
    cases e with
    | reference name default => exact h
    | literal value => exact h
    | comparison r left right => cases hformula
    | logical c left right => cases hformula
  obtain ⟨w, -, hseen⟩ := bind_eq_ok_iff.1 hleaf
  exact (Prod.mk.inj (Except.ok.inj hseen)).2.symm

/-- What an execution sees, node by node in the order of judging. -/
theorem observeAt_eq_map_observation {path : Path} {e : Expr} {v : Bool} {seen : List Observation}
    (h : e.observeAt p data path = .ok (v, seen)) :
    seen = e.judged.map (Judged.observation (evaluate p data) path) := by
  induction e generalizing path v seen with
  | reference name default =>
      rw [seen_of_not_formula rfl h]
      simp [judged, Judged.observation]
  | literal value =>
      rw [seen_of_not_formula rfl h]
      simp [judged, Judged.observation]
  | comparison r left right _ _ =>
      have hverdict := evaluate_of_tryEvaluate (tryEvaluate_of_observeAt h)
      rw [observeAt] at h
      obtain ⟨w, -, hseen⟩ := bind_eq_ok_iff.1 h
      cases hseen
      simp [judged, Judged.observation, hverdict]
  | logical c left right ihl ihr =>
      rw [observeAt] at h
      obtain ⟨a, hleft, h⟩ := bind_eq_ok_iff.1 h
      obtain ⟨b, hright, h⟩ := bind_eq_ok_iff.1 h
      cases h
      have hl := evaluate_of_tryEvaluate (tryEvaluate_of_observeAt hleft)
      have hr := evaluate_of_tryEvaluate (tryEvaluate_of_observeAt hright)
      have hbelow (s : Side) : Judged.observation (evaluate p data) path ∘ Judged.below s =
          Judged.observation (evaluate p data) (path.child s) :=
        funext fun x => x.observation_below _ path s
      rw [judged, List.map_append, List.map_append, List.map_map, List.map_map, hbelow, hbelow,
        ihl hleft, ihr hright]
      simp [Judged.observation, hl, hr]

end Expr

/-! ### Lines -/

/-- What the line of a node says was seen there, given the verdicts on expressions. -/
def Expr.account (verdict : Expr → Bool) : Expr → String
  | logical c left right =>
    c.keyword ++ " (" ++ toString (verdict left) ++ ", " ++ toString (verdict right) ++ ")"
  | comparison r left right => (comparison r left right).render
  | e => "不支持的节点 " ++ e.kind

/-- The place that a line shows. -/
def placeText (line : String) : String := String.ofList (line.toList.takeWhile (· != ':'))

/-- The verdict that a line shows. -/
def shownVerdict (line : String) : Bool := !"NOT_MATCHED".toList.isSuffixOf line.toList

theorem shownVerdict_append (text : String) (b : Bool) :
    shownVerdict (text ++ " => " ++ Observation.verdictText b) = b := by
  rw [shownVerdict, String.append_assoc, String.toList_append]
  cases b with
  | false =>
      have hsuffix : "NOT_MATCHED".toList <:+
          text.toList ++ (" => " ++ Observation.verdictText false).toList :=
        List.IsSuffix.trans (by decide) (List.suffix_append _ _)
      rw [List.isSuffixOf_iff_suffix.2 hsuffix]
      rfl
  | true =>
      -- both ends have eleven letters, so one would be the other
      have hsuffix : ¬ "NOT_MATCHED".toList <:+
          text.toList ++ (" => " ++ Observation.verdictText true).toList := fun h =>
        absurd (List.suffix_of_suffix_length_le h (List.suffix_append _ _) (by decide)) (by decide)
      rw [Bool.not_eq_true', ← Bool.not_eq_true, List.isSuffixOf_iff_suffix]
      exact hsuffix

namespace Judged

/-- The line of a trace for the node, given the verdicts on expressions. -/
def line (verdict : Expr → Bool) (x : Judged) : String :=
  x.place ++ ": " ++ x.node.account verdict ++ " => " ++
    Observation.verdictText (verdict x.node)

/-- The line for the node if it is a condition that matched. -/
def matchedLine (x : Judged) : String := x.place ++ ": " ++ x.node.render

theorem placeText_line (verdict : Expr → Bool) (x : Judged) :
    placeText (x.line verdict) = x.place := by
  have hplace : ∀ c ∈ x.place.toList, (c != ':') = true := fun c hc =>
    bne_iff_ne.2 fun heq => x.colon_notMem_place (heq ▸ hc)
  rw [placeText, line, String.append_assoc, String.append_assoc, String.append_assoc,
    String.toList_append, String.toList_append, List.takeWhile_append_of_pos hplace]
  exact (congrArg String.ofList (List.append_nil _)).trans (String.ofList_toList)

theorem shownVerdict_line (verdict : Expr → Bool) (x : Judged) :
    shownVerdict (x.line verdict) = verdict x.node := shownVerdict_append _ _

variable {p : Policy} {data : Json}

theorem render_leaf {x : Judged} (hformula : x.node.isFormula = false)
    (h : x.node.tryEvaluate p data = .ok (x.node.evaluate p data)) :
    (Observation.leaf (Path.root.along x.way) x.node).render = x.line (Expr.evaluate p data) := by
  have hfalse : x.node.evaluate p data = false := Expr.eq_false_of_verdictAt hformula h
  have haccount : x.node.account (Expr.evaluate p data) = "不支持的节点 " ++ x.node.kind := by
    cases hnode : x.node with
    | reference name default => rfl
    | literal value => rfl
    | comparison r left right => rw [hnode] at hformula; cases hformula
    | logical c left right => rw [hnode] at hformula; cases hformula
  have hcolon : ": 不支持的节点 " = ": " ++ "不支持的节点 " := by decide
  simp only [line, haccount, hfalse, Observation.render, place, hcolon, String.append_assoc]

/-- The line of a trace says what was seen. -/
theorem render_observation {x : Judged}
    (h : x.node.tryEvaluate p data = .ok (x.node.evaluate p data)) :
    (x.observation (Expr.evaluate p data) .root).render = x.line (Expr.evaluate p data) := by
  obtain ⟨way, node⟩ := x
  cases node with
  | reference name default => exact render_leaf rfl h
  | literal value => exact render_leaf rfl h
  | comparison r left right => rfl
  | logical c left right =>
      obtain ⟨l, r, hl, hr, hjoined⟩ := Expr.tryEvaluate_logical_eq_ok_iff.1 h
      have hleft := Expr.evaluate_of_tryEvaluate hl
      have hright := Expr.evaluate_of_tryEvaluate hr
      have harrow : ") => " = ")" ++ " => " := by decide
      simp only [observation, Observation.render, line, Expr.account, place, ← hjoined, hleft,
        hright, harrow, String.append_assoc]

/-- A condition that matched is told. -/
theorem matched?_observation (verdict : Expr → Bool) (x : Judged) :
    (x.observation verdict .root).matched? =
      if x.node.isCondition && verdict x.node then some x.matchedLine else none := by
  obtain ⟨way, node⟩ := x
  cases node with
  | reference name default => rfl
  | literal value => rfl
  | logical c left right => rfl
  | comparison r left right =>
      simp only [observation]
      cases hverdict : verdict (.comparison r left right) with
      | false => simp [Observation.matched?]
      | true => simp [Observation.matched?, Expr.isCondition, matchedLine, place]

/-- The conditions that matched, in the order of judging. -/
theorem filterMap_matched?_observation (verdict : Expr → Bool) (xs : List Judged) :
    (xs.map (observation verdict .root)).filterMap Observation.matched? =
      (xs.filter fun x => x.node.isCondition && verdict x.node).map matchedLine := by
  rw [List.filterMap_map, ← List.filterMap_eq_map, List.filterMap_filter]
  exact List.filterMap_congr fun x _ => x.matched?_observation verdict

end Judged

/-! ### Executions -/

namespace Expr

variable {p : Policy} {data : Json}

/-- The outcome of a traced execution, from the nodes that it judges. -/
theorem outcome_of_execute {e : Expr} {o : Outcome} (h : e.execute p data true = .ok o) :
    e.tryEvaluate p data = .ok o.matched ∧
      o.trace = e.judged.map (Judged.line (evaluate p data)) ∧
      o.matchedConditions = (e.judged.filter fun x =>
        x.node.isCondition && x.node.evaluate p data).map Judged.matchedLine := by
  obtain ⟨⟨v, seen⟩, hseen, rfl⟩ := execute_eq_ok_iff.1 h
  have hverdict := tryEvaluate_of_observeAt hseen
  obtain rfl := observeAt_eq_map_observation hseen
  refine ⟨hverdict, ?_, Judged.filterMap_matched?_observation _ _⟩
  rw [outcomeOf, if_pos rfl, List.map_map]
  exact List.map_congr_left fun x hx =>
    Judged.render_observation (tryEvaluate_of_mem_judged hverdict hx)

/-- **What a trace tells.**  It has a line for each node that a way leads to, from left to right and
children before their parent.  The lines show the places of these nodes, which are all different, and
the verdicts that evaluations of the nodes by themselves have; the line of a joined node also shows the
verdicts of its two sides, and the last line the verdict of the execution.  There are as many conditions
among the nodes as are counted in the expression, and those that matched are told again in order. -/
theorem trace_tells_every_verdict {p : Policy} {data : Json} {e : Expr} {o : Outcome}
    (h : e.execute p data true = .ok o) :
    (∀ x, x ∈ e.judged ↔ e.reach? x.way = some x.node) ∧
    (e.judged.Pairwise fun x y => PostOrder x.way y.way) ∧
    o.trace = e.judged.map (Judged.line (evaluate p data)) ∧
    o.trace.map placeText = e.judged.map Judged.place ∧
    (e.judged.map Judged.place).Nodup ∧
    o.trace.map shownVerdict = e.judged.map (fun x => x.node.evaluate p data) ∧
    (∀ x ∈ e.judged, x.node.tryEvaluate p data = .ok (x.node.evaluate p data)) ∧
    o.trace.getLast?.map shownVerdict = some o.matched ∧
    e.judged.countP (fun x => x.node.isCondition) = e.comparisonCount ∧
    o.matchedConditions = (e.judged.filter fun x =>
      x.node.isCondition && x.node.evaluate p data).map Judged.matchedLine := by
  obtain ⟨hverdict, htrace, hmatched⟩ := outcome_of_execute h
  refine ⟨fun x => mem_judged, e.judged_pairwise, htrace, ?_, e.nodup_places, ?_,
    fun x hx => tryEvaluate_of_mem_judged hverdict hx, ?_, e.countP_isCondition_judged, hmatched⟩
  · rw [htrace, List.map_map]
    exact List.map_congr_left fun x _ => x.placeText_line _
  · rw [htrace, List.map_map]
    exact List.map_congr_left fun x _ => x.shownVerdict_line _
  · rw [htrace, List.getLast?_map, getLast?_judged, Option.map_some, Option.map_some,
      Judged.shownVerdict_line, evaluate_of_tryEvaluate hverdict]

/-- A rule with a bare attribute where a condition should be. -/
def bareAttributeRule : Expr :=
  logical .and
    (logical .or (.comparison .eq (.reference "team" none) (.literal (.string "ops")))
      (.reference "active" none))
    (.comparison .ne (.reference "role" none) (.literal (.string "guest")))

/-- The trace of a rule with a bare attribute, which counts as false. -/
theorem trace_of_bare_attribute :
    ∃ o, bareAttributeRule.execute .lenient
        (.object [("team", .string "ops"), ("role", .string "lead")]) true = .ok o ∧
      o.trace.map placeText =
        ["root.left.left", "root.left.right", "root.left", "root.right", "root"] ∧
      o.trace.map shownVerdict = [true, false, true, true, true] := by
  have hrun : bareAttributeRule.execute .lenient
      (.object [("team", .string "ops"), ("role", .string "lead")]) true = .ok
        ⟨true, ["root.left.left: team == \"ops\"", "root.right: role != \"guest\""],
          ["root.left.left: team == \"ops\" => MATCHED",
            "root.left.right: 不支持的节点 Identifier => NOT_MATCHED",
            "root.left: OR (true, false) => MATCHED",
            "root.right: role != \"guest\" => MATCHED",
            "root: AND (true, true) => MATCHED"]⟩ := by
    decide +kernel
  obtain ⟨-, -, -, hplaces, -, hverdicts, -⟩ := trace_tells_every_verdict hrun
  refine ⟨_, hrun, ?_, ?_⟩
  · rw [hplaces]
    decide +kernel
  · rw [hverdicts]
    decide +kernel

end Expr

end Rulebook
