/-
**Combined rules mean what their connective says.**

Rules that are combined are joined to the left, so the first of `n` rules ends up `n - 1` steps down
the left side and every other one to the right of a node on that side.  Since evaluation does not
depend on the place, each rule gives within the whole what it gives by itself: the whole fails as the
first rule that fails, and otherwise all or any of the verdicts decide.

Main definitions:

* `Rulebook.Connective.verdict` — the verdict of several rules;
* `Rulebook.rulePlace` — where a rule stands among the rules that it is combined with;
* `Rulebook.replaceRoot` — a line that is told from another place.

Main results:

* `Rulebook.Expr.attributes_pairwise` — attributes are listed in order and once;
* `Rulebook.tryEvaluate_joinAll` — the verdict of a combination;
* `Rulebook.exists_observeAt_joinAll` — what is seen when a combination is evaluated;
* `Rulebook.combine_is_conjunction_or_disjunction` — **combining rules is joining their meanings**.
-/

import Mathlib.Algebra.GroupWithZero.Nat
import Mathlib.Data.List.Forall2
import Mathlib.Data.List.Induction
import Mathlib.Data.String.Basic
import Rulebook.Rule.Combine
import Rulebook.Proofs.Relocation

set_option autoImplicit false

namespace Rulebook

/-! ### Attributes and size -/

namespace Expr

theorem insertName_pairwise {name : String} {names : List String}
    (h : names.Pairwise (· < ·)) : (insertName name names).Pairwise (· < ·) := by
  induction names with
  | nil => simp [insertName]
  | cons n rest ih =>
      obtain ⟨hn, hrest⟩ := List.pairwise_cons.1 h
      rw [insertName]
      split
      · next hlt =>
          exact List.pairwise_cons.2
            ⟨List.forall_mem_cons.2 ⟨hlt, fun a ha => hlt.trans (hn a ha)⟩, h⟩
      · next hnlt =>
          split
          · exact h
          · next hne =>
              refine List.pairwise_cons.2 ⟨fun a ha => ?_, ih hrest⟩
              rcases mem_insertName.1 ha with rfl | ha
              · exact lt_of_le_of_ne (not_lt.1 hnlt) (Ne.symm hne)
              · exact hn a ha

theorem foldl_insertName_pairwise (mentioned : List String) {names : List String}
    (h : names.Pairwise (· < ·)) :
    (mentioned.foldl (fun names n => insertName n names) names).Pairwise (· < ·) := by
  induction mentioned generalizing names with
  | nil => exact h
  | cons m rest ih => exact ih (insertName_pairwise h)

/-- The attributes of an expression are listed in order and each once. -/
theorem attributes_pairwise (e : Expr) : e.attributes.Pairwise (· < ·) :=
  foldl_insertName_pairwise e.mentions List.Pairwise.nil

end Expr

section Joined

variable {c : Connective} {trees : List Expr} {whole : Expr}

/-- Induction over the expressions that are joined, the last one taken off at a time. -/
theorem joinAll_induction {motive : List Expr → Expr → Prop}
    (single : ∀ e, motive [e] e)
    (step : ∀ es w e, joinAll c es = some w → motive es w → motive (es ++ [e]) (.logical c w e))
    (h : joinAll c trees = some whole) : motive trees whole := by
  -- from the end, as the last expression is the right child of the outermost node
  induction trees using List.reverseRecOn generalizing whole with
  | nil => cases h
  | append_singleton es e ih =>
      cases hes : joinAll c es with
      | none =>
          cases es with
          | nil => cases h; exact single e
          | cons first rest => cases hes
      | some w =>
          rw [joinAll_append_singleton c hes e] at h
          cases h
          exact step es w e hes (ih hes)

theorem wellFormed_joinAll (htrees : ∀ e ∈ trees, e.WellFormed)
    (h : joinAll c trees = some whole) : whole.WellFormed := by
  revert htrees
  refine joinAll_induction (motive := fun es w => (∀ e ∈ es, e.WellFormed) → w.WellFormed)
    ?_ ?_ h
  · intro e he
    exact he e List.mem_cons_self
  · intro es w e _ ih hes
    obtain ⟨hes, he⟩ := List.forall_mem_append.1 hes
    exact .joined c (ih hes) (he e List.mem_cons_self)

theorem comparisonCount_joinAll (h : joinAll c trees = some whole) :
    whole.comparisonCount = (trees.map Expr.comparisonCount).sum := by
  refine joinAll_induction
    (motive := fun es w => w.comparisonCount = (es.map Expr.comparisonCount).sum) ?_ ?_ h
  · intro e
    simp
  · intro es w e _ ih
    simp [Expr.comparisonCount, ih]

theorem mentions_joinAll (h : joinAll c trees = some whole) :
    whole.mentions = trees.flatMap Expr.mentions := by
  refine joinAll_induction (motive := fun es w => w.mentions = es.flatMap Expr.mentions) ?_ ?_ h
  · intro e
    simp
  · intro es w e _ ih
    simp [Expr.mentions, ih]

theorem mem_attributes_joinAll (h : joinAll c trees = some whole) {a : String} :
    a ∈ whole.attributes ↔ ∃ e ∈ trees, a ∈ e.attributes := by
  simp only [Expr.mem_attributes, mentions_joinAll h, List.mem_flatMap]

/-! ### Verdicts -/

/-- The verdict of several rules joined by a connective: all of them hold, or at least one does. -/
def Connective.verdict : Connective → List Bool → Bool
  | .and, verdicts => verdicts.all id
  | .or, verdicts => verdicts.any id

theorem Connective.verdict_singleton (c : Connective) (v : Bool) : c.verdict [v] = v := by
  cases c <;> simp [Connective.verdict]

theorem Connective.verdict_append_singleton (c : Connective) (vs : List Bool) (v : Bool) :
    c.verdict (vs ++ [v]) = c.apply (c.verdict vs) v := by
  cases c <;> simp [Connective.verdict]

variable {p : Policy} {data : Json}

/-- The verdict of a node that joins two well-formed expressions, from their verdicts at the root. -/
theorem verdictAt_logical {left right : Expr} (hleft : left.WellFormed)
    (hright : right.WellFormed) :
    (Expr.logical c left right).verdictAt p data .root =
      (left.verdictAt p data .root).bind fun l =>
        (right.verdictAt p data .root).map fun r => c.apply l r := by
  have hl := hleft.verdictAt_under p data (Path.root.child .left) .root
  have hr := hright.verdictAt_under p data (Path.root.child .right) .root
  rw [Path.under_root] at hl hr
  rw [Expr.verdictAt, hl, hr]
  rfl

/-- **The verdict of a combination**: the first rule that fails decides the error, and without one the
connective decides over the verdicts of all rules. -/
theorem tryEvaluate_joinAll (p : Policy) (data : Json) (htrees : ∀ e ∈ trees, e.WellFormed)
    (h : joinAll c trees = some whole) :
    whole.tryEvaluate p data = (trees.mapM (Expr.tryEvaluate p data)).map c.verdict := by
  revert htrees
  refine joinAll_induction (motive := fun es w => (∀ e ∈ es, e.WellFormed) →
    w.tryEvaluate p data = (es.mapM (Expr.tryEvaluate p data)).map c.verdict) ?_ ?_ h
  · intro e _
    rw [mapM_cons_eq, List.mapM_nil]
    cases e.tryEvaluate p data with
    | error error => rfl
    | ok v => exact congrArg Except.ok (c.verdict_singleton v).symm
  · intro es w e hw ih hes
    obtain ⟨hes, he⟩ := List.forall_mem_append.1 hes
    -- the whole fails on its left child first, which are the rules before the last
    rw [Expr.tryEvaluate,
      verdictAt_logical (wellFormed_joinAll hes hw) (he e List.mem_cons_self),
      mapM_append_singleton]
    have ih := ih hes
    rw [Expr.tryEvaluate] at ih
    rw [ih]
    change _ = Except.map c.verdict ((es.mapM (Expr.tryEvaluate p data)).bind fun ys =>
      (e.verdictAt p data .root).map fun y => ys ++ [y])
    cases es.mapM (Expr.tryEvaluate p data) with
    | error error => rfl
    | ok vs =>
        cases e.verdictAt p data .root with
        | error error => rfl
        | ok v => exact congrArg Except.ok (c.verdict_append_singleton vs v).symm

/-! ### What is seen -/

/-- Where the `i`-th of `n` combined rules stands, counted from zero. -/
def rulePlace (n i : Nat) : Path :=
  ⟨"root", List.replicate (n - 1 - i) .left ++ if i = 0 then [] else [.right]⟩

theorem rulePlace_one : rulePlace 1 0 = .root := rfl

/-- A further rule sends the rules before it one step to the left. -/
theorem rulePlace_succ_of_lt {n i : Nat} (h : i < n) :
    rulePlace (n + 1) i = (Path.root.child .left).under (rulePlace n i) := by
  have hcount : n + 1 - 1 - i = n - 1 - i + 1 := by omega
  rw [rulePlace, hcount, List.replicate_succ]
  rfl

/-- The last rule stands to the right of the root, unless it is the only one. -/
theorem rulePlace_succ_self {n : Nat} (h : 0 < n) :
    rulePlace (n + 1) n = Path.root.child .right := by
  simp [rulePlace, Path.root, Path.child, Nat.pos_iff_ne_zero.1 h]

/-- The lines of the conditions that matched, as they are seen from a place. -/
def matchedLines (place : Path) (seen : List Observation) : List String :=
  (seen.map (.under place)).filterMap Observation.matched?

theorem matchedLines_map_under (a b : Path) (seen : List Observation) :
    matchedLines a (seen.map (.under b)) = matchedLines (a.under b) seen := by
  have hmap : (seen.map (Observation.under b)).map (Observation.under a) =
      seen.map (Observation.under (a.under b)) := by
    rw [List.map_map]
    exact List.map_congr_left fun o _ => o.under_under a b
  rw [matchedLines, hmap, matchedLines]

theorem matchedLines_append (place : Path) (seen seen' : List Observation) :
    matchedLines place (seen ++ seen') = matchedLines place seen ++ matchedLines place seen' := by
  simp [matchedLines]

/-- What is seen at the root of an expression is told from the root. -/
theorem map_under_root {e : Expr} (he : e.WellFormed) {r : Bool × List Observation}
    (h : e.observeAt p data .root = .ok r) : r.2.map (.under .root) = r.2 := by
  have hroot := he.observeAt_under p data .root .root
  rw [Path.under_root, h] at hroot
  exact (congrArg Prod.snd (Except.ok.inj hroot)).symm

/-- What is seen at a node that joins two well-formed expressions. -/
theorem observeAt_logical {left right : Expr} (hleft : left.WellFormed)
    (hright : right.WellFormed) {l r : Bool × List Observation}
    (hl : left.observeAt p data .root = .ok l) (hr : right.observeAt p data .root = .ok r) :
    (Expr.logical c left right).observeAt p data .root =
      .ok (c.apply l.1 r.1, l.2.map (.under (Path.root.child .left)) ++
        r.2.map (.under (Path.root.child .right)) ++ [.joined .root c l.1 r.1]) := by
  have hl' := hleft.observeAt_under p data (Path.root.child .left) .root
  have hr' := hright.observeAt_under p data (Path.root.child .right) .root
  rw [Path.under_root, hl] at hl'
  rw [Path.under_root, hr] at hr'
  rw [Expr.observeAt, hl', hr']
  rfl

/-- The lines of several rules, each told from its place below `base`. -/
def linesBelow (base : Path) (results : List (Bool × List Observation)) : List String :=
  results.zipIdx.flatMap fun r => matchedLines (base.under (rulePlace results.length r.2)) r.1.2

theorem linesBelow_singleton (base : Path) (r : Bool × List Observation) :
    linesBelow base [r] = matchedLines base r.2 := by
  simp [linesBelow, rulePlace_one]

theorem linesBelow_append_singleton (base : Path) {results : List (Bool × List Observation)}
    (r : Bool × List Observation) (h : results ≠ []) :
    linesBelow base (results ++ [r]) =
      linesBelow (base.under (Path.root.child .left)) results ++
        matchedLines (base.under (Path.root.child .right)) r.2 := by
  have hbefore : ∀ x ∈ results.zipIdx,
      matchedLines (base.under (rulePlace (results.length + 1) x.2)) x.1.2 =
        matchedLines ((base.under (Path.root.child .left)).under
          (rulePlace results.length x.2)) x.1.2 := by
    intro x hx
    have hlt : x.2 < results.length := (List.mem_zipIdx hx).2.1.trans_eq (Nat.zero_add _)
    rw [rulePlace_succ_of_lt hlt, Path.under_under]
  rw [linesBelow, List.zipIdx_append, List.flatMap_append, List.length_append,
    List.length_singleton, List.flatMap_congr hbefore, linesBelow]
  simp [rulePlace_succ_self (List.length_pos_iff.2 h)]

/-- **What is seen when a combination is evaluated**: the verdict of the connective, and the lines of
each rule told from the place of that rule. -/
theorem exists_observeAt_joinAll (htrees : ∀ e ∈ trees, e.WellFormed)
    (h : joinAll c trees = some whole) {results : List (Bool × List Observation)}
    (hresults : trees.mapM (fun e => e.observeAt p data .root) = .ok results) :
    ∃ seen, whole.observeAt p data .root = .ok (c.verdict (results.map Prod.fst), seen) ∧
      ∀ base, matchedLines base seen = linesBelow base results := by
  revert htrees results
  refine joinAll_induction (motive := fun es w => (∀ e ∈ es, e.WellFormed) →
    ∀ {results}, es.mapM (fun e => e.observeAt p data .root) = .ok results →
      -- for every `base`, as the rules before the last are seen from one step to the left
      ∃ seen, w.observeAt p data .root = .ok (c.verdict (results.map Prod.fst), seen) ∧
        ∀ base, matchedLines base seen = linesBelow base results) ?_ ?_ h
  · intro e _ results hresults
    obtain ⟨r, rs, hr, hrs, rfl⟩ := List.forall₂_cons_left_iff.1 (mapM_eq_ok_iff.1 hresults)
    obtain rfl := List.forall₂_nil_left_iff.1 hrs
    refine ⟨r.2, ?_, fun base => (linesBelow_singleton base r).symm⟩
    rw [List.map_singleton, c.verdict_singleton]
    exact hr
  · intro es w e hw ih hes results hresults
    obtain ⟨hes, he⟩ := List.forall_mem_append.1 hes
    obtain ⟨rs, r, hrs, hr, rfl⟩ := exists_of_mapM_append_singleton hresults
    obtain ⟨seen, hseen, hlines⟩ := ih hes hrs
    have hne : rs ≠ [] := by
      rintro rfl
      rw [List.forall₂_nil_right_iff.1 (mapM_eq_ok_iff.1 hrs)] at hw
      cases hw
    rw [List.map_append, List.map_singleton, c.verdict_append_singleton]
    refine ⟨_, observeAt_logical (wellFormed_joinAll hes hw) (he e List.mem_cons_self) hseen hr,
      fun base => ?_⟩
    rw [matchedLines_append, matchedLines_append, matchedLines_map_under, matchedLines_map_under,
      hlines, linesBelow_append_singleton base r hne]
    -- the node itself is no condition, so it adds no line
    exact List.append_nil _

end Joined

/-! ### Lines -/

/-- A way from a place, as it is written. -/
def wayText : List Side → String
  | [] => ""
  | s :: rest => "." ++ s.name ++ wayText rest

theorem foldl_wayText (steps : List Side) (start : String) :
    steps.foldl (fun text s => text ++ "." ++ s.name) start = start ++ wayText steps := by
  induction steps generalizing start with
  | nil => rw [List.foldl_nil, wayText, String.append_empty]
  | cons s rest ih =>
      rw [List.foldl_cons, ih, wayText, String.append_assoc, String.append_assoc,
        String.append_assoc]

theorem Path.render_along (base : Path) (way : List Side) :
    (base.along way).render = base.render ++ wayText way := by
  rw [Path.render, Path.along, List.foldl_append, foldl_wayText _ (List.foldl _ _ _)]
  rfl

/-- The root of the `i`-th of `n` combined rules, as lines name it. -/
def ruleRoot (n i : Nat) : String :=
  "root" ++ String.join (List.replicate (n - 1 - i) ".left") ++ if i = 0 then "" else ".right"

theorem wayText_append (a b : List Side) : wayText (a ++ b) = wayText a ++ wayText b := by
  induction a with
  | nil => rw [List.nil_append, wayText, String.empty_append]
  | cons s rest ih => simp only [List.cons_append, wayText, ih, String.append_assoc]

theorem wayText_replicate_left (n : Nat) :
    wayText (List.replicate n .left) = String.join (List.replicate n ".left") := by
  induction n with
  | zero => rfl
  | succ n ih =>
      rw [List.replicate_succ, wayText, ih, List.replicate_succ, String.join_cons]
      rfl

theorem render_rulePlace (n i : Nat) : (rulePlace n i).render = ruleRoot n i := by
  have hrender : (rulePlace n i).render = "root" ++ wayText (rulePlace n i).steps :=
    Path.render_along .root (rulePlace n i).steps
  rw [hrender, rulePlace, wayText_append, wayText_replicate_left, ruleRoot, String.append_assoc]
  split <;> rfl

/-- A line that starts at the root, told from `base` instead. -/
def replaceRoot (base line : String) : String :=
  match line.toList with
  | 'r' :: 'o' :: 'o' :: 't' :: rest => base ++ String.ofList rest
  | _ => line

theorem replaceRoot_root_append (base rest : String) :
    replaceRoot base ("root" ++ rest) = base ++ rest := by
  have hlist : ("root" ++ rest).toList = 'r' :: 'o' :: 'o' :: 't' :: rest.toList := by
    rw [String.toList_append]
    rfl
  simp only [replaceRoot, hlist, String.ofList_toList]

/-- Moving what is seen at the root replaces the root in its line. -/
theorem matched?_under {o : Observation} (ho : o.under .root = o) (base : Path) :
    (o.under base).matched? = o.matched?.map (replaceRoot base.render) := by
  cases o with
  | joined path c left right => rfl
  | leaf path e => rfl
  | condition path e verdict =>
      cases verdict with
      | false => rfl
      | true =>
          have hpath : Path.root.under path = path := (Observation.condition.inj ho).1
          have hrender : path.render = "root" ++ wayText path.steps :=
            (congrArg Path.render hpath).symm.trans (Path.render_along .root path.steps)
          rw [Observation.under, Observation.matched?, Observation.matched?, Option.map_some,
            Path.under, Path.render_along, hrender]
          simp only [String.append_assoc, replaceRoot_root_append]

theorem matchedLines_eq_map {seen : List Observation} (h : seen.map (.under .root) = seen)
    (base : Path) :
    matchedLines base seen =
      (seen.filterMap Observation.matched?).map (replaceRoot base.render) := by
  have hfixed : ∀ o ∈ seen, o.under .root = o :=
    List.map_inj_left.1 (h.trans (List.map_id seen).symm)
  rw [matchedLines, List.filterMap_map, List.map_filterMap]
  exact List.filterMap_congr fun o ho => matched?_under (hfixed o ho) base

/-! ### Executions -/

/-- The outcome of an execution, from what was seen. -/
def outcomeOf (traced : Bool) (r : Bool × List Observation) : Outcome :=
  ⟨r.1, r.2.filterMap Observation.matched?, if traced then r.2.map Observation.render else []⟩

theorem execute_eq_map (p : Policy) (data : Json) (traced : Bool) (e : Expr) :
    e.execute p data traced = (e.observeAt p data .root).map (outcomeOf traced) := by
  rw [Expr.execute]
  cases e.observeAt p data .root <;> rfl

theorem execute_eq_ok_iff {p : Policy} {data : Json} {traced : Bool} {e : Expr} {o : Outcome} :
    e.execute p data traced = .ok o ↔
      ∃ r, e.observeAt p data .root = .ok r ∧ outcomeOf traced r = o := by
  rw [execute_eq_map]
  exact map_eq_ok_iff

/-- Where every rule has an outcome, every rule has seen something. -/
theorem exists_results_of_outcomes {p : Policy} {data : Json} {traced : Bool} {trees : List Expr}
    {outcomes : List Outcome}
    (h : List.Forall₂ (fun e o => e.execute p data traced = .ok o) trees outcomes) :
    ∃ results, trees.mapM (fun e => e.observeAt p data .root) = .ok results ∧
      outcomes = results.map (outcomeOf traced) := by
  induction h with
  | nil => exact ⟨[], rfl, rfl⟩
  | @cons e o trees outcomes he _ ih =>
      obtain ⟨results, hresults, rfl⟩ := ih
      obtain ⟨r, hr, rfl⟩ := execute_eq_ok_iff.1 he
      refine ⟨r :: results, ?_, rfl⟩
      rw [mapM_cons_eq, hr, hresults]
      rfl

/-- The lines of several rules below the root are those of their own executions, each with its root
replaced. -/
theorem linesBelow_root (traced : Bool) {results : List (Bool × List Observation)}
    (h : ∀ r ∈ results, r.2.map (.under .root) = r.2) :
    linesBelow .root results =
      (results.map (outcomeOf traced)).zipIdx.flatMap fun o =>
        o.1.matchedConditions.map (replaceRoot (ruleRoot results.length o.2)) := by
  rw [linesBelow, List.zipIdx_map, List.flatMap_map]
  refine List.flatMap_congr fun r hr => ?_
  have hroot : Path.root.under (rulePlace results.length r.2) = rulePlace results.length r.2 := rfl
  rw [hroot, matchedLines_eq_map (h r.1 (List.fst_mem_of_mem_zipIdx hr)), render_rulePlace]
  rfl

/-- The outcome of a combination: the verdict of the connective, and the matched conditions of the
rules in order, each under the place of its rule. -/
theorem exists_execute_joinAll {c : Connective} {p : Policy} {data : Json} {traced : Bool}
    {trees : List Expr} {whole : Expr} {outcomes : List Outcome}
    (htrees : ∀ e ∈ trees, e.WellFormed) (h : joinAll c trees = some whole)
    (houtcomes : List.Forall₂ (fun e o => e.execute p data traced = .ok o) trees outcomes) :
    ∃ outcome, whole.execute p data traced = .ok outcome ∧
      outcome.matched = c.verdict (outcomes.map Outcome.matched) ∧
      outcome.matchedConditions = outcomes.zipIdx.flatMap fun o =>
        o.1.matchedConditions.map (replaceRoot (ruleRoot outcomes.length o.2)) := by
  obtain ⟨results, hresults, rfl⟩ := exists_results_of_outcomes houtcomes
  obtain ⟨seen, hseen, hlines⟩ := exists_observeAt_joinAll htrees h hresults
  have hfixed : ∀ r ∈ results, r.2.map (.under .root) = r.2 := by
    intro r hr
    obtain ⟨e, he, hobserved⟩ := exists_of_mem_mapM hresults hr
    exact map_under_root (htrees e he) hobserved
  have hwhole := map_under_root (wellFormed_joinAll htrees h) hseen
  have hroot := hlines .root
  rw [matchedLines, hwhole, linesBelow_root traced hfixed] at hroot
  refine ⟨_, execute_eq_ok_iff.2 ⟨_, hseen, rfl⟩, ?_, ?_⟩
  · rw [List.map_map]
    rfl
  · rw [List.length_map]
    exact hroot

/-- Where every rule has a verdict, every rule has an outcome with that verdict. -/
theorem exists_outcomes_of_verdicts {p : Policy} {data : Json} (traced : Bool) {trees : List Expr}
    {verdicts : List Bool}
    (h : List.Forall₂ (fun e v => e.tryEvaluate p data = .ok v) trees verdicts) :
    ∃ outcomes, List.Forall₂ (fun e o => e.execute p data traced = .ok o) trees outcomes ∧
      verdicts = outcomes.map Outcome.matched := by
  induction h with
  | nil => exact ⟨[], .nil, rfl⟩
  | @cons e v trees verdicts he _ ih =>
      obtain ⟨outcomes, houtcomes, rfl⟩ := ih
      obtain ⟨r, hr, rfl⟩ := Expr.tryEvaluate_eq_ok_iff.1 he
      exact ⟨outcomeOf traced r :: outcomes, .cons (execute_eq_ok_iff.2 ⟨r, hr, rfl⟩) houtcomes, rfl⟩

/-! ### Combinations -/

/-- A combination is made of expressions that the rules stand for. -/
theorem combine_eq_ok_some_iff {c : Connective} {rules : List String} {whole : Expr} :
    combine c rules = .ok (some whole) ↔
      ∃ trees, rules.mapM parse = .ok trees ∧ joinAll c trees = some whole := by
  rw [combine]
  exact map_eq_ok_iff

theorem combine_eq_ok_none_iff {c : Connective} {rules : List String} :
    combine c rules = .ok none ↔ rules = [] := by
  rw [combine]
  constructor
  · intro h
    obtain ⟨trees, htrees, hjoin⟩ := map_eq_ok_iff.1 h
    cases trees with
    | nil => exact List.forall₂_nil_right_iff.1 (mapM_eq_ok_iff.1 htrees)
    | cons e es => cases hjoin
  · rintro rfl
    rfl

theorem combine_eq_error_iff {c : Connective} {rules : List String} {error : ParseError} :
    combine c rules = .error error ↔ rules.mapM parse = .error error :=
  map_eq_error_iff

/-- Each of the expressions that rules are read as is well formed. -/
theorem wellFormed_of_mapM {rules : List String} {trees : List Expr}
    (h : rules.mapM parse = .ok trees) : ∀ tree ∈ trees, tree.WellFormed := by
  intro tree htree
  obtain ⟨rule, -, hparse⟩ := exists_of_mem_mapM h htree
  exact wellFormed_of_parse hparse

/-- The verdict of a rule that is read, found by running it. -/
theorem tryEvaluate_of_parse {rule : String} {e : Expr} {p : Policy} {data : Json} {v : Bool}
    (h : parse rule = .ok e)
    (hrun : (parse rule).toOption.bind (fun e => (e.tryEvaluate p data).toOption) = some v) :
    e.tryEvaluate p data = .ok v := by
  rw [h] at hrun
  cases hv : e.tryEvaluate p data with
  | error error => simp [Except.toOption, hv] at hrun
  | ok w => simpa [Except.toOption, hv] using hrun

/-- **Combining rules is joining their meanings.**  It fails as the first text that is no rule, and it
gives nothing exactly for no rules.  Otherwise the whole has the conditions and the attributes of its
rules; it fails as the first rule that fails; and when none fails, all or any of the verdicts decide,
and the conditions that matched are those of the rules in their order, each with its root replaced by
the place of its rule. -/
theorem combine_is_conjunction_or_disjunction (c : Connective) (rules : List String) (p : Policy)
    (data : Json) (traced : Bool) :
    (∀ error, combine c rules = .error error ↔
      ∃ before rule after, rules = before ++ rule :: after ∧
        (∀ r ∈ before, ∃ e, parse r = .ok e) ∧ parse rule = .error error) ∧
    (combine c rules = .ok none ↔ rules = []) ∧
    ∀ whole, combine c rules = .ok (some whole) →
      ∃ trees, List.Forall₂ (fun rule e => parse rule = .ok e) rules trees ∧
        whole.comparisonCount = (trees.map Expr.comparisonCount).sum ∧
        whole.attributes.Pairwise (· < ·) ∧
        (∀ a, a ∈ whole.attributes ↔ ∃ e ∈ trees, a ∈ e.attributes) ∧
        (∀ error, whole.tryEvaluate p data = .error error ↔
          ∃ before e after, trees = before ++ e :: after ∧
            (∀ b ∈ before, ∃ v, b.tryEvaluate p data = .ok v) ∧
            e.tryEvaluate p data = .error error) ∧
        ∀ verdicts, List.Forall₂ (fun e v => e.tryEvaluate p data = .ok v) trees verdicts →
          whole.tryEvaluate p data = .ok (c.verdict verdicts) ∧
          ∃ outcomes outcome,
            List.Forall₂ (fun e o => e.execute p data traced = .ok o) trees outcomes ∧
            whole.execute p data traced = .ok outcome ∧
            outcome.matched = c.verdict verdicts ∧
            outcome.matchedConditions = outcomes.zipIdx.flatMap fun o =>
              o.1.matchedConditions.map (replaceRoot (ruleRoot rules.length o.2)) := by
  refine ⟨fun error => combine_eq_error_iff.trans mapM_eq_error_iff, combine_eq_ok_none_iff, ?_⟩
  intro whole hwhole
  obtain ⟨trees, htrees, hjoined⟩ := combine_eq_ok_some_iff.1 hwhole
  have hparsed := mapM_eq_ok_iff.1 htrees
  have hwell := wellFormed_of_mapM htrees
  have hverdict := tryEvaluate_joinAll p data hwell hjoined
  refine ⟨trees, hparsed, comparisonCount_joinAll hjoined, whole.attributes_pairwise,
    fun a => mem_attributes_joinAll hjoined, fun error => ?_, fun verdicts hverdicts => ?_⟩
  · rw [hverdict, map_eq_error_iff, mapM_eq_error_iff]
  · obtain ⟨outcomes, houtcomes, rfl⟩ := exists_outcomes_of_verdicts traced hverdicts
    obtain ⟨outcome, houtcome, hmatched, hlines⟩ := exists_execute_joinAll hwell hjoined houtcomes
    rw [hverdict, mapM_eq_ok_iff.2 hverdicts]
    have hlength : outcomes.length = rules.length :=
      houtcomes.length_eq.symm.trans hparsed.length_eq.symm
    exact ⟨rfl, outcomes, outcome, houtcomes, houtcome, hmatched, hlength ▸ hlines⟩

/-- Two rules that hold for a record hold for it combined. -/
theorem combine_two_rules_matched :
    ∃ whole outcome,
      combine .and ["age > 30", "team == 'ops' || age < 9"] = .ok (some whole) ∧
      whole.execute .strict (.object [("age", .number (.integer 41)), ("team", .string "ops")])
        false = .ok outcome ∧
      outcome.matched = true := by
  have hread : (combine .and ["age > 30", "team == 'ops' || age < 9"]).toOption.join.isSome := by
    decide +kernel
  obtain ⟨whole, hheld⟩ := Option.isSome_iff_exists.1 hread
  have hwhole : combine .and ["age > 30", "team == 'ops' || age < 9"] = .ok (some whole) :=
    toOption_eq_some_iff.1 (Option.join_eq_some_iff.1 hheld)
  obtain ⟨trees, hparsed, -, -, -, -, hverdicts⟩ :=
    (combine_is_conjunction_or_disjunction .and ["age > 30", "team == 'ops' || age < 9"] .strict
      (.object [("age", .number (.integer 41)), ("team", .string "ops")]) false).2.2 whole hwhole
  obtain ⟨first, _, hfirst, hrest, rfl⟩ := List.forall₂_cons_left_iff.1 hparsed
  obtain ⟨second, _, hsecond, hnil, rfl⟩ := List.forall₂_cons_left_iff.1 hrest
  obtain rfl := List.forall₂_nil_left_iff.1 hnil
  obtain ⟨-, _, outcome, -, houtcome, hmatched, -⟩ := hverdicts [true, true]
    (.cons (tryEvaluate_of_parse hfirst (by decide +kernel))
      (.cons (tryEvaluate_of_parse hsecond (by decide +kernel)) .nil))
  exact ⟨whole, outcome, hwhole, houtcome, hmatched⟩

end Rulebook
