/-
**An execution that writes as it goes.**

What an execution reports can be collected after the fact, from everything that was seen.  It can also
be written down on the way, in a journal that is handed from node to node and that gets a line for the
trace only if one is asked for.  Both give the same report; so whether an evaluation is traced decides
what is written of it and nothing else.

Main definitions:

* `Rulebook.Journal`, `Rulebook.Journal.note` — what is written down, and writing down an observation;
* `Rulebook.Expr.recordAt`, `Rulebook.Expr.record` — an execution that writes as it goes.

Main results:

* `Rulebook.Expr.run_recordAt` — such an execution writes down what is seen;
* `Rulebook.Expr.run_recordAt_untraced` — without a trace it writes the same matched conditions;
* `Rulebook.Expr.record_eq_execute` — **it reports what an execution reports**;
* `Rulebook.Expr.execute_untraced`, `Rulebook.Expr.tryEvaluate_eq_map_execute` — what tracing leaves
  alone, and that the verdict is that of an evaluation.
-/

import Rulebook.Proofs.Combination
import Rulebook.Proofs.Refusal

set_option autoImplicit false

namespace Rulebook

/-! ### Journals -/

/-- What an execution has written down. -/
@[ext] structure Journal where
  matched : List String
  trace : List String

namespace Journal

/-- Nothing is written down. -/
def empty : Journal := ⟨[], []⟩

/-- Writes down an observation: in the trace if there is one, and once more if a condition matched. -/
def note (traced : Bool) (j : Journal) (o : Observation) : Journal :=
  ⟨j.matched ++ o.matched?.toList, if traced then j.trace ++ [o.render] else j.trace⟩

/-- Writes down observations one after another. -/
def noteAll (traced : Bool) (j : Journal) (seen : List Observation) : Journal :=
  seen.foldl (note traced) j

theorem noteAll_append (traced : Bool) (j : Journal) (seen seen' : List Observation) :
    j.noteAll traced (seen ++ seen') = (j.noteAll traced seen).noteAll traced seen' :=
  List.foldl_append

theorem matched_noteAll (traced : Bool) (j : Journal) (seen : List Observation) :
    (j.noteAll traced seen).matched = j.matched ++ seen.filterMap Observation.matched? := by
  induction seen generalizing j with
  | nil => exact (List.append_nil _).symm
  | cons o seen ih =>
      have hcons : j.noteAll traced (o :: seen) = (j.note traced o).noteAll traced seen := rfl
      rw [hcons, ih, note, List.append_assoc, List.filterMap_cons]
      cases o.matched? <;> rfl

theorem trace_noteAll (traced : Bool) (j : Journal) (seen : List Observation) :
    (j.noteAll traced seen).trace =
      if traced then j.trace ++ seen.map Observation.render else j.trace := by
  induction seen generalizing j with
  | nil => cases traced <;> simp [noteAll]
  | cons o seen ih =>
      have hcons : j.noteAll traced (o :: seen) = (j.note traced o).noteAll traced seen := rfl
      rw [hcons, ih, note]
      cases traced <;> simp

end Journal

/-! ### Executions that write -/

namespace Expr

/-- The verdict on an expression that stands at the given place; what is seen on the way is written down
where it is seen. -/
def recordAt (p : Policy) (data : Json) (traced : Bool) (path : Path) :
    Expr → StateT Journal (Except EvaluationError) Bool
  | logical c left right => do
    let l ← left.recordAt p data traced (path.child .left)
    let r ← right.recordAt p data traced (path.child .right)
    modify fun j => j.note traced (.joined path c l r)
    return c.apply l r
  | comparison r left right => do
    let verdict ← evaluateCondition p data path r left right
    modify fun j => j.note traced (.condition path (comparison r left right) verdict)
    return verdict
  | e => do
    let verdict ← misplacedVerdict p path e
    modify fun j => j.note traced (.leaf path e)
    return verdict

/-- Evaluates an expression and reports what was written down. -/
def record (p : Policy) (data : Json) (traced : Bool) (e : Expr) :
    Except EvaluationError Outcome := do
  let (matched, journal) ← (e.recordAt p data traced .root).run .empty
  return ⟨matched, journal.matched, journal.trace⟩

variable (p : Policy) (data : Json)

/-- What is written down is what is seen, in that order. -/
theorem run_recordAt (traced : Bool) (path : Path) (e : Expr) (j : Journal) :
    (e.recordAt p data traced path).run j =
      (e.observeAt p data path).map fun r => (r.1, j.noteAll traced r.2) := by
  induction e generalizing path j with
  | reference name default =>
      simp only [recordAt, observeAt]
      cases misplacedVerdict p path (reference name default) <;> rfl
  | literal value =>
      simp only [recordAt, observeAt]
      cases misplacedVerdict p path (literal value) <;> rfl
  | comparison r left right _ _ =>
      simp only [recordAt, observeAt]
      cases evaluateCondition p data path r left right <;> rfl
  | logical c left right ihl ihr =>
      simp only [recordAt, observeAt, StateT.run_bind, ihl]
      cases left.observeAt p data (path.child .left) with
      | error error => rfl
      | ok a =>
          -- the right side goes on in the journal that the left side leaves
          have hright := ihr (path.child .right) (j.noteAll traced a.2)
          simp only [Except.map, Except.bind, bind, hright]
          cases right.observeAt p data (path.child .right) with
          | error error => rfl
          | ok b =>
              have hnoted : j.noteAll traced (a.2 ++ b.2 ++ [.joined path c a.1 b.1]) =
                  ((j.noteAll traced a.2).noteAll traced b.2).note traced
                    (.joined path c a.1 b.1) := by
                rw [Journal.noteAll_append, Journal.noteAll_append]
                rfl
              exact congrArg (fun noted => Except.ok (c.apply a.1 b.1, noted)) hnoted.symm

/-- Without a trace the same conditions are written down, and nothing else. -/
theorem run_recordAt_untraced (path : Path) (e : Expr) (j : Journal) :
    (e.recordAt p data false path).run j =
      ((e.recordAt p data true path).run j).map fun r => (r.1, ⟨r.2.matched, j.trace⟩) := by
  rw [run_recordAt, run_recordAt]
  cases e.observeAt p data path with
  | error error => rfl
  | ok r =>
      refine congrArg (fun noted => Except.ok (r.1, noted)) (Journal.ext ?_ ?_)
      · exact (Journal.matched_noteAll ..).trans (Journal.matched_noteAll ..).symm
      · exact Journal.trace_noteAll ..

/-- **An execution reports what is written down on the way.** -/
theorem record_eq_execute (traced : Bool) (e : Expr) :
    e.record p data traced = e.execute p data traced := by
  rw [record, run_recordAt, execute_eq_map]
  cases e.observeAt p data .root with
  | error error => rfl
  | ok r =>
      have hreport : Outcome.mk r.1 (Journal.empty.noteAll traced r.2).matched
          (Journal.empty.noteAll traced r.2).trace = outcomeOf traced r := by
        rw [Journal.matched_noteAll, Journal.trace_noteAll]
        rfl
      exact congrArg Except.ok hreport

/-! ### What tracing leaves alone -/

/-- The report of an execution without what is traced. -/
theorem execute_untraced (e : Expr) :
    e.execute p data false = (e.execute p data true).map fun o => { o with trace := [] } := by
  rw [← record_eq_execute, ← record_eq_execute, record, record, run_recordAt_untraced]
  cases (e.recordAt p data true .root).run .empty <;> rfl

/-- The verdict of an execution is that of an evaluation, traced or not. -/
theorem tryEvaluate_eq_map_execute (traced : Bool) (e : Expr) :
    e.tryEvaluate p data = (e.execute p data traced).map Outcome.matched := by
  rw [tryEvaluate, verdictAt_eq_map_observeAt, execute_eq_map]
  cases e.observeAt p data .root <;> rfl

/-- Under the policy that is followed by default every expression has a verdict. -/
theorem tryEvaluate_default (e : Expr) : e.tryEvaluate default data = .ok (e.holds data) := by
  obtain ⟨v, hv⟩ := exists_verdictAt_eq_ok data Policy.forgives_lenient .root e
  have hdefault : e.tryEvaluate default data = .ok v := hv
  rw [holds, evaluate, hdefault]

end Expr

end Rulebook
