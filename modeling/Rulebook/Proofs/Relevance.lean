/-
**What an evaluation depends on.**

An evaluation looks at the data for the attributes that the expression mentions and for nothing else.  An
attribute is looked up under its whole name first and then along its parts, so two objects may differ
in everything but the members under the whole name and under its first part: a member with the whole
name hides the way along the parts in both or in neither.

Main definitions:

* `Rulebook.firstPart` — a name up to its first dot;
* `Rulebook.Json.SameFor` — two values that an attribute does not tell apart.

Main results:

* `Rulebook.Json.SameFor.field?_eq` — such values have the same field;
* `Rulebook.Expr.observeAt_congr` — what is seen depends on the fields that are mentioned;
* `Rulebook.Expr.execute_eq_of_sameFor` — **an evaluation depends on the listed attributes alone**.
-/

import Rulebook.Proofs.Relocation

set_option autoImplicit false

namespace Rulebook

/-! ### Looking up -/

/-- The part of a name before its first dot; a name without dots is its own first part. -/
def firstPart (name : String) : String := String.ofList (name.toList.takeWhile (· ≠ '.'))

/-- The first part of a name is what comes before its first dot. -/
theorem exists_segments_eq_cons (cs : List Char) :
    ∃ rest, segments cs = cs.takeWhile (· ≠ '.') :: rest := by
  induction cs with
  | nil => exact ⟨[], rfl⟩
  | cons c cs ih =>
      obtain ⟨rest, hrest⟩ := ih
      rw [segments] at hrest
      by_cases hc : c = '.'
      · exact ⟨segments cs, by simp [segments, List.splitOn_cons_eq_if_modifyHead, hc]⟩
      · exact ⟨rest, by simp [segments, List.splitOn_cons_eq_if_modifyHead, hc, hrest]⟩

namespace Json

/-- Two values with the same member under the whole name of an attribute and under its first part. -/
structure SameFor (d d' : Json) (name : String) : Prop where
  whole : d.get? name = d'.get? name
  first : d.get? (firstPart name) = d'.get? (firstPart name)

theorem step?_eq_get? {d : Json} (hd : d.isObject = true) (segment : List Char) :
    d.step? segment = d.get? (String.ofList segment) := by
  cases d with
  | object members => rfl
  | _ => cases hd

/-- The way along the parts of a name starts, in any object, with the member under the first part. -/
theorem exists_follow?_segments (name : String) :
    ∃ rest, ∀ d : Json, d.isObject = true → d.follow? (segments name.toList) =
      (d.get? (firstPart name)).bind fun v => v.follow? rest := by
  obtain ⟨rest, hrest⟩ := exists_segments_eq_cons name.toList
  refine ⟨rest, fun d hd => ?_⟩
  rw [hrest, follow?, step?_eq_get? hd, firstPart]
  cases d.get? (String.ofList (name.toList.takeWhile (· ≠ '.'))) <;> rfl

/-- Objects that an attribute does not tell apart have the same value for it. -/
theorem SameFor.field?_eq {d d' : Json} {name : String} (h : d.SameFor d' name)
    (hd : d.isObject = true) (hd' : d'.isObject = true) : d.field? name = d'.field? name := by
  obtain ⟨rest, hrest⟩ := exists_follow?_segments name
  rw [field?, field?, h.whole, hrest d hd, hrest d' hd', h.first]

end Json

/-! ### Evaluating -/

section Evaluating

variable (p : Policy) {d d' : Json}

theorem evaluateAgainst_congr (path : Path) (r : Relation) {left : Expr} (right : Operand)
    (h : ∀ name ∈ left.mentions, d.field? name = d'.field? name) :
    evaluateAgainst p d path r left right = evaluateAgainst p d' path r left right := by
  cases left with
  | reference name default =>
      have hname : d.field? name = d'.field? name := h name List.mem_cons_self
      simp only [evaluateAgainst, resolve, hname]
  | literal value => rfl
  | comparison r' left right => rfl
  | logical c left right => rfl

/-- A condition holds alike where its left operand mentions the same fields. -/
theorem evaluateCondition_congr (path : Path) (r : Relation) {left : Expr} (right : Expr)
    (h : ∀ name ∈ left.mentions, d.field? name = d'.field? name) :
    evaluateCondition p d path r left right = evaluateCondition p d' path r left right := by
  unfold evaluateCondition
  split
  · rfl
  · split
    · exact evaluateAgainst_congr p path r _ h
    · rfl

namespace Expr

/-- **What is seen depends on the fields that are mentioned.** -/
theorem observeAt_congr (path : Path) {e : Expr}
    (h : ∀ name ∈ e.mentions, d.field? name = d'.field? name) :
    e.observeAt p d path = e.observeAt p d' path := by
  induction e generalizing path with
  | reference name default => rfl
  | literal value => rfl
  | comparison r left right _ _ =>
      obtain ⟨hleft, -⟩ := List.forall_mem_append.1 h
      rw [observeAt, observeAt, evaluateCondition_congr p path r right hleft]
  | logical c left right ihl ihr =>
      obtain ⟨hleft, hright⟩ := List.forall_mem_append.1 h
      rw [observeAt, observeAt, ihl (path.child .left) hleft, ihr (path.child .right) hright]

/-- Likewise the verdict. -/
theorem tryEvaluate_congr {e : Expr} (h : ∀ name ∈ e.mentions, d.field? name = d'.field? name) :
    e.tryEvaluate p d = e.tryEvaluate p d' := by
  rw [tryEvaluate, tryEvaluate, verdictAt_eq_map_observeAt, verdictAt_eq_map_observeAt,
    observeAt_congr p .root h]

/-- **An evaluation depends on the listed attributes alone.**  Let two objects have the same members
under the name and under the first part of every attribute that the expression lists.  Then executing
it gives the same on both, with or without a trace: the same error, or the same verdict, matched
conditions and trace; and so does evaluating it. -/
theorem execute_eq_of_sameFor (e : Expr) (traced : Bool) (hd : d.isObject = true)
    (hd' : d'.isObject = true) (h : ∀ name ∈ e.attributes, d.SameFor d' name) :
    e.execute p d traced = e.execute p d' traced ∧
      e.tryEvaluate p d = e.tryEvaluate p d' ∧ e.evaluate p d = e.evaluate p d' := by
  have hfields : ∀ name ∈ e.mentions, d.field? name = d'.field? name :=
    fun name hname => (h name (mem_attributes.2 hname)).field?_eq hd hd'
  have hverdict := tryEvaluate_congr p hfields
  refine ⟨?_, hverdict, ?_⟩
  · rw [execute, execute, observeAt_congr p .root hfields]
  · rw [evaluate, evaluate, hverdict]

/-- A misplaced attribute counts among those listed, and a flat key among the members that matter; the
rest of the data may change. -/
theorem execute_misplaced_attribute_eq :
    let e : Expr := .logical .or
      (.comparison .gt (.reference "user.age" none) (.literal (.number 30)))
      (.comparison .eq (.reference "team" (some (.string "ops"))) (.reference "boss" none))
    let user : Json := .object [("age", .number (.integer 41))]
    let d : Json := .object [("boss", .string "ann"), ("user", user)]
    let d' : Json := .object [("boss", .string "ann"), ("name", .string "bob"), ("user", user)]
    e.execute .lenient d true = e.execute .lenient d' true ∧
      (e.execute .lenient d true).toOption.map Outcome.matched = some true := by
  intro e user d d'
  have hattributes : e.attributes = ["boss", "team", "user.age"] := by decide
  have hsame : ∀ name ∈ e.attributes, d.SameFor d' name := by
    rw [hattributes]
    simp only [List.forall_mem_cons, List.not_mem_nil, false_implies, implies_true, and_true]
    exact ⟨⟨rfl, rfl⟩, ⟨rfl, rfl⟩, ⟨rfl, rfl⟩⟩
  exact ⟨(execute_eq_of_sameFor .lenient e true rfl rfl hsame).1, by decide +kernel⟩

end Expr

end Evaluating

end Rulebook
