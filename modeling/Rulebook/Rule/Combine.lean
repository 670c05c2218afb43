/-
**Combining rules.**

Several rules are combined into one expression by joining them from left to right with one connective:
three rules become `(r₁ ∘ r₂) ∘ r₃`.

Main definitions:

* `Rulebook.joinAll` — expressions joined from left to right;
* `Rulebook.combine` — rule texts read and joined.
-/

import Rulebook.Rule.Parse

set_option autoImplicit false

namespace Rulebook

/-- The expressions joined from left to right; nothing when there is none. -/
def joinAll (c : Connective) : List Expr → Option Expr
  | [] => none
  | e :: es => some (es.foldl (Expr.logical c) e)

/-- The rules read in order and joined.  The first that is no rule decides the error. -/
def combine (c : Connective) (rules : List String) : Except ParseError (Option Expr) :=
  (rules.mapM parse).map (joinAll c)

@[simp] theorem joinAll_nil (c : Connective) : joinAll c [] = none := rfl

@[simp] theorem joinAll_singleton (c : Connective) (e : Expr) : joinAll c [e] = some e := rfl

/-- One more expression is joined on the right. -/
theorem joinAll_append_singleton (c : Connective) {es : List Expr} {whole : Expr}
    (h : joinAll c es = some whole) (e : Expr) :
    joinAll c (es ++ [e]) = some (.logical c whole e) := by
  cases es with
  | nil => simp at h
  | cons first rest =>
    simp only [joinAll, Option.some.injEq] at h
    simp [joinAll, List.foldl_append, h]

end Rulebook
