/-
**Expressions that are sent and read again.**

The JSON form of a well-formed expression is read as the expression, whether it stands on its own or in
a text.  The nesting of the JSON form is the depth of the expression.

Main results:

* `Rulebook.Expr.depth_toJson` — how deep the JSON form is nested;
* `Rulebook.Expr.toJson_injective` — distinct expressions have distinct JSON forms;
* `Rulebook.Expr.WellFormed.readNode_eq` — a node is read back;
* `Rulebook.Expr.WellFormed.ofDocument?_clip` — **an expression in a text is read back** up to the
  nesting limit, and is no JSON beyond it.
-/

import Rulebook.Wire.Expr
import Rulebook.Proofs.JsonText
import Rulebook.Proofs.WellFormed

set_option autoImplicit false

namespace Rulebook.Expr

open Json (Document Fault ReadError Record)

/-! ### Nesting -/

/-- The JSON form of an expression is nested as deep as the expression. -/
theorem depth_toJson (e : Expr) : e.toJson.depth = e.depth := by
  induction e with
  | reference name default =>
      cases default with
      | none => rfl
      | some d => cases d <;> rfl
  | literal value => cases value <;> rfl
  | comparison r left right ihl ihr =>
      simp [toJson, Json.depth, Json.depthMembers, depth, ihl, ihr]
  | logical c left right ihl ihr =>
      simp [toJson, Json.depth, Json.depthMembers, depth, ihl, ihr]

/-! ### Distinct forms -/

theorem toJson_ne_null (e : Expr) : e.toJson ≠ .null := by
  cases e with
  | reference name default => cases default <;> exact fun h => nomatch h
  | _ => exact fun h => nomatch h

theorem toJson_scalar_injective {v w : Scalar} (h : v.toJson = w.toJson) : v = w := by
  cases v <;> cases w <;> simp_all [Scalar.toJson]

theorem reference_eq_of_toJson_eq {name : String} {default : Option Scalar} {e : Expr}
    (h : (reference name default).toJson = e.toJson) : reference name default = e := by
  cases e with
  | reference name' default' =>
      cases default <;> cases default' <;> simp [toJson] at h
      · rw [h]
      · rw [h.1, toJson_scalar_injective h.2]
  | _ => cases default <;> simp [toJson] at h

/-- Expressions with one JSON form are one expression. -/
theorem toJson_injective {e e' : Expr} (h : e.toJson = e'.toJson) : e = e' := by
  induction e generalizing e' with
  | reference name default => exact reference_eq_of_toJson_eq h
  | literal value =>
      cases e' with
      | reference name' default' => exact (reference_eq_of_toJson_eq h.symm).symm
      | literal value' =>
          simp only [toJson, Json.object.injEq, List.cons.injEq, Prod.mk.injEq, true_and,
            and_true] at h
          rw [toJson_scalar_injective h]
      | comparison r' left' right' => simp [toJson] at h
      | logical c' left' right' => simp [toJson] at h
  | comparison r left right ihl ihr =>
      cases e' with
      | reference name' default' => exact (reference_eq_of_toJson_eq h.symm).symm
      | comparison r' left' right' =>
          simp only [toJson, Json.object.injEq, List.cons.injEq, Prod.mk.injEq, true_and,
            and_true, Json.string.injEq] at h
          rw [Relation.symbol_injective h.1, ihl h.2.1, ihr h.2.2]
      | literal value' => simp [toJson] at h
      | logical c' left' right' => simp [toJson] at h
  | logical c left right ihl ihr =>
      cases e' with
      | reference name' default' => exact (reference_eq_of_toJson_eq h.symm).symm
      | logical c' left' right' =>
          simp only [toJson, Json.object.injEq, List.cons.injEq, Prod.mk.injEq, true_and,
            and_true, Json.string.injEq] at h
          rw [Connective.keyword_injective h.1, ihl h.2.1, ihr h.2.2]
      | literal value' => simp [toJson] at h
      | comparison r' left' right' => simp [toJson] at h

/-! ### Operands -/

theorem normalize_toJson_scalar (v : Scalar) : v.toJson.normalize = v.toJson := by
  cases v <;> rfl

theorem normalize_reference (name : String) :
    (reference name none).toJson.normalize =
      .object [("name", .string name), ("type", .string "Identifier")] := by
  have hlt : "name" < "type" := by decide
  simp only [toJson, Json.normalize, Json.normalizeMembers, Json.sortMembers, Json.insertMember,
    List.foldl_cons, List.foldl_nil, if_pos hlt]

theorem normalize_reference_default (name : String) (d : Scalar) :
    (reference name (some d)).toJson.normalize =
      .object [("default", d.toJson), ("name", .string name), ("type", .string "Identifier")] := by
  have hname : "name" < "type" := by decide
  have hdefault : "default" < "name" := by decide
  simp only [toJson, Json.normalize, Json.normalizeMembers, Json.sortMembers, Json.insertMember,
    List.foldl_cons, List.foldl_nil, normalize_toJson_scalar, if_pos hname, if_pos hdefault]

theorem normalize_literal (v : Scalar) : (literal v).toJson.normalize = (literal v).toJson := by
  have hlt : ¬"value" < "type" := by decide
  have hne : "value" ≠ "type" := by decide
  simp only [toJson, Json.normalize, Json.normalizeMembers, Json.sortMembers, Json.insertMember,
    List.foldl_cons, List.foldl_nil, normalize_toJson_scalar, if_neg hlt, if_neg hne]

/-- An operand of a condition is read back. -/
theorem IsOperand.readOperand_eq {e : Expr} (h : e.IsOperand) {fuel : Nat} (hfuel : 2 ≤ fuel) :
    readOperand fuel e.toJson = .ok e := by
  obtain ⟨fuel, rfl⟩ : ∃ n, fuel = n + 2 := ⟨fuel - 2, by omega⟩
  rw [readOperand]
  cases h with
  | literal v =>
      rw [normalize_literal]
      cases v <;> rfl
  | @reference name default _ =>
      cases default with
      | none =>
          rw [normalize_reference]
          rfl
      | some d =>
          rw [normalize_reference_default]
          cases d <;> rfl

/-! ### Nodes -/

/-- The members of a node with an operator and two children, its kind left out. -/
def branchMembers (operator : String) (left right : Json) : List (String × Json) :=
  [("operator", .string operator), ("left", left), ("right", right)]

theorem readContents_branch {τ : Type} {name operator : String}
    {readOperator : Json → Except Fault τ} {readChild : Json → Except Fault Expr}
    {make : τ → Expr → Expr → Expr} {op : τ} {l r : Json} {left right : Expr}
    (hop : readOperator (.string operator) = .ok op) (hl : readChild l = .ok left)
    (hr : readChild r = .ok right) :
    (branchRecord name readOperator readChild make).readContents Json.buffered
      (.members (branchMembers operator l r) (.ok ())) = .ok (make op left right) := by
  simp [Record.readContents, branchMembers, branchRecord, Record.readMembers, hop, hl, hr,
    Record.locate, Record.finished, Json.required, bind, Except.bind, pure, Except.pure]

section Parts

variable {readOperand readNode : Json → Except Fault Expr} {l r : Json} {left right : Expr}

theorem readParts_comparison (op : Relation) (hl : readOperand l = .ok left)
    (hr : readOperand r = .ok right) :
    readParts readOperand readNode .comparison (.members (branchMembers op.symbol l r) (.ok ())) =
      .ok (.comparison op left right) :=
  readContents_branch (by cases op <;> rfl) hl hr

theorem readParts_logical (c : Connective) (hl : readNode l = .ok left)
    (hr : readNode r = .ok right) :
    readParts readOperand readNode .logical (.members (branchMembers c.keyword l r) (.ok ())) =
      .ok (.logical c left right) :=
  readContents_branch (by cases c <;> rfl) hl hr

end Parts

theorem readNode_comparison (fuel : Nat) (setting : Setting) (op : Relation) (left right : Expr) :
    readNode (fuel + 1) setting (comparison op left right).toJson =
      readParts (readOperand fuel) (readNode fuel .buffered) .comparison
        (.members (branchMembers op.symbol left.toJson right.toJson) (.ok ())) := rfl

theorem readNode_logical (fuel : Nat) (setting : Setting) (c : Connective) (left right : Expr) :
    readNode (fuel + 1) setting (logical c left right).toJson =
      readParts (readOperand fuel) (readNode fuel .buffered) .logical
        (.members (branchMembers c.keyword left.toJson right.toJson) (.ok ())) := rfl

/-- A node is read back, with enough fuel for its depth. -/
theorem WellFormed.readNode_eq {e : Expr} (h : e.WellFormed) {fuel : Nat} (setting : Setting)
    (hfuel : e.depth < fuel) : readNode fuel setting e.toJson = .ok e := by
  induction h generalizing fuel setting with
  | @condition op left hleft v =>
      -- the operands are read with one step less, and take two
      rw [depth] at hfuel
      have hdepth : 1 ≤ left.depth := by cases hleft <;> exact Nat.le_refl 1
      obtain ⟨fuel, rfl⟩ : ∃ n, fuel = n + 1 := ⟨fuel - 1, by omega⟩
      rw [readNode_comparison]
      exact readParts_comparison op (hleft.readOperand_eq (by omega))
        ((IsOperand.literal v).readOperand_eq (by omega))
  | @joined c left right _ _ ihl ihr =>
      rw [depth] at hfuel
      obtain ⟨fuel, rfl⟩ : ∃ n, fuel = n + 1 := ⟨fuel - 1, by omega⟩
      rw [readNode_logical]
      exact readParts_logical c (ihl .buffered (by omega)) (ihr .buffered (by omega))

/-! ### Nodes in a text -/

/-- The parts of a node in a text are judged when both children have a value. -/
theorem ofDocument?_branch {kind operator : String} {k : Kind} {left right : Document}
    (hkind : readKindInText (.string kind) = .ok k) :
    ofDocument? (.object [("type", .string kind), ("operator", .string operator), ("left", left),
        ("right", right)] true) =
      match left.toJson?, right.toJson? with
      | some l, some r => readPartsInText k (.members (branchMembers operator l r) (.ok ()))
          (fuelFor (.object (branchMembers operator l r)))
      | _, _ => .error .notJson := by
  simp only [ofDocument?, splitKindInText, hkind, if_true, String.reduceEq, if_false,
    Document.toJson?]
  cases left.toJson? with
  | none => rfl
  | some l => cases right.toJson? <;> rfl

theorem fuelFor_branchMembers (operator : String) (left right : Expr) :
    fuelFor (.object (branchMembers operator left.toJson right.toJson)) =
      2 * (1 + max left.depth right.depth) + 2 := by
  simp [fuelFor, branchMembers, Json.depth, Json.depthMembers, depth_toJson]

theorem toJson?_clip (e : Expr) (limit : Nat) :
    (Json.clip limit e.toJson).toJson? = if e.depth ≤ limit then some e.toJson else none := by
  split
  · next h => rw [Json.clip_eq_toDocument _ (by rw [depth_toJson]; exact h), Json.toJson?_toDocument]
  · next h => exact Json.toJson?_clip_eq_none _ (by rw [depth_toJson]; omega)

/-- A node in a text whose children are cut off at the nesting limit. -/
theorem ofDocument?_branch_clip {kind operator : String} {k : Kind} (left right : Expr)
    (limit : Nat) (hkind : readKindInText (.string kind) = .ok k) :
    ofDocument? (.object [("type", .string kind), ("operator", .string operator),
        ("left", Json.clip limit left.toJson), ("right", Json.clip limit right.toJson)] true) =
      if 1 + max left.depth right.depth ≤ limit + 1 then
        readPartsInText k (.members (branchMembers operator left.toJson right.toJson) (.ok ()))
          (2 * (1 + max left.depth right.depth) + 2)
      else .error .notJson := by
  rw [ofDocument?_branch hkind, toJson?_clip, toJson?_clip]
  by_cases hdepth : 1 + max left.depth right.depth ≤ limit + 1
  · rw [if_pos hdepth, if_pos (by omega), if_pos (by omega)]
    simp only [fuelFor_branchMembers]
  · rw [if_neg hdepth]
    by_cases hleft : left.depth ≤ limit
    · rw [if_pos hleft, if_neg (by omega)]
    · rw [if_neg hleft]

/-- **An expression in a text is read back** up to the nesting limit; nested deeper, it is no JSON. -/
theorem WellFormed.ofDocument?_clip {e : Expr} (h : e.WellFormed) {limit : Nat} (hlimit : 0 < limit) :
    ofDocument? (Json.clip limit e.toJson) =
      if e.depth ≤ limit then .ok e else .error .notJson := by
  obtain ⟨limit, rfl⟩ : ∃ n, limit = n + 1 := ⟨limit - 1, by omega⟩
  -- only the outermost node is read off the text; its children are read as values
  cases h with
  | @condition op left hleft v =>
      refine (ofDocument?_branch_clip (k := .comparison) left (.literal v) limit rfl).trans ?_
      rw [readPartsInText, readParts_comparison op (hleft.readOperand_eq (by omega))
        ((IsOperand.literal v).readOperand_eq (by omega))]
      rfl
  | @joined c left right hl hr =>
      refine (ofDocument?_branch_clip (k := .logical) left right limit rfl).trans ?_
      rw [readPartsInText, readParts_logical c (hl.readNode_eq .buffered (by omega))
        (hr.readNode_eq .buffered (by omega))]
      rfl

end Rulebook.Expr
