/-
**The shape of expressions, and of those that are read.**

`Rulebook.Expr.check` walks over an expression and reports the first node that has no place where it
stands.  An expression without such a node is described here by its form: conditions between an operand
and a literal, joined by connectives.  Everything that is read from rule text has this form.

Main definitions:

* `Rulebook.Expr.IsOperand`, `Rulebook.Expr.WellFormed` — the left operands of conditions, and the
  expressions without a misplaced node;
* `Rulebook.Phrase.Spelled` — a phrase whose tokens can be written.

Main results:

* `Rulebook.Expr.check_eq_ok_iff` — the check accepts exactly the well-formed expressions;
* `Rulebook.exists_spelled_of_parse` — what is read is the expression of a phrase that can be written;
* `Rulebook.wellFormed_of_parse` — and therefore well formed.
-/

import Rulebook.Rule.Shape
import Rulebook.Proofs.Grammar

set_option autoImplicit false

namespace Rulebook

/-! ### Well-formed expressions -/

-- Unlike `==`, which compares numbers as numbers, this equality tells the two zeros apart.
deriving instance DecidableEq for Scalar, Expr

namespace Expr

/-- What may stand on the left of a relation: a literal, or an attribute that has a name. -/
inductive IsOperand : Expr → Prop
  | literal (value : Scalar) : IsOperand (.literal value)
  | reference {name : String} (default : Option Scalar) (h : name ≠ "") :
      IsOperand (.reference name default)

/-- Conditions between an operand and a literal, joined by connectives. -/
inductive WellFormed : Expr → Prop
  | condition (r : Relation) {left : Expr} (hleft : IsOperand left) (value : Scalar) :
      WellFormed (.comparison r left (.literal value))
  | joined (c : Connective) {left right : Expr} (hleft : WellFormed left)
      (hright : WellFormed right) : WellFormed (.logical c left right)

theorem wellFormed_logical_iff {c : Connective} {left right : Expr} :
    (logical c left right).WellFormed ↔ left.WellFormed ∧ right.WellFormed := by
  constructor
  · intro h
    cases h with
    | joined _ hl hr => exact ⟨hl, hr⟩
  · rintro ⟨hl, hr⟩
    exact .joined c hl hr

theorem checkLeftOperand_eq_ok_iff {path : Path} {e : Expr} :
    checkLeftOperand path e = .ok () ↔ e.IsOperand := by
  constructor
  · intro h
    cases e with
    | reference name default =>
        by_cases hname : name = ""
        · simp [checkLeftOperand, hname] at h
        · exact .reference default hname
    | literal value => exact .literal value
    | comparison r left right => cases h
    | logical c left right => cases h
  · intro h
    cases h with
    | literal value => rfl
    | reference default hname => simp [checkLeftOperand, hname]

theorem checkRightOperand_eq_ok_iff {path : Path} {e : Expr} :
    checkRightOperand path e = .ok () ↔ ∃ value, e = .literal value := by
  cases e <;> simp [checkRightOperand, misplaced]

/-- Two checks one after the other succeed exactly when both do. -/
theorem both_eq_ok_iff {ε : Type} {x y : Except ε Unit} :
    (do x; y) = Except.ok () ↔ x = .ok () ∧ y = .ok () := by
  cases x with
  | error e => simp [bind, Except.bind]
  | ok u => simp [bind, Except.bind]

theorem checkAt_eq_ok_iff {path : Path} {e : Expr} : e.checkAt path = .ok () ↔ e.WellFormed := by
  constructor
  · intro h
    induction e generalizing path with
    | reference name default => cases h
    | literal value => cases h
    | comparison r left right _ _ =>
        obtain ⟨hleft, hright⟩ := both_eq_ok_iff.1 h
        obtain ⟨value, rfl⟩ := checkRightOperand_eq_ok_iff.1 hright
        exact .condition r (checkLeftOperand_eq_ok_iff.1 hleft) value
    | logical c left right ihl ihr =>
        obtain ⟨hleft, hright⟩ := both_eq_ok_iff.1 h
        exact .joined c (ihl hleft) (ihr hright)
  · intro h
    induction h generalizing path with
    | condition r hleft value =>
        exact both_eq_ok_iff.2 ⟨checkLeftOperand_eq_ok_iff.2 hleft, rfl⟩
    | joined c _ _ ihl ihr => exact both_eq_ok_iff.2 ⟨ihl, ihr⟩

/-- **The check accepts exactly the well-formed expressions.** -/
theorem check_eq_ok_iff {e : Expr} : e.check = .ok () ↔ e.WellFormed := checkAt_eq_ok_iff

end Expr

/-! ### What is read -/

/-- A kind of token that some lexeme has. -/
def Token.Kind.Spelled (k : Token.Kind) : Prop := ∃ goesOn text, Lexical goesOn text k

/-- A phrase whose tokens can be written. -/
def Phrase.Spelled (p : Phrase) : Prop := ∀ k ∈ p.kinds, k.Spelled

theorem Cut.spelled {n : Nat} {cs : List Char} {ts : List Token} (h : Cut n cs ts) :
    ∀ t ∈ ts, t.kind.Spelled := by
  induction h with
  | blanks _ => simp
  | lexeme _ htext _ _ ih => exact List.forall_mem_cons.2 ⟨⟨_, _, htext⟩, ih⟩

/-- What is read is the expression of a phrase that can be written. -/
theorem exists_spelled_of_parse {rule : String} {e : Expr} (h : parse rule = .ok e) :
    ∃ p : Phrase, p.Spelled ∧ e = p.expr := by
  obtain ⟨ts, p, hcut, hkinds, rfl⟩ := exists_phrase_of_parse h
  refine ⟨p, ?_, rfl⟩
  intro k hk
  rw [← hkinds] at hk
  obtain ⟨t, ht, rfl⟩ := List.mem_map.1 hk
  exact hcut.spelled t ht

theorem isOperand_of_spelled {a : Atom} (h : a.kind.Spelled) : a.operand.IsOperand := by
  cases a with
  | word s =>
      obtain ⟨goesOn, text, htext⟩ := h
      refine .reference none ?_
      cases htext with
      | @word c cs _ _ _ => simp
  | number x => exact .literal _
  | quoted s => exact .literal _

theorem Clause.wellFormed {c : Clause} (h : c.left.kind.Spelled) : c.expr.WellFormed :=
  .condition c.relation (isOperand_of_spelled h) c.right.value

/-- Induction over the expression of a phrase that can be written, one condition joined at a time. -/
theorem Phrase.Spelled.induction {motive : Expr → Prop} {p : Phrase} (h : p.Spelled)
    (first : ∀ clause : Clause, (∀ k ∈ clause.kinds, k.Spelled) → motive clause.expr)
    (step : ∀ (c : Connective) (left : Expr) (clause : Clause), motive left →
      (∀ k ∈ clause.kinds, k.Spelled) → motive (.logical c left clause.expr)) : motive p.expr := by
  obtain ⟨clause, further⟩ := p
  obtain ⟨hclause, hfurther⟩ := List.forall_mem_append.1 h
  have hfirst := first clause hclause
  clear h hclause
  show motive (joinFurther clause.expr further)
  -- the expression joined so far grows with every further condition
  generalize clause.expr = e at hfirst
  induction further generalizing e with
  | nil => exact hfirst
  | cons q further ih =>
      obtain ⟨c, next⟩ := q
      rw [furtherKinds_cons, List.forall_mem_cons, List.forall_mem_append] at hfurther
      obtain ⟨-, hnext, hfurther⟩ := hfurther
      exact ih hfurther (.logical c e next.expr) (step c e next hfirst hnext)

theorem Phrase.Spelled.wellFormed {p : Phrase} (h : p.Spelled) : p.expr.WellFormed := by
  have hclause (c : Clause) (hc : ∀ k ∈ c.kinds, k.Spelled) : c.expr.WellFormed :=
    Clause.wellFormed (hc _ (by simp [Clause.kinds]))
  exact h.induction hclause fun c left clause hleft hc => .joined c hleft (hclause clause hc)

/-- What is read from rule text is well formed. -/
theorem wellFormed_of_parse {rule : String} {e : Expr} (h : parse rule = .ok e) :
    e.WellFormed := by
  obtain ⟨p, hp, rfl⟩ := exists_spelled_of_parse h
  exact hp.wellFormed

end Rulebook
