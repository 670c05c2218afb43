/-
**Values of a form that are rewritten.**

A text that a form gives for a value is written into the rule as a number when it reads as one: `" +5 "`
becomes `5` and `"1e3"` becomes `1000`.  The form looks at the characters of the text before it reads them
and the evaluator at the number that it has read, but both find a number in the same texts, and the same
number.  So the rewriting goes unnoticed where values are compared loosely and only for being equal: what
can be seen as a number is compared with the number, however it is written, and what cannot is a text that
reads as no number, and so is neither of the two texts.

An order between texts would notice, since it depends on how a number is written.

Main definitions:

* `Rulebook.Operand.CountsAs` — a value that is a number for loose comparison, and whose text reads as it.

Main results:

* `Rulebook.readFinite?_decimalText` — the text of a number that reads back is read as a finite number;
* `Rulebook.compareOperands_eq_of_countsAs` — whether a scalar is equal to a number does not depend on
  how the number is written;
* `Rulebook.evaluateCondition_eq_of_countsAs` — neither does the verdict on a condition;
* `Rulebook.Form.rewritten_value_goes_unnoticed` — **the rule of a row is evaluated like the condition on
  the text that was given**.
-/

import Rulebook.Proofs.Complement

set_option autoImplicit false

namespace Rulebook

/-! ### The texts of numbers -/

theorem isBlank_of_isNumeralChar {c : Char} (h : Form.isNumeralChar c = true) : isBlank c = false := by
  simp only [Form.isNumeralChar, Bool.or_eq_true, beq_iff_eq] at h
  rcases h with ((((hdigit | rfl) | rfl) | rfl) | rfl) | rfl
  · exact isBlank_of_isDigit hdigit
  all_goals decide

/-- A text without blanks has none at its ends. -/
theorem trimBlank_eq_self {cs : List Char} (h : ∀ c ∈ cs, isBlank c = false) : trimBlank cs = cs := by
  have hdrop {ds : List Char} (hds : ∀ c ∈ ds, isBlank c = false) : ds.dropWhile isBlank = ds :=
    Stops.dropWhile_eq fun c hc => hds c (List.mem_of_mem_head? hc)
  rw [trimBlank, hdrop h, hdrop fun c hc => h c (List.mem_reverse.1 hc), List.reverse_reverse]

/-- The text of a finite number that reads back has no blanks, so it reads as the number in data too. -/
theorem readFinite?_decimalText {x : Float} (h : x.isFinite = true)
    (hread : readFloat? (decimalText x).toList = some x) :
    readFinite? (decimalText x).toList = some x := by
  obtain ⟨d, hd⟩ := exists_isNumeral_decimalText h
  have hchars := all_isNumeralChar_of_read? hd.read?_eq
  rw [readFinite?, trimBlank_eq_self fun c hc => isBlank_of_isNumeralChar (hchars c hc), hread,
    Option.filter_some, if_pos h]

/-! ### Values that count as a number -/

/-- A value that loose comparison sees as a number, and whose text reads as that number as well. -/
structure Operand.CountsAs (o : Operand) (x : Float) : Prop where
  number?_eq : o.number? = some x
  readFinite?_eq : readFinite? o.asText.toList = some x

namespace Operand

theorem countsAs_text {s : String} {x : Float} (h : readFinite? s.toList = some x) :
    (text s).CountsAs x := ⟨h, h⟩

theorem countsAs_number {x : Float} (h : x.isFinite = true)
    (hread : readFloat? (decimalText x).toList = some x) : (number x).CountsAs x :=
  ⟨rfl, readFinite?_decimalText h hread⟩

/-- What cannot be seen as a number has another text than what counts as one. -/
theorem CountsAs.asText_ne {o right : Operand} {x : Float} (h : right.CountsAs x)
    (hnone : o.number? = none) : o.asText ≠ right.asText := by
  intro hsame
  cases o with
  | number y => cases hnone
  | bool b => cases hnone
  | text s =>
      -- the text reads as no number, and the other one does
      have hread : readFinite? s.toList = some x := by
        rw [show s = right.asText from hsame]
        exact h.readFinite?_eq
      cases hnone.symm.trans hread

end Operand

section Equality

variable {r : Relation} (hr : r = .eq ∨ r = .ne)

include hr

/-- Of different texts the first is not equal to the second, whatever the second is. -/
theorem compareTexts_eq_of_ne {s t t' : String} (h : s ≠ t) (h' : s ≠ t') :
    compareTexts r s t = compareTexts r s t' := by
  rcases hr with rfl | rfl
  · exact (beq_false_of_ne h).trans (beq_false_of_ne h').symm
  · exact (bne_iff_ne.2 h).trans (bne_iff_ne.2 h').symm

variable {p : Policy} (hloose : p.comparison = .loose) {right right' : Operand} {x : Float}

include hloose

/-- **Whether a scalar is equal to a number does not depend on how the number is written.** -/
theorem compareOperands_eq_of_countsAs (h : right.CountsAs x) (h' : right'.CountsAs x) (o : Operand) :
    compareOperands p r o right = compareOperands p r o right' := by
  simp only [compareOperands, hloose, h.number?_eq, h'.number?_eq]
  cases hnumber : o.number? with
  | some y => rfl
  | none =>
      exact congrArg Except.ok
        (compareTexts_eq_of_ne hr (h.asText_ne hnumber) (h'.asText_ne hnumber))

omit hr in
/-- Nothing is a mismatch for loose comparison, so a left operand without a scalar has the same verdict
whatever it would be compared with. -/
theorem Shortfall.verdict_eq_of_loose (lack : Shortfall) (path : Path) :
    lack.verdict p path r right = lack.verdict p path r right' := by
  cases lack with
  | missing name => rfl
  | misplaced e => rfl
  | collection kind => simp only [verdict, mismatch, Policy.rejectsUnsupported, hloose]; rfl

/-- **The verdict on a condition does not depend on how the number on its right is written.** -/
theorem evaluateCondition_eq_of_countsAs {v w : Scalar} (hv : (Operand.ofScalar v).CountsAs x)
    (hw : (Operand.ofScalar w).CountsAs x) (data : Json) (path : Path) (left : Expr) :
    evaluateCondition p data path r left (.literal v) =
      evaluateCondition p data path r left (.literal w) := by
  unfold evaluateCondition
  split
  · rfl
  · simp only [evaluateAgainst_eq]
    cases left.yield p data with
    | ok o => exact compareOperands_eq_of_countsAs hr hloose hv hw o
    | error lack => exact lack.verdict_eq_of_loose hloose path

end Equality

namespace Form

/-! ### Rows -/

/-- The literal that is written for a text is the text, or both count as one number. -/
theorem StandsFor.eq_or_countsAs {row : Row} {s : String} {v : Scalar} (hvalue : row.value = .string s)
    (hread : row.NumberReadsBack) (h : StandsFor row.value v) :
    v = .string s ∨
      ∃ x, (Operand.ofScalar v).CountsAs x ∧ (Operand.ofScalar (.string s)).CountsAs x := by
  obtain ⟨name, relation, value⟩ := row
  obtain rfl : value = .string s := hvalue
  cases h with
  | text h => exact .inl rfl
  | @numeral _ x h =>
      have hfinite := isFinite_of_readFinite? h
      exact .inr ⟨x, Operand.countsAs_number hfinite (hread x (.numeral h) hfinite),
        Operand.countsAs_text h⟩

/-- **Values that are rewritten go unnoticed.**  The form and the evaluator find the same number, if any,
in every text.  A row that passes the check of its attribute and asks whether it is equal, or unequal, to a
text is written as a rule that can be read, and under every policy that compares loosely the rule has the
verdict, or the error, that the condition with the text itself has. -/
theorem rewritten_value_goes_unnoticed :
    (∀ s : String, numericText? s = (Operand.text s).number?) ∧
    ∀ {row : Row} {s : String}, attributeFaults row.name = [] → row.value = .string s →
      row.relation = .eq ∨ row.relation = .ne → row.NumberReadsBack →
      ∃ rule e, row.ruleText? = .ok rule ∧ parse rule = .ok e ∧
        ∀ (p : Policy) (data : Json), p.comparison = .loose →
          e.tryEvaluate p data =
            (Expr.comparison row.relation (.reference row.name none)
              (.literal (.string s))).tryEvaluate p data := by
  refine ⟨numericText?_eq, ?_⟩
  intro row s hname hvalue hrelation hread
  have hvalid : row.IsValid := ⟨hname, hvalue ▸ .string s⟩
  obtain ⟨e, hstates⟩ := hvalid.exists_states
  refine ⟨e.render, e, hstates.ruleText?_eq, (hstates.isWritten hvalid hread).parse_eq, ?_⟩
  intro p data hloose
  cases hstates with
  | @intro v hv =>
      rcases hv.eq_or_countsAs hvalue hread with rfl | ⟨x, hwritten, hgiven⟩
      · rfl
      · exact evaluateCondition_eq_of_countsAs hrelation hloose hwritten hgiven data .root _

/-- A number with an exponent and blanks is written without them, and data that spells it in a third way is
still equal to it. -/
theorem rewritten_load_is_equal :
    let row : Row := ⟨"load", .eq, .string " 1e3 "⟩
    let data := Json.object [("load", .string "+1000.0")]
    let given := Expr.comparison .eq (.reference "load" none) (.literal (.string " 1e3 "))
    (attributeFaults row.name = [] ∧ row.NumberReadsBack) ∧
      ∃ e, parse "load == 1000" = .ok e ∧ row.ruleText? = .ok "load == 1000" ∧
        e.tryEvaluate .legacy data = given.tryEvaluate .legacy data ∧
        given.tryEvaluate .legacy data = .ok true := by
  intro row data given
  have hname : attributeFaults row.name = [] := by decide +kernel
  have hread : row.NumberReadsBack := by
    intro x hx _
    obtain rfl : (1000 : Float) = x := by
      have hliteral : literal? row.value = some (.number 1000) := by decide +kernel
      exact Scalar.number.inj (Option.some_inj.1 (hliteral.symm.trans (literal?_eq_some_iff.2 hx)))
    decide +kernel
  have hrule : row.ruleText? = .ok "load == 1000" := by decide +kernel
  obtain ⟨rule, e, hrule', hparse, hverdict⟩ :=
    rewritten_value_goes_unnoticed.2 hname rfl (.inl rfl) hread
  obtain rfl : "load == 1000" = rule := Except.ok.inj (hrule.symm.trans hrule')
  have hequal : given.tryEvaluate .legacy data = .ok true := by decide +kernel
  exact ⟨⟨hname, hread⟩, e, hparse, hrule, hverdict .legacy data rfl, hequal⟩

/-- An order between texts does notice how a number is written. -/
example :
    let verdict (v : Scalar) := evaluateCondition .lenient (.object [("code", .string "!")]) .root .lt
      (.reference "code" none) (.literal v)
    verdict (.number 5) = .ok true ∧ verdict (.string " 5") = .ok false := by decide +kernel

end Form

end Rulebook
