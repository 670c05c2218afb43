/-
**The rules that rows of a form state.**

A row is written as rule text around values that anyone may send.  Its attribute is checked to be a
name, its number is written in digits and any other text is quoted, so the text of a row is that of a
condition, and nothing in a value can become part of the rule around it.  The texts of rows joined with
`AND` are the text of their conditions joined.

Main definitions:

* `Rulebook.Form.StandsFor` — the literal that a value of a form stands for;
* `Rulebook.Form.Row.States` — the condition that a row states;
* `Rulebook.Form.Row.IsValid` — a row with a name for its attribute and a number or text for its value;
* `Rulebook.Form.Conjunction` — rows, the rules and the conditions they state, and the whole.

Main results:

* `Rulebook.Form.literal?_eq_some_iff` — the literal of a value is the one it stands for;
* `Rulebook.Form.Row.States.ruleText?_eq` — a row is written as its condition;
* `Rulebook.Form.Row.States.isWritten` — **what is written for a row is read as its condition**;
* `Rulebook.Form.exists_conjunction` — **rows are read as the conjunction of their conditions**.
-/

import Rulebook.Form.Row
import Rulebook.Service.Session
import Rulebook.Proofs.Combination
import Rulebook.Proofs.Rendering

set_option autoImplicit false

namespace Rulebook

/-! ### The characters of a number -/

theorem isNumeralChar_of_isDigit {c : Char} (h : c.isDigit = true) : Form.isNumeralChar c = true := by
  simp [Form.isNumeralChar, h]

theorem all_isNumeralChar_splitSign {cs : List Char}
    (h : ∀ c ∈ (splitSign cs).2, Form.isNumeralChar c = true) :
    ∀ c ∈ cs, Form.isNumeralChar c = true := by
  rw [splitSign.eq_def] at h
  split at h
  · exact List.forall_mem_cons.2 ⟨by decide, h⟩
  · exact List.forall_mem_cons.2 ⟨by decide, h⟩
  · exact h

theorem all_isNumeralChar_of_readExponent? {cs : List Char} {e : Int}
    (h : Decimal.readExponent? cs = some e) : ∀ c ∈ cs, Form.isNumeralChar c = true := by
  cases cs with
  | nil => exact List.forall_mem_nil _
  | cons c cs =>
      simp only [Decimal.readExponent?, Option.ite_none_right_eq_some] at h
      obtain ⟨hc, hdigits, -⟩ := h
      have hletter : Form.isNumeralChar c = true := by
        rcases hc with rfl | rfl <;> decide
      exact List.forall_mem_cons.2 ⟨hletter, all_isNumeralChar_splitSign fun d hd =>
        isNumeralChar_of_isDigit (List.all_eq_true.1 hdigits.2 d hd)⟩

theorem forall_mem_of_takeWhile_dropWhile {p q : Char → Bool} {cs : List Char}
    (hp : ∀ c, p c = true → q c = true) (h : ∀ c ∈ cs.dropWhile p, q c = true) :
    ∀ c ∈ cs, q c = true := by
  intro c hc
  rw [← @List.takeWhile_append_dropWhile _ p cs] at hc
  rcases List.mem_append.1 hc with hc | hc
  · exact hp c (List.mem_takeWhile_imp hc)
  · exact h c hc

/-- A numeral has no other characters than those that a number of a form may have. -/
theorem all_isNumeralChar_of_read? {cs : List Char} {d : Decimal} (h : Decimal.read? cs = some d) :
    ∀ c ∈ cs, Form.isNumeralChar c = true := by
  simp only [Decimal.read?] at h
  split at h
  · cases h
  · obtain ⟨e, he, -⟩ := Option.map_eq_some_iff.1 h
    have hrest := all_isNumeralChar_of_readExponent? he
    refine all_isNumeralChar_splitSign
      (forall_mem_of_takeWhile_dropWhile (fun c => isNumeralChar_of_isDigit) ?_)
    revert hrest
    rw [Decimal.splitFraction.eq_def]
    split
    · rename_i hpoint
      intro hrest
      rw [hpoint]
      exact List.forall_mem_cons.2 ⟨by decide,
        forall_mem_of_takeWhile_dropWhile (fun c => isNumeralChar_of_isDigit) hrest⟩
    · exact id

theorem isFinite_readNonFinite? {cs : List Char} {x : Float} (h : readNonFinite? cs = some x) :
    x.isFinite = false := by
  simp only [readNonFinite?] at h
  split at h
  · rw [← Option.some_inj.1 h]
    split <;> decide +kernel
  · split at h
    · rw [← Option.some_inj.1 h]
      decide +kernel
    · cases h

theorem isFinite_of_readFinite? {cs : List Char} {x : Float} (h : readFinite? cs = some x) :
    x.isFinite = true := (Option.filter_eq_some_iff.1 h).2

namespace Form

/-! ### Literals -/

/-- A text stands for a number when it reads as a finite one. -/
theorem numericText?_eq (s : String) : numericText? s = readFinite? s.toList := by
  rw [numericText?, readFinite?]
  by_cases h : trimBlank s.toList ≠ [] ∧ (trimBlank s.toList).all isNumeralChar = true
  · rw [if_pos h]
  · rw [if_neg h]
    refine (Option.filter_eq_none_iff.2 fun x hx => ?_).symm
    rw [readFloat?] at hx
    split at hx
    · rename_i d hd
      have hne : trimBlank s.toList ≠ [] := by
        rintro hnil
        rw [hnil] at hd
        cases hd
      exact absurd ⟨hne, List.all_eq_true.2 (all_isNumeralChar_of_read? hd)⟩ h
    · rw [isFinite_readNonFinite? hx]
      exact Bool.false_ne_true

/-- The literal that a value of a form stands for: a number itself, a text that reads as a finite number
once the blanks at its ends are taken away that number, and any other text itself. -/
inductive StandsFor : Json → Scalar → Prop
  | number (n : Json.Number) : StandsFor (.number n) (.number n.toFloat)
  | numeral {s : String} {x : Float} (h : readFinite? s.toList = some x) :
      StandsFor (.string s) (.number x)
  | text {s : String} (h : readFinite? s.toList = none) : StandsFor (.string s) (.string s)

theorem literal?_eq_some_iff {value : Json} {v : Scalar} :
    literal? value = some v ↔ StandsFor value v := by
  constructor
  · intro h
    cases value with
    | number n =>
        rw [← Option.some_inj.1 h]
        exact .number n
    | string s =>
        rw [literal?, numericText?_eq] at h
        split at h
        · rename_i x hx
          rw [← Option.some_inj.1 h]
          exact .numeral hx
        · rename_i hx
          rw [← Option.some_inj.1 h]
          exact .text hx
    | _ => cases h
  · intro h
    cases h with
    | number n => rfl
    | numeral h => rw [literal?, numericText?_eq, h]
    | text h => rw [literal?, numericText?_eq, h]

theorem StandsFor.number_or_string {value : Json} {v : Scalar} (h : StandsFor value v) :
    (∃ n, value = .number n) ∨ ∃ s, value = .string s := by
  cases h with
  | number n => exact .inl ⟨n, rfl⟩
  | numeral => exact .inr ⟨_, rfl⟩
  | text => exact .inr ⟨_, rfl⟩

/-- A value that is a number, which is finite like every number of JSON, or a text. -/
inductive IsLiteral : Json → Prop
  | number {n : Json.Number} (h : n.toFloat.isFinite = true) : IsLiteral (.number n)
  | string (s : String) : IsLiteral (.string s)

theorem IsLiteral.exists_standsFor {value : Json} (h : IsLiteral value) : ∃ v, StandsFor value v := by
  cases h with
  | number h => exact ⟨_, .number _⟩
  | string s =>
      cases hread : readFinite? s.toList with
      | none => exact ⟨_, .text hread⟩
      | some x => exact ⟨_, .numeral hread⟩

theorem IsLiteral.isFinite {value : Json} (h : IsLiteral value) {x : Float}
    (hx : StandsFor value (.number x)) : x.isFinite = true := by
  cases hx with
  | number n =>
      cases h with
      | number h => exact h
  | numeral hread => exact isFinite_of_readFinite? hread

/-! ### Names -/

theorem isName_iff {cs : List Char} :
    isName cs = true ↔
      ∃ c ds, cs = c :: ds ∧ isNameStart c = true ∧ ∀ d ∈ ds, isNameChar d = true := by
  cases cs with
  | nil => simp [isName]
  | cons c ds => simp [isName, List.all_eq_true]

/-- Nothing stands against a text as a name exactly if it is a word of rule text. -/
theorem nameFault?_eq_none_iff {name : String} : nameFault? name = none ↔ IsWord name.toList := by
  have hkeyword (k : Connective) : Connective.ofKeyword? name = some k ↔
      name.toList = k.symbol.toList ∨ IsKeyword name.toList k := by
    rw [← Connective.ofKeyword?_ofList_eq_some_iff, String.ofList_toList]
  rw [nameFault?, IsWord, ← isName_iff]
  constructor
  · intro h
    split at h
    · cases h
    · next hnone =>
        split at h
        · next hname =>
            refine ⟨hname, fun k hk => hnone ?_⟩
            rw [(hkeyword k).2 (.inr hk)]
            rfl
        · cases h
  · rintro ⟨hname, hno⟩
    have hnone : ¬(Connective.ofKeyword? name).isSome = true := by
      intro hsome
      obtain ⟨k, hk⟩ := Option.isSome_iff_exists.1 hsome
      rcases (hkeyword k).1 hk with hsymbol | hk
      · obtain ⟨c, ds, hcons, hstart, -⟩ := isName_iff.1 hname
        exact ne_symbol_of_isNameStart hstart k (hcons.symm.trans hsymbol)
      · exact hno k hk
    rw [if_neg hnone, if_pos hname]

/-- An attribute without faults is a word of rule text. -/
theorem isWord_of_attributeFaults {name : String} (h : attributeFaults name = []) :
    IsWord name.toList :=
  nameFault?_eq_none_iff.1 (Option.toList_eq_nil_iff.1 (List.append_eq_nil_iff.1 h).2)

namespace Row

/-! ### Conditions -/

/-- The condition that a row states: its attribute in its relation to the literal of its value. -/
inductive States (row : Row) : Expr → Prop
  | intro {v : Scalar} (h : StandsFor row.value v) :
      States row (.comparison row.relation (.reference row.name none) (.literal v))

/-- A row that passes the check of its attribute and has a literal for its value. -/
structure IsValid (row : Row) : Prop where
  name : attributeFaults row.name = []
  value : IsLiteral row.value

/-- The text of the number that a row compares with, if it does, is read back. -/
def NumberReadsBack (row : Row) : Prop :=
  ∀ x, StandsFor row.value (.number x) → x.isFinite = true →
    readFloat? (decimalText x).toList = some x

theorem IsValid.exists_states {row : Row} (h : row.IsValid) : ∃ e, row.States e := by
  obtain ⟨v, hv⟩ := h.value.exists_standsFor
  exact ⟨_, .intro hv⟩

/-- The attribute of a valid row can stand in a condition. -/
theorem IsValid.isOperand {row : Row} (h : row.IsValid) :
    (Expr.reference row.name none).IsOperand := by
  refine .reference none fun hname => ?_
  obtain ⟨⟨c, cs, hcons, -⟩, -⟩ := isWord_of_attributeFaults h.name
  rw [hname] at hcons
  cases hcons

/-- A row is written as its condition. -/
theorem States.ruleText?_eq {row : Row} {e : Expr} (h : row.States e) :
    row.ruleText? = .ok e.render := by
  cases h with
  | @intro v hv =>
      rw [ruleText?, literal?_eq_some_iff.2 hv]
      refine congrArg Except.ok (String.toList_inj.1 ?_)
      simp [Expr.render, Expr.write]

end Row

/-- An expression whose text is read as it, and which other expressions can be joined to. -/
structure IsWritten (e : Expr) : Prop where
  clean : e.LexicallyClean
  nested : e.LeftNested
  read : e.NumbersReadBack

theorem IsWritten.parse_eq {e : Expr} (h : IsWritten e) : parse e.render = .ok e :=
  Expr.parse_render_of_leftNested h.clean h.nested h.read

theorem IsWritten.join {left right : Expr} (hleft : IsWritten left) (hright : IsWritten right)
    (hlogical : right.isLogical = false) : IsWritten (.logical .and left right) where
  clean := Expr.lexicallyClean_logical.2 ⟨hleft.clean, hright.clean⟩
  nested := Expr.forall_nodes_logical.2 ⟨hlogical, hleft.nested, hright.nested⟩
  read := Expr.forall_nodes_logical.2 ⟨trivial, hleft.read, hright.read⟩

namespace Row

theorem States.isLogical_eq {row : Row} {e : Expr} (h : row.States e) : e.isLogical = false := by
  cases h
  rfl

/-- The condition of a valid row can be written: its attribute is a word, and so is its number. -/
theorem States.isWritten {row : Row} {e : Expr} (h : row.States e) (hvalid : row.IsValid)
    (hread : row.NumberReadsBack) : IsWritten e := by
  cases h with
  | @intro v hv =>
      refine ⟨⟨Expr.check_eq_ok_iff.2 (.condition row.relation hvalid.isOperand v),
        Expr.forall_nodes_comparison.2 ⟨trivial, ?_, ?_⟩⟩,
        Expr.leftNested_condition row.relation hvalid.isOperand v,
        Expr.forall_nodes_comparison.2 ⟨trivial, ?_, ?_⟩⟩
      · exact List.forall_mem_singleton.2 ⟨rfl, isWord_of_attributeFaults hvalid.name⟩
      · refine List.forall_mem_singleton.2 ?_
        cases v with
        | number x => exact hvalid.value.isFinite hv
        | string s => trivial
      · exact List.forall_mem_singleton.2 trivial
      · refine List.forall_mem_singleton.2 ?_
        cases v with
        | number x => exact hread x hv (hvalid.value.isFinite hv)
        | string s => trivial

end Row

/-! ### Conjunctions -/

section Joined

variable {conditions : List Expr} {whole : Expr}

/-- The text of conditions that are joined is made of their texts. -/
theorem render_joinAll (hlogical : ∀ e ∈ conditions, e.isLogical = false)
    (h : joinAll .and conditions = some whole) :
    whole.render = Service.conjunctionText (conditions.map Expr.render) := by
  revert hlogical
  refine joinAll_induction (motive := fun es w => (∀ e ∈ es, e.isLogical = false) →
    w.render = Service.conjunctionText (es.map Expr.render)) ?_ ?_ h
  · intro e _
    exact String.intercalate_singleton.symm
  · intro es w e hes ih hlogical
    obtain ⟨hbefore, he⟩ := List.forall_mem_append.1 hlogical
    have hne : es.map Expr.render ≠ [] := by
      rintro hnil
      rw [List.map_eq_nil_iff.1 hnil] at hes
      cases hes
    rw [List.map_append, List.map_singleton, Service.conjunctionText,
      String.intercalate_append_of_ne_nil hne (List.cons_ne_nil _ _),
      String.intercalate_singleton, ← Service.conjunctionText, ← ih hbefore]
    refine String.toList_inj.1 ?_
    simp [Expr.render, Expr.write, he e List.mem_cons_self, Connective.keyword]

theorem isWritten_joinAll (hlogical : ∀ e ∈ conditions, e.isLogical = false)
    (hwritten : ∀ e ∈ conditions, IsWritten e) (h : joinAll .and conditions = some whole) :
    IsWritten whole := by
  revert hlogical hwritten
  refine joinAll_induction (motive := fun es w => (∀ e ∈ es, e.isLogical = false) →
    (∀ e ∈ es, IsWritten e) → IsWritten w) ?_ ?_ h
  · intro e _ hwritten
    exact hwritten e List.mem_cons_self
  · intro es w e _ ih hlogical hwritten
    obtain ⟨hbefore, he⟩ := List.forall_mem_append.1 hlogical
    obtain ⟨hwbefore, hwe⟩ := List.forall_mem_append.1 hwritten
    exact (ih hbefore hwbefore).join (hwe e List.mem_cons_self) (he e List.mem_cons_self)

end Joined

/-- Rows of a form with the rules and the conditions they state, and the whole that these make up. -/
structure Conjunction (rows : List Row) (rules : List String) (conditions : List Expr)
    (whole : Expr) : Prop where
  /-- Every row is written as a rule. -/
  written : List.Forall₂ (fun row rule => row.ruleText? = .ok rule) rows rules
  /-- So are the rows together. -/
  ruleTexts?_eq : ruleTexts? rows = .ok rules
  /-- The conditions are those of the rows. -/
  states : List.Forall₂ Row.States rows conditions
  /-- Every rule is read as the condition of its row. -/
  parsed : List.Forall₂ (fun rule e => parse rule = .ok e) rules conditions
  /-- The whole is the conditions joined from left to right. -/
  joined : joinAll .and conditions = some whole
  /-- The rules combine to the whole. -/
  combine_eq : combine .and rules = .ok (some whole)
  /-- The text of the rules joined is read as the whole. -/
  parse_eq : parse (Service.conjunctionText rules) = .ok whole

theorem exists_conditions {rows : List Row} (hvalid : ∀ row ∈ rows, row.IsValid)
    (hread : ∀ row ∈ rows, row.NumberReadsBack) :
    ∃ conditions, List.Forall₂ Row.States rows conditions ∧
      (∀ e ∈ conditions, e.isLogical = false) ∧ ∀ e ∈ conditions, IsWritten e := by
  induction rows with
  | nil => exact ⟨[], .nil, List.forall_mem_nil _, List.forall_mem_nil _⟩
  | cons row rows ih =>
      obtain ⟨hrow, hrows⟩ := List.forall_mem_cons.1 hvalid
      obtain ⟨hrowRead, hrowsRead⟩ := List.forall_mem_cons.1 hread
      obtain ⟨e, he⟩ := hrow.exists_states
      obtain ⟨es, hes, hlogical, hwritten⟩ := ih hrows hrowsRead
      exact ⟨e :: es, .cons he hes, List.forall_mem_cons.2 ⟨he.isLogical_eq, hlogical⟩,
        List.forall_mem_cons.2 ⟨he.isWritten hrow hrowRead, hwritten⟩⟩

/-- **Rows are read as the conjunction of their conditions**, one by one and as one text. -/
theorem exists_conjunction {rows : List Row} (hne : rows ≠ []) (hvalid : ∀ row ∈ rows, row.IsValid)
    (hread : ∀ row ∈ rows, row.NumberReadsBack) :
    ∃ rules conditions whole, Conjunction rows rules conditions whole := by
  obtain ⟨conditions, hstates, hlogical, hwritten⟩ := exists_conditions hvalid hread
  obtain ⟨whole, hjoined⟩ : ∃ whole, joinAll .and conditions = some whole := by
    cases hstates with
    | nil => exact absurd rfl hne
    | cons => exact ⟨_, rfl⟩
  have hrules : List.Forall₂ (fun row rule => row.ruleText? = .ok rule) rows
      (conditions.map Expr.render) :=
    List.forall₂_map_right_iff.2 (hstates.imp fun row e he => he.ruleText?_eq)
  have hparsed : List.Forall₂ (fun rule e => parse rule = .ok e)
      (conditions.map Expr.render) conditions :=
    List.forall₂_map_left_iff.2 (List.forall₂_same.2 fun e he => (hwritten e he).parse_eq)
  refine ⟨conditions.map Expr.render, conditions, whole, hrules, mapM_eq_ok_iff.2 hrules, hstates,
    hparsed, hjoined, combine_eq_ok_some_iff.2 ⟨conditions, mapM_eq_ok_iff.2 hparsed, hjoined⟩, ?_⟩
  rw [← render_joinAll hlogical hjoined]
  exact (isWritten_joinAll hlogical hwritten hjoined).parse_eq

end Form

end Rulebook
