/-
**The grammar of rules.**

A rule is a row of conditions joined by connectives.  Here the row is a datatype of its own: a phrase
says which operands, relations and connectives follow one another, and from it one reads off both the
kinds of the tokens and the expression.  The reader of rules accepts a text exactly when it is cut into
the tokens of a phrase, and then gives the expression of that phrase.

Main definitions:

* `Rulebook.Atom`, `Rulebook.Clause`, `Rulebook.Phrase` — an operand, a condition and a rule;
* `Rulebook.Phrase.kinds`, `Rulebook.Phrase.expr` — the tokens of a rule and its expression.

Main results:

* `Rulebook.parseTokens_eq_ok_iff` — a row of tokens is a rule exactly when it is that of a phrase;
* `Rulebook.exists_tokens_of_parse`, `Rulebook.refused_of_parse` — a text is read, or refused, in two
  steps;
* `Rulebook.parse_eq_ok_iff` — **the reader accepts exactly the grammar**, and joins the conditions
  from left to right.
-/

import Rulebook.Rule.Parse
import Rulebook.Proofs.Fallible
import Rulebook.Proofs.Lexeme

set_option autoImplicit false

namespace Rulebook

/-! ### Phrases -/

/-- What may stand on either side of a relation. -/
inductive Atom where
  | word (s : String)
  | number (x : Float)
  | quoted (s : String)

namespace Atom

/-- The kind of its token. -/
def kind : Atom → Token.Kind
  | word s => .word s
  | number x => .number x
  | quoted s => .quoted s

/-- What it means on the left of a relation: a word is an attribute. -/
def operand : Atom → Expr
  | word s => .reference s none
  | number x => .literal (.number x)
  | quoted s => .literal (.string s)

/-- What it means on the right of a relation: a word is a text. -/
def value : Atom → Scalar
  | word s => .string s
  | number x => .number x
  | quoted s => .string s

end Atom

/-- A condition: two operands with a relation between them. -/
structure Clause where
  left : Atom
  relation : Relation
  right : Atom

namespace Clause

/-- The kinds of its tokens. -/
def kinds (c : Clause) : List Token.Kind := [c.left.kind, .relation c.relation, c.right.kind]

/-- The expression that it is read as. -/
def expr (c : Clause) : Expr := .comparison c.relation c.left.operand (.literal c.right.value)

end Clause

/-- A rule: a condition, and further ones with the connective that stands before each. -/
structure Phrase where
  first : Clause
  further : List (Connective × Clause)

/-- The kinds of the tokens of further conditions. -/
def furtherKinds (further : List (Connective × Clause)) : List Token.Kind :=
  further.flatMap fun p => .connective p.1 :: p.2.kinds

/-- Further conditions joined to an expression, from left to right. -/
def joinFurther (e : Expr) (further : List (Connective × Clause)) : Expr :=
  further.foldl (fun e p => .logical p.1 e p.2.expr) e

namespace Phrase

/-- The kinds of its tokens: `L C R`, and `K L C R` for every further condition. -/
def kinds (p : Phrase) : List Token.Kind := p.first.kinds ++ furtherKinds p.further

/-- Its expression: `(…((c₁ K₁ c₂) K₂ c₃)…)`. -/
def expr (p : Phrase) : Expr := joinFurther p.first.expr p.further

end Phrase

/-! ### Conditions -/

/-- What only atoms are taken for is taken for something exactly where it is an atom. -/
theorem Token.Kind.pick?_eq_some_iff {α : Type} {pick? : Token.Kind → Option α} {meaning : Atom → α}
    (hatom : ∀ a : Atom, pick? a.kind = some (meaning a))
    (hrelation : ∀ r, pick? (.relation r) = none) (hconnective : ∀ c, pick? (.connective c) = none)
    {k : Token.Kind} {x : α} : pick? k = some x ↔ ∃ a : Atom, k = a.kind ∧ x = meaning a := by
  constructor
  · intro h
    cases k with
    | word s => exact ⟨.word s, rfl, Option.some_inj.1 (h.symm.trans (hatom (.word s)))⟩
    | number x => exact ⟨.number x, rfl, Option.some_inj.1 (h.symm.trans (hatom (.number x)))⟩
    | quoted s => exact ⟨.quoted s, rfl, Option.some_inj.1 (h.symm.trans (hatom (.quoted s)))⟩
    | relation r => cases h.symm.trans (hrelation r)
    | connective c => cases h.symm.trans (hconnective c)
  · rintro ⟨a, rfl, rfl⟩
    exact hatom a

theorem Token.Kind.operand?_eq_some_iff {k : Token.Kind} {e : Expr} :
    k.operand? = some e ↔ ∃ a : Atom, k = a.kind ∧ e = a.operand :=
  pick?_eq_some_iff (fun a => by cases a <;> rfl) (fun _ => rfl) (fun _ => rfl)

theorem Token.Kind.value?_eq_some_iff {k : Token.Kind} {v : Scalar} :
    k.value? = some v ↔ ∃ a : Atom, k = a.kind ∧ v = a.value :=
  pick?_eq_some_iff (fun a => by cases a <;> rfl) (fun _ => rfl) (fun _ => rfl)

theorem Token.Kind.relation?_eq_some_iff {k : Token.Kind} {r : Relation} :
    k.relation? = some r ↔ k = .relation r := by
  cases k <;> simp [Token.Kind.relation?]

theorem Token.Kind.connective?_eq_some_iff {k : Token.Kind} {c : Connective} :
    k.connective? = some c ↔ k = .connective c := by
  cases k <;> simp [Token.Kind.connective?]

theorem expect_eq_ok_iff {α : Type} {n : Nat} {pick? : Token.Kind → Option α}
    {wrong missing : ParseError.Reason} {ts rest : List Token} {a : α} :
    expect n pick? wrong missing ts = .ok (a, rest) ↔
      ∃ t, ts = t :: rest ∧ pick? t.kind = some a := by
  cases ts with
  | nil => simp [expect]
  | cons t ts =>
      simp only [expect]
      cases hpick : pick? t.kind with
      | none =>
          constructor
          · intro h; cases h
          · rintro ⟨t', ht, h⟩
            cases ht
            rw [hpick] at h
            cases h
      | some b =>
          constructor
          · intro h
            cases h
            exact ⟨t, rfl, hpick⟩
          · rintro ⟨t', ht, h⟩
            cases ht
            rw [hpick] at h
            cases h
            rfl

/-- A row of tokens starts with a condition exactly when it starts with the tokens of a clause. -/
theorem condition_eq_ok_iff {n : Nat} {missing : ParseError.Reason} {ts rest : List Token}
    {e : Expr} :
    condition n missing ts = .ok (e, rest) ↔
      ∃ (front : List Token) (c : Clause),
        ts = front ++ rest ∧ front.map Token.kind = c.kinds ∧ e = c.expr := by
  constructor
  · intro h
    -- one step for each of the three tokens that are expected
    obtain ⟨⟨left, ts₁⟩, hleft, h⟩ := bind_eq_ok_iff.1 h
    obtain ⟨⟨r, ts₂⟩, hrelation, h⟩ := bind_eq_ok_iff.1 h
    obtain ⟨⟨right, ts₃⟩, hright, h⟩ := bind_eq_ok_iff.1 h
    cases h
    obtain ⟨t₁, rfl, h₁⟩ := expect_eq_ok_iff.1 hleft
    obtain ⟨t₂, rfl, h₂⟩ := expect_eq_ok_iff.1 hrelation
    obtain ⟨t₃, rfl, h₃⟩ := expect_eq_ok_iff.1 hright
    obtain ⟨a, ha, rfl⟩ := Token.Kind.operand?_eq_some_iff.1 h₁
    obtain ⟨b, hb, rfl⟩ := Token.Kind.value?_eq_some_iff.1 h₃
    refine ⟨[t₁, t₂, t₃], ⟨a, r, b⟩, rfl, ?_, rfl⟩
    simp [Clause.kinds, ha, hb, Token.Kind.relation?_eq_some_iff.1 h₂]
  · rintro ⟨front, ⟨a, r, b⟩, rfl, hkinds, rfl⟩
    obtain ⟨t₁, ts₁, rfl, h₁, hkinds⟩ := List.map_eq_cons_iff.1 hkinds
    obtain ⟨t₂, ts₂, rfl, h₂, hkinds⟩ := List.map_eq_cons_iff.1 hkinds
    obtain ⟨t₃, ts₃, rfl, h₃, hkinds⟩ := List.map_eq_cons_iff.1 hkinds
    obtain rfl := List.map_eq_nil_iff.1 hkinds
    have hleft := Token.Kind.operand?_eq_some_iff.2 ⟨a, h₁, rfl⟩
    have hrelation := Token.Kind.relation?_eq_some_iff.2 h₂
    have hright := Token.Kind.value?_eq_some_iff.2 ⟨b, h₃, rfl⟩
    refine bind_eq_ok_iff.2 ⟨_, expect_eq_ok_iff.2 ⟨t₁, rfl, hleft⟩, ?_⟩
    refine bind_eq_ok_iff.2 ⟨_, expect_eq_ok_iff.2 ⟨t₂, rfl, hrelation⟩, ?_⟩
    exact bind_eq_ok_iff.2 ⟨_, expect_eq_ok_iff.2 ⟨t₃, rfl, hright⟩, rfl⟩

/-! ### Rules -/

theorem chain_nil (n : Nat) (e : Expr) : chain n e [] = .ok e := by rw [chain]

/-- After a connective there must be a condition, which is joined. -/
theorem chain_of_connective? {n : Nat} {e : Expr} {t : Token} {ts : List Token} {c : Connective}
    (h : t.kind.connective? = some c) :
    chain n e (t :: ts) =
      (condition n .danglingConnective ts).bind fun r => chain n (.logical c e r.1) r.2 := by
  rw [chain]
  split
  · next hnone => rw [h] at hnone; cases hnone
  · next c' hsome =>
      obtain rfl : c = c' := Option.some_inj.1 (h.symm.trans hsome)
      split
      · next hcondition => simp only [hcondition, Except.bind]
      · next hcondition => simp only [hcondition, Except.bind]

theorem chain_connective {n : Nat} {e right : Expr} {t : Token} {ts rest : List Token}
    {c : Connective} (ht : t.kind = .connective c)
    (h : condition n .danglingConnective ts = .ok (right, rest)) :
    chain n e (t :: ts) = chain n (.logical c e right) rest := by
  rw [chain_of_connective? (Token.Kind.connective?_eq_some_iff.2 ht), h]
  rfl

@[simp] theorem furtherKinds_nil : furtherKinds [] = [] := rfl

@[simp] theorem furtherKinds_cons (c : Connective) (clause : Clause)
    (further : List (Connective × Clause)) :
    furtherKinds ((c, clause) :: further) =
      .connective c :: (clause.kinds ++ furtherKinds further) := by
  simp [furtherKinds]

/-- What is joined to an expression is a row of further conditions. -/
theorem chain_eq_ok_iff {n : Nat} {e whole : Expr} {ts : List Token} :
    chain n e ts = .ok whole ↔
      ∃ further, ts.map Token.kind = furtherKinds further ∧ whole = joinFurther e further := by
  constructor
  · intro h
    fun_induction chain n e ts with
    | case1 e =>
        cases h
        exact ⟨[], rfl, rfl⟩
    | case2 => cases h
    | case3 => cases h
    | case4 e t ts c hc right rest hcondition _ ih =>
        obtain ⟨further, hkinds, rfl⟩ := ih h
        obtain ⟨front, clause, rfl, hfront, rfl⟩ := condition_eq_ok_iff.1 hcondition
        refine ⟨(c, clause) :: further, ?_, rfl⟩
        rw [furtherKinds_cons, List.map_cons, List.map_append, hfront, hkinds,
          Token.Kind.connective?_eq_some_iff.1 hc]
  · rintro ⟨further, hkinds, rfl⟩
    induction further generalizing e ts with
    | nil =>
        obtain rfl := List.map_eq_nil_iff.1 hkinds
        exact chain_nil n e
    | cons p further ih =>
        obtain ⟨c, clause⟩ := p
        rw [furtherKinds_cons] at hkinds
        obtain ⟨t, ts, rfl, ht, hkinds⟩ := List.map_eq_cons_iff.1 hkinds
        obtain ⟨front, rest, rfl, hfront, hrest⟩ := List.map_eq_append_iff.1 hkinds
        rw [chain_connective ht (condition_eq_ok_iff.2 ⟨front, clause, rfl, hfront, rfl⟩)]
        exact ih hrest

/-- A row of tokens is a rule exactly when it is that of a phrase. -/
theorem parseTokens_eq_ok_iff {n : Nat} {ts : List Token} {e : Expr} :
    parseTokens n ts = .ok e ↔ ∃ p : Phrase, ts.map Token.kind = p.kinds ∧ e = p.expr := by
  rw [parseTokens, bind_eq_ok_iff]
  constructor
  · rintro ⟨⟨first, rest⟩, hcondition, hchain⟩
    obtain ⟨front, clause, rfl, hfront, rfl⟩ := condition_eq_ok_iff.1 hcondition
    obtain ⟨further, hkinds, rfl⟩ := chain_eq_ok_iff.1 hchain
    refine ⟨⟨clause, further⟩, ?_, rfl⟩
    rw [List.map_append, hfront, hkinds]
    rfl
  · rintro ⟨⟨clause, further⟩, hkinds, rfl⟩
    obtain ⟨front, rest, rfl, hfront, hrest⟩ := List.map_eq_append_iff.1 hkinds
    exact ⟨_, condition_eq_ok_iff.2 ⟨front, clause, rfl, hfront, rfl⟩,
      chain_eq_ok_iff.2 ⟨further, hrest, rfl⟩⟩

theorem parse_eq_of_tokenize {rule : String} {ts : List Token}
    (h : tokenize 0 rule.toList = .ok ts) :
    parse rule = parseTokens rule.utf8ByteSize ts := by
  rw [parse, h]
  rfl

theorem parse_eq_error_of_tokenize {rule : String} {e : ParseError}
    (h : tokenize 0 rule.toList = .error e) : parse rule = .error e := by
  rw [parse, h]
  rfl

/-- A text is read only if it is cut into tokens, as what these are read as. -/
theorem exists_tokens_of_parse {rule : String} {e : Expr} (h : parse rule = .ok e) :
    ∃ ts, tokenize 0 rule.toList = .ok ts ∧ parseTokens rule.utf8ByteSize ts = .ok e :=
  bind_eq_ok_iff.1 h

/-- A text is refused where it is not cut into tokens, or where these are refused. -/
theorem refused_of_parse {rule : String} {e : ParseError} (h : parse rule = .error e) :
    tokenize 0 rule.toList = .error e ∨
      ∃ ts, tokenize 0 rule.toList = .ok ts ∧ parseTokens rule.utf8ByteSize ts = .error e :=
  bind_eq_error_iff.1 h

/-- A text that is read as an expression is cut into the tokens of a phrase. -/
theorem exists_phrase_of_parse {rule : String} {e : Expr} (h : parse rule = .ok e) :
    ∃ (ts : List Token) (p : Phrase),
      Cut 0 rule.toList ts ∧ ts.map Token.kind = p.kinds ∧ e = p.expr := by
  obtain ⟨ts, htokens, hphrase⟩ := exists_tokens_of_parse h
  obtain ⟨p, hkinds, rfl⟩ := parseTokens_eq_ok_iff.1 hphrase
  exact ⟨ts, p, tokenize_eq_ok_iff.1 htokens, hkinds, rfl⟩

/-- A text that is cut into the tokens of a phrase is read as its expression. -/
theorem parse_eq_ok_of_cut {rule : String} {ts : List Token} {p : Phrase}
    (hcut : Cut 0 rule.toList ts) (hkinds : ts.map Token.kind = p.kinds) :
    parse rule = .ok p.expr := by
  rw [parse_eq_of_tokenize (tokenize_eq_ok_iff.2 hcut), parseTokens_eq_ok_iff]
  exact ⟨p, hkinds, rfl⟩

/-- **The reader of rules accepts exactly the grammar.**  A text is a rule exactly when it is cut into
the tokens of a phrase; its expression joins the conditions of the phrase from left to right. -/
theorem parse_eq_ok_iff {rule : String} {e : Expr} :
    parse rule = .ok e ↔
      ∃ (ts : List Token) (p : Phrase),
        Cut 0 rule.toList ts ∧ ts.map Token.kind = p.kinds ∧ e = p.expr := by
  constructor
  · exact exists_phrase_of_parse
  · rintro ⟨ts, p, hcut, hkinds, rfl⟩
    exact parse_eq_ok_of_cut hcut hkinds

end Rulebook
