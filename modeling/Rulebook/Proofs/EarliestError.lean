/-
**Rules are refused at the first token that none goes on with.**

What may follow the tokens of a rule depends on one thing only: whether an operand, a relation, a value or
a connective is awaited.  A row of tokens is a rule exactly when each token is what is awaited at its
place and a connective could follow the last one.  Whatever is awaited, some tokens lead to the end of a
rule.  So the first token that is not awaited is the first that no rule goes on with, and it is the one
that the reader tells; where every token is awaited, the row has only ended too early.

Main definitions:

* `Rulebook.IsRule`, `Rulebook.GoesOn` — a row of tokens that is a rule, or the beginning of one;
* `Rulebook.Awaited`, `Rulebook.awaitedAfter?` — what is awaited after a row of tokens;
* `Rulebook.Refused` — a row of tokens with the token that is not awaited, or with an end that is not.

Main results:

* `Rulebook.refused_of_parseTokens` — the reader tells where a row of tokens is refused;
* `Rulebook.isRule_iff_awaited`, `Rulebook.goesOn_iff` — rules and their beginnings by what is awaited;
* `Rulebook.parse_error_is_earliest` — **the error of a rule is at the first possible token**.
-/

import Rulebook.Proofs.Concatenation
import Rulebook.Proofs.Placement

set_option autoImplicit false

namespace Rulebook

open String (utf8Len_toList)

/-! ### Rules and their beginnings -/

/-- A row of tokens that is read as a rule.  Where its text ends matters for errors alone. -/
def IsRule (ts : List Token) : Prop := ∃ n e, parseTokens n ts = .ok e

/-- A row of tokens that some rule starts with and goes on from. -/
def GoesOn (ts : List Token) : Prop := ∃ t more, IsRule (ts ++ t :: more)

/-! ### What is awaited -/

/-- What may come next in a rule. -/
inductive Awaited where
  | operand
  | relation
  | value
  | connective
  deriving DecidableEq

/-- What is awaited after a token, if it is one that was awaited. -/
def Awaited.after? : Awaited → Token.Kind → Option Awaited
  | operand, k => k.operand?.map fun _ => relation
  | relation, k => k.relation?.map fun _ => value
  | value, k => k.value?.map fun _ => connective
  | connective, k => k.connective?.map fun _ => operand

/-- What is awaited after tokens of the given kinds, if each of them was awaited at its place. -/
def awaitedAfter? : Awaited → List Token.Kind → Option Awaited
  | a, [] => some a
  | a, k :: ks => (a.after? k).bind fun b => awaitedAfter? b ks

theorem awaitedAfter?_append (a : Awaited) (ks ls : List Token.Kind) :
    awaitedAfter? a (ks ++ ls) = (awaitedAfter? a ks).bind fun b => awaitedAfter? b ls := by
  induction ks generalizing a with
  | nil => rfl
  | cons k ks ih =>
      rw [List.cons_append, awaitedAfter?, awaitedAfter?, Option.bind_assoc]
      exact congrArg _ (funext ih)

/-- Whatever is awaited, some tokens lead to the end of a rule. -/
theorem exists_awaitedAfter? (a : Awaited) :
    ∃ (t : Token) (more : List Token),
      awaitedAfter? a ((t :: more).map Token.kind) = some .connective := by
  cases a with
  | operand => exact ⟨⟨.word "x", 0, "x"⟩, [⟨.relation .eq, 2, "=="⟩, ⟨.word "y", 5, "y"⟩], rfl⟩
  | relation => exact ⟨⟨.relation .eq, 0, "=="⟩, [⟨.word "y", 3, "y"⟩], rfl⟩
  | value => exact ⟨⟨.word "y", 0, "y"⟩, [], rfl⟩
  | connective =>
      exact ⟨⟨.connective .and, 0, "&&"⟩,
        [⟨.word "x", 3, "x"⟩, ⟨.relation .eq, 5, "=="⟩, ⟨.word "y", 8, "y"⟩], rfl⟩

theorem awaitedAfter?_clause (c : Clause) : awaitedAfter? .operand c.kinds = some .connective := by
  obtain ⟨left, r, right⟩ := c
  cases left <;> cases right <;> rfl

theorem awaitedAfter?_furtherKinds (further : List (Connective × Clause)) :
    awaitedAfter? .connective (furtherKinds further) = some .connective := by
  induction further with
  | nil => rfl
  | cons p further ih =>
      obtain ⟨c, clause⟩ := p
      rw [furtherKinds_cons, awaitedAfter?]
      show awaitedAfter? .operand (clause.kinds ++ furtherKinds further) = _
      rw [awaitedAfter?_append, awaitedAfter?_clause]
      exact ih

/-- After the tokens of a rule a connective is awaited. -/
theorem awaitedAfter?_phrase (p : Phrase) : awaitedAfter? .operand p.kinds = some .connective := by
  rw [Phrase.kinds, awaitedAfter?_append, awaitedAfter?_clause]
  exact awaitedAfter?_furtherKinds p.further

/-! ### Where a row of tokens is refused -/

/-- A row of tokens is refused with an error of the reader: at a token that is not awaited, or at the end
while something else than a connective is awaited.  `n` is where the text ends. -/
inductive Refused (n : Nat) (a : Awaited) (ts : List Token) (e : ParseError) : Prop
  | token {before after : List Token} {t : Token} {b : Awaited} (hts : ts = before ++ t :: after)
      (hbefore : awaitedAfter? a (before.map Token.kind) = some b) (ht : b.after? t.kind = none)
      (hposition : e.position = t.position) (htext : e.token = t.text)
  | ending {b : Awaited} (hts : awaitedAfter? a (ts.map Token.kind) = some b)
      (hb : b ≠ .connective) (hposition : e.position = n) (htext : e.token = "")

/-- A row of tokens is refused where what follows its first tokens is. -/
theorem Refused.append {n : Nat} {a b : Awaited} {front ts : List Token} {e : ParseError}
    (hfront : awaitedAfter? a (front.map Token.kind) = some b) (h : Refused n b ts e) :
    Refused n a (front ++ ts) e := by
  have happend (us : List Token) : awaitedAfter? a ((front ++ us).map Token.kind) =
      awaitedAfter? b (us.map Token.kind) := by
    rw [List.map_append, awaitedAfter?_append, hfront]
    rfl
  cases h with
  | token hts hbefore ht hposition htext =>
      rw [← happend] at hbefore
      exact .token (by rw [hts, List.append_assoc]) hbefore ht hposition htext
  | ending hts hb hposition htext =>
      rw [← happend] at hts
      exact .ending hts hb hposition htext

section Expected

variable {α β : Type} {n : Nat} {pick? : Token.Kind → Option α} {wrong missing : ParseError.Reason}
  {ts : List Token} {e : ParseError} {a b : Awaited}

/-- One token that is expected and what is read after it: the row is refused at that token if it is not
what is awaited, and else where the rest is. -/
theorem refused_of_expect_bind {f : α × List Token → Except ParseError β}
    (ha : ∀ k, a.after? k = (pick? k).map fun _ => b) (hne : a ≠ .connective)
    (hf : ∀ x rest, f (x, rest) = .error e → Refused n b rest e)
    (h : (expect n pick? wrong missing ts).bind f = .error e) : Refused n a ts e := by
  cases ts with
  | nil => cases h; exact .ending rfl hne rfl rfl
  | cons t ts =>
      simp only [expect] at h
      cases hpick : pick? t.kind with
      | some x =>
          rw [hpick] at h
          have ht : awaitedAfter? a ([t].map Token.kind) = some b := by
            simp [awaitedAfter?, ha, hpick]
          exact (hf x ts h).append ht
      | none =>
          rw [hpick] at h
          cases h
          have ht : a.after? t.kind = none := by rw [ha, hpick]; rfl
          exact .token (List.nil_append _).symm rfl ht rfl rfl

end Expected

/-- A condition is refused at the first of its tokens that is not awaited. -/
theorem refused_of_condition {n : Nat} {missing : ParseError.Reason} {ts : List Token}
    {e : ParseError} (h : condition n missing ts = .error e) : Refused n .operand ts e := by
  rw [condition_eq] at h
  refine refused_of_expect_bind (b := .relation) (fun _ => rfl) (by decide) (fun left ts h => ?_) h
  refine refused_of_expect_bind (b := .value) (fun _ => rfl) (by decide) (fun r ts h => ?_) h
  refine refused_of_expect_bind (b := .connective) (fun _ => rfl) (by decide) (fun right ts h => ?_) h
  cases h

/-- What follows a condition is refused where its own rest is. -/
theorem refused_after_condition {n : Nat} {missing : ParseError.Reason} {ts rest : List Token}
    {left : Expr} {e : ParseError} (h : condition n missing ts = .ok (left, rest))
    (hrest : Refused n .connective rest e) : Refused n .operand ts e := by
  obtain ⟨front, clause, rfl, hfront, -⟩ := condition_eq_ok_iff.1 h
  refine hrest.append ?_
  rw [hfront]
  exact awaitedAfter?_clause clause

/-- Further conditions are refused at the first token that is not awaited. -/
theorem refused_of_chain {n : Nat} {left : Expr} {ts : List Token} {e : ParseError}
    (h : chain n left ts = .error e) : Refused n .connective ts e := by
  have hcons {t : Token} {c : Connective} (ht : t.kind.connective? = some c) {ts : List Token}
      (h : Refused n .operand ts e) : Refused n .connective (t :: ts) e := by
    have hfront : awaitedAfter? .connective ([t].map Token.kind) = some .operand := by
      simp [awaitedAfter?, Awaited.after?, ht]
    exact h.append hfront
  fun_induction chain n left ts with
  | case1 => cases h
  | case2 left t ts hnone =>
      cases h
      have ht : Awaited.connective.after? t.kind = none := by simp [Awaited.after?, hnone]
      exact .token (List.nil_append _).symm rfl ht rfl rfl
  | case3 left t ts c hc error hcondition =>
      cases h
      exact hcons hc (refused_of_condition hcondition)
  | case4 left t ts c hc right rest hcondition _ ih =>
      exact hcons hc (refused_after_condition hcondition (ih h))

/-- **The reader tells where a row of tokens is refused.** -/
theorem refused_of_parseTokens {n : Nat} {ts : List Token} {e : ParseError}
    (h : parseTokens n ts = .error e) : Refused n .operand ts e := by
  obtain hcondition | ⟨⟨left, rest⟩, hcondition, hchain⟩ := bind_eq_error_iff.1 h
  · exact refused_of_condition hcondition
  · exact refused_after_condition hcondition (refused_of_chain hchain)

/-! ### Rules by what is awaited -/

theorem Refused.awaitedAfter?_ne {n : Nat} {a : Awaited} {ts : List Token} {e : ParseError}
    (h : Refused n a ts e) : awaitedAfter? a (ts.map Token.kind) ≠ some .connective := by
  intro hts
  cases h with
  | token hsplit hbefore ht =>
      rw [hsplit, List.map_append, awaitedAfter?_append, hbefore, List.map_cons, Option.bind_some,
        awaitedAfter?, ht] at hts
      cases hts
  | ending hend hb =>
      rw [hend] at hts
      exact hb (Option.some_inj.1 hts)

/-- A row of tokens is a rule exactly when a connective is awaited after it. -/
theorem isRule_iff_awaited {ts : List Token} :
    IsRule ts ↔ awaitedAfter? .operand (ts.map Token.kind) = some .connective := by
  constructor
  · rintro ⟨n, e, h⟩
    obtain ⟨p, hkinds, -⟩ := parseTokens_eq_ok_iff.1 h
    rw [hkinds]
    exact awaitedAfter?_phrase p
  · intro h
    cases hparse : parseTokens 0 ts with
    | error e => exact absurd h (refused_of_parseTokens hparse).awaitedAfter?_ne
    | ok e => exact ⟨0, e, hparse⟩

/-- A row of tokens is the beginning of a rule exactly when each of them is awaited. -/
theorem goesOn_iff {ts : List Token} :
    GoesOn ts ↔ ∃ a, awaitedAfter? .operand (ts.map Token.kind) = some a := by
  constructor
  · rintro ⟨t, more, h⟩
    rw [isRule_iff_awaited, List.map_append, awaitedAfter?_append] at h
    obtain ⟨a, ha, -⟩ := Option.bind_eq_some_iff.1 h
    exact ⟨a, ha⟩
  · rintro ⟨a, ha⟩
    obtain ⟨t, more, hmore⟩ := exists_awaitedAfter? a
    refine ⟨t, more, isRule_iff_awaited.2 ?_⟩
    rw [List.map_append, awaitedAfter?_append, ha]
    exact hmore

/-- No rule starts with a token that is not awaited. -/
theorem not_isRule_of_refused {before : List Token} {t : Token} {a : Awaited}
    (hbefore : awaitedAfter? .operand (before.map Token.kind) = some a)
    (ht : a.after? t.kind = none) (more : List Token) : ¬IsRule (before ++ t :: more) := by
  rw [isRule_iff_awaited]
  have h : Refused 0 .operand (before ++ t :: more) ⟨t.position, t.text, .expectedOperand⟩ :=
    .token rfl hbefore ht rfl rfl
  exact h.awaitedAfter?_ne

/-! ### Rule texts -/

/-- **The error of a rule is at the first possible token.**  A text that is no row of tokens is refused
for that, whatever conditions it holds.  Let it be a row of tokens, and refused.  If the error is at one
of them, some rule goes on from the tokens before, and none from that token.  If it is at the end, the row
is no rule, and only because it ends: some rule goes on from it.  One of the two is the case. -/
theorem parse_error_is_earliest (rule : String) :
    (∀ error, tokenize 0 rule.toList = .error error → parse rule = .error error) ∧
      ∀ ts error, tokenize 0 rule.toList = .ok ts → parse rule = .error error →
        (∀ before t after, ts = before ++ t :: after → t.position = error.position →
          error.token = t.text ∧ GoesOn before ∧ ∀ more, ¬IsRule (before ++ t :: more)) ∧
        (error.position = rule.utf8ByteSize → error.token = "" ∧ ¬IsRule ts ∧ GoesOn ts) ∧
        ((∃ t ∈ ts, t.position = error.position) ∨ error.position = rule.utf8ByteSize) := by
  refine ⟨fun error h => parse_eq_error_of_tokenize h, fun ts error htokens h => ?_⟩
  have hcut : Cut 0 rule.toList ts := cut_of_tokenize htokens
  have hbound {t : Token} (ht : t ∈ ts) : t.position < rule.utf8ByteSize := by
    obtain ⟨hstands, hne⟩ := hcut.stands t ht
    have hend := hstands.lt_end hne
    rwa [utf8Len_toList, Nat.zero_add] at hend
  rw [parse_eq_of_tokenize htokens] at h
  have hrefused : Refused rule.utf8ByteSize .operand ts error := refused_of_parseTokens h
  cases hrefused with
  | @token before after t a hts hbefore ht hposition htext =>
      subst hts
      have hmem : t ∈ before ++ t :: after := List.mem_append_right _ List.mem_cons_self
      refine ⟨fun before' t' after' hsplit hplace => ?_, fun hend => ?_, .inl ⟨t, hmem, hposition.symm⟩⟩
      · obtain ⟨rfl, rfl⟩ := hcut.split_eq hsplit (hposition.symm.trans hplace.symm)
        exact ⟨htext, goesOn_iff.2 ⟨a, hbefore⟩, not_isRule_of_refused hbefore ht⟩
      · exact absurd (hposition.symm.trans hend) (Nat.ne_of_lt (hbound hmem))
  | @ending a hts ha hposition htext =>
      refine ⟨fun before t after hsplit hplace => ?_, fun _ => ⟨htext, ?_, ?_⟩, .inr hposition⟩
      · have hmem : t ∈ ts := hsplit ▸ List.mem_append_right _ List.mem_cons_self
        exact absurd (hplace.trans hposition) (Nat.ne_of_lt (hbound hmem))
      · rw [isRule_iff_awaited, hts]
        exact fun hconnective => ha (Option.some_inj.1 hconnective)
      · exact goesOn_iff.2 ⟨a, hts⟩

/-- A word too many, a rule that only ends too early, and a bracket after a condition that is none. -/
theorem parse_second_word_is_too_much :
    (∃ before t after, tokenize 0 "team == ops city".toList = .ok (before ++ t :: after) ∧
      parse "team == ops city" = .error ⟨12, "city", .expectedConnective⟩ ∧
      t.position = 12 ∧ t.text = "city" ∧ GoesOn before ∧ ∀ more, ¬IsRule (before ++ t :: more)) ∧
    (∃ ts, tokenize 0 "team ==".toList = .ok ts ∧
      parse "team ==" = .error ⟨7, "", .missingValue⟩ ∧ ¬IsRule ts ∧ GoesOn ts) ∧
    parse "== == (" = .error ⟨6, "(", .grouping⟩ := by
  obtain ⟨ts, hts⟩ : ∃ ts, tokenize 0 "team == ops city".toList = .ok ts :=
    exists_ok_of_isSome (by decide +kernel)
  obtain ⟨us, hus⟩ : ∃ us, tokenize 0 "team ==".toList = .ok us :=
    exists_ok_of_isSome (by decide +kernel)
  have hends : ¬(12 = "team == ops city".utf8ByteSize) ∧ 7 = "team ==".utf8ByteSize := by
    decide +kernel
  refine ⟨?_, ?_, ?_⟩
  · have herror : parse "team == ops city" = .error ⟨12, "city", .expectedConnective⟩ :=
      eq_error_of_match (by decide +kernel)
    obtain ⟨hat, -, ⟨t, ht, hposition⟩ | hend⟩ := (parse_error_is_earliest _).2 ts _ hts herror
    · obtain ⟨before, after, rfl⟩ := List.append_of_mem ht
      obtain ⟨htext, hgoes, hnone⟩ := hat before t after rfl hposition
      exact ⟨before, t, after, hts, herror, hposition, htext.symm, hgoes, hnone⟩
    · exact absurd hend hends.1
  · have herror : parse "team ==" = .error ⟨7, "", .missingValue⟩ :=
      eq_error_of_match (by decide +kernel)
    obtain ⟨-, hending, -⟩ := (parse_error_is_earliest _).2 us _ hus herror
    exact ⟨us, hus, herror, (hending hends.2).2⟩
  · exact (parse_error_is_earliest _).1 _ (eq_error_of_match (by decide +kernel))

end Rulebook
