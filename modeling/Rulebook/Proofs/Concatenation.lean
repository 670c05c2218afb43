/-
**Rules joined as texts.**

Two rules with a connective between them make up one text.  Reading it puts the first expression before
the second: as joining goes from left to right, it comes to stand at the foot of the second one's left
side.  What is wrong with the second text is wrong with the whole, at its place there.

This needs that reading does not depend on what was read before.  The tokens of a text are the same at
any place, and so are the conditions of a row of tokens; an error tells the same piece of the text, at a
place that is moved along.

Main definitions:

* `Rulebook.Expr.graft` — an expression put before the conditions of another;
* `Rulebook.Token.moved`, `Rulebook.ParseError.moved` — what is found at a later place;
* `Rulebook.ParseError.Reason.isLexical` — why a text is no row of tokens;
* `Rulebook.ParseError.Reason.afterConnective` — what is wrong with a text that follows a connective.

Main results:

* `Rulebook.tokenize_add` — a text has the same tokens at any place;
* `Rulebook.condition_add`, `Rulebook.chain_graft` — conditions are read alike at any place, and after
  any others;
* `Rulebook.parse_append_connective` — **reading a rule after a connective**;
* `Rulebook.parse_joined_rules` — **joining texts joins what they are read as**.
-/

import Rulebook.Proofs.Fallible
import Rulebook.Proofs.Grammar

set_option autoImplicit false

namespace Rulebook

open String (utf8ByteSize_ofList utf8Len utf8Len_toList)

/-! ### Later places -/

/-- A token that stands `m` bytes later. -/
def Token.moved (m : Nat) (t : Token) : Token := { t with position := m + t.position }

/-- An error that is found `m` bytes later. -/
def ParseError.moved (m : Nat) (e : ParseError) : ParseError := { e with position := m + e.position }

/-- What is found in a text that starts `m` bytes later. -/
def movedTokens (m : Nat) (r : Except ParseError (List Token)) : Except ParseError (List Token) :=
  (r.map (List.map (Token.moved m))).mapError (ParseError.moved m)

@[simp] theorem Token.kind_moved (m : Nat) (t : Token) : (t.moved m).kind = t.kind := rfl

theorem scanRun_add (m n : Nat) (p : Char → Bool)
    (judge : List Char → Except ParseError.Reason Token.Kind) (cs : List Char) :
    scanRun (m + n) p judge cs = (scanRun n p judge cs).mapError (ParseError.moved m) := by
  simp only [scanRun]
  cases judge (cs.takeWhile p) <;> rfl

/-- A lexeme is the same at any place. -/
theorem scanLexeme_add (m n : Nat) (c : Char) (cs : List Char) :
    scanLexeme (m + n) c cs = (scanLexeme n c cs).mapError (ParseError.moved m) := by
  simp only [scanLexeme, scanRun_add]
  split
  · cases scanQuoted c cs with
    | ok r => rfl
    | error e =>
        cases e with
        | unclosed => rfl
        | unknownEscape offset e =>
            have hplace : m + n + c.utf8Size + offset = m + (n + c.utf8Size + offset) := by omega
            simp only [hplace]
            rfl
  -- the runs are moved already, and what starts no lexeme is told at its own place
  · repeat' split
    all_goals rfl

/-- **A text has the same tokens at any place.** -/
theorem tokenize_add (m n : Nat) (cs : List Char) :
    tokenize (m + n) cs = movedTokens m (tokenize n cs) := by
  fun_induction tokenize n cs with
  | case1 n => exact tokenize_nil (m + n)
  | case2 n c cs hblank ih => rw [tokenize_blank hblank, Nat.add_assoc, ih]
  | case3 n c cs hblank e hscan =>
      have hlater := scanLexeme_add m n c cs
      rw [hscan] at hlater
      exact tokenize_of_scanLexeme_error (eq_false_of_ne_true hblank) hlater
  | case4 n c cs hblank l hscan _ e hrest ih =>
      have hlater := scanLexeme_add m n c cs
      rw [hscan] at hlater
      rw [tokenize_of_scanLexeme (eq_false_of_ne_true hblank) hlater, ← utf8ByteSize_ofList,
        Nat.add_assoc, ih, hrest]
      rfl
  | case5 n c cs hblank l hscan _ ts hrest ih =>
      have hlater := scanLexeme_add m n c cs
      rw [hscan] at hlater
      rw [tokenize_of_scanLexeme (eq_false_of_ne_true hblank) hlater, ← utf8ByteSize_ofList,
        Nat.add_assoc, ih, hrest]
      rfl

/-! ### Reasons -/

namespace ParseError.Reason

/-- Whether a reason is one for a text not to be a row of tokens. -/
def isLexical : ParseError.Reason → Bool
  | grouping | unknownCharacter | invalidNumber | numberOutOfRange | unclosedString | unknownEscape
  | unknownRelation | unknownConnective => true
  | _ => false

/-- What is wrong with a text that follows a connective: where there is nothing at all, the connective
dangles. -/
def afterConnective : ParseError.Reason → ParseError.Reason
  | emptyRule => danglingConnective
  | reason => reason

theorem afterConnective_ne (reason : ParseError.Reason) : reason.afterConnective ≠ emptyRule := by
  cases reason <;> decide

theorem afterConnective_of_ne {reason : ParseError.Reason} (h : reason ≠ emptyRule) :
    reason.afterConnective = reason := by
  cases reason <;> first | rfl | exact absurd rfl h

end ParseError.Reason

/-- An error of a text that follows a connective. -/
def ParseError.afterConnective (e : ParseError) : ParseError :=
  { e with reason := e.reason.afterConnective }

theorem ParseError.afterConnective_of_ne {e : ParseError} (h : e.reason ≠ .emptyRule) :
    e.afterConnective = e := by
  rw [ParseError.afterConnective, ParseError.Reason.afterConnective_of_ne h]

theorem isLexical_of_readNumber {cs : List Char} {reason : ParseError.Reason}
    (h : readNumber cs = .error reason) : reason.isLexical = true := by
  unfold readNumber at h
  split at h
  · split at h
    · split at h <;> cases h
      rfl
    · cases h; rfl
  · cases h; rfl

theorem isLexical_of_scanRun {n : Nat} {p : Char → Bool}
    {judge : List Char → Except ParseError.Reason Token.Kind}
    (hjudge : ∀ text reason, judge text = .error reason → reason.isLexical = true) {cs : List Char}
    {e : ParseError} (h : scanRun n p judge cs = .error e) : e.reason.isLexical = true := by
  simp only [scanRun] at h
  split at h
  · cases h
  · next reason hreason =>
      cases h
      exact hjudge _ reason hreason

theorem isLexical_of_scanLexeme {n : Nat} {c : Char} {cs : List Char} {e : ParseError}
    (h : scanLexeme n c cs = .error e) : e.reason.isLexical = true := by
  unfold scanLexeme at h
  split at h
  · split at h <;> cases h <;> rfl
  · split at h
    · refine isLexical_of_scanRun (fun text reason hreason => ?_) h
      cases hnumber : readNumber text with
      | ok x => rw [hnumber] at hreason; cases hreason
      | error reason' =>
          rw [hnumber] at hreason
          cases hreason
          exact isLexical_of_readNumber hnumber
    · split at h
      · refine isLexical_of_scanRun (fun text reason hreason => ?_) h
        split at hreason <;> cases hreason
        rfl
      · split at h
        · refine isLexical_of_scanRun (fun text reason hreason => ?_) h
          split at hreason <;> cases hreason
          rfl
        · split at h
          · cases h; rfl
          · split at h
            · refine isLexical_of_scanRun (fun text reason hreason => ?_) h
              cases hreason
            · cases h; rfl

/-- A text that is no row of tokens is none for a reason of its own. -/
theorem isLexical_of_tokenize {n : Nat} {cs : List Char} {e : ParseError}
    (h : tokenize n cs = .error e) : e.reason.isLexical = true := by
  fun_induction tokenize n cs with
  | case1 => cases h
  | case2 n c cs hblank ih => exact ih h
  | case3 n c cs hblank e' hscan =>
      cases h
      exact isLexical_of_scanLexeme hscan
  | case4 n c cs hblank l hscan _ e' hrest ih =>
      cases h
      exact ih hrest
  | case5 => cases h

/-! ### Conditions at later places -/

/-- A condition is taken off a row of tokens one token after another. -/
theorem condition_eq (n : Nat) (missing : ParseError.Reason) (ts : List Token) :
    condition n missing ts =
      (expect n Token.Kind.operand? .expectedOperand missing ts).bind fun left =>
        (expect n Token.Kind.relation? .expectedRelation .missingRelation left.2).bind fun r =>
          (expect n Token.Kind.value? .expectedValue .missingValue r.2).bind fun right =>
            .ok (.comparison r.1 left.1 (.literal right.1), right.2) := rfl

theorem chain_other {n : Nat} {e : Expr} {t : Token} {ts : List Token}
    (h : t.kind.connective? = none) :
    chain n e (t :: ts) = .error ⟨t.position, t.text, .expectedConnective⟩ := by
  rw [chain]
  split
  · rfl
  · next hsome => rw [h] at hsome; cases hsome

section Rows

variable {α : Type} (m n : Nat)

/-- What is taken off a row of tokens that stand `m` bytes later. -/
def movedPart (r : Except ParseError (α × List Token)) : Except ParseError (α × List Token) :=
  (r.map fun x => (x.1, x.2.map (Token.moved m))).mapError (ParseError.moved m)

theorem expect_add (pick? : Token.Kind → Option α) (wrong missing : ParseError.Reason)
    (ts : List Token) :
    expect (m + n) pick? wrong missing (ts.map (Token.moved m)) =
      movedPart m (expect n pick? wrong missing ts) := by
  cases ts with
  | nil => rfl
  | cons t ts =>
      simp only [List.map_cons, expect, Token.kind_moved]
      cases pick? t.kind <;> rfl

theorem movedPart_bind {β : Type} {x : Except ParseError (α × List Token)}
    {f f' : α × List Token → Except ParseError (β × List Token)}
    (h : ∀ r, f' (r.1, r.2.map (Token.moved m)) = movedPart m (f r)) :
    (movedPart m x).bind f' = movedPart m (x.bind f) := by
  cases x with
  | error e => rfl
  | ok r => exact h r

/-- A condition is the same at any place. -/
theorem condition_add (missing : ParseError.Reason) (ts : List Token) :
    condition (m + n) missing (ts.map (Token.moved m)) = movedPart m (condition n missing ts) := by
  rw [condition_eq, condition_eq, expect_add]
  refine movedPart_bind m fun left => ?_
  rw [expect_add]
  refine movedPart_bind m fun r => ?_
  rw [expect_add]
  exact movedPart_bind m fun right => rfl

/-- What follows the conditions of a rule is joined at the same places, further on. -/
theorem chain_add (e : Expr) (ts : List Token) :
    chain (m + n) e (ts.map (Token.moved m)) = (chain n e ts).mapError (ParseError.moved m) := by
  fun_induction chain n e ts with
  | case1 e => exact chain_nil (m + n) e
  | case2 e t ts hnone => exact chain_other hnone
  | case3 e t ts c hc error hcondition =>
      have hlater := condition_add m n .danglingConnective ts
      rw [hcondition] at hlater
      rw [List.map_cons, chain_of_connective? (t := t.moved m) hc, hlater]
      rfl
  | case4 e t ts c hc right rest hcondition _ ih =>
      have hlater := condition_add m n .danglingConnective ts
      rw [hcondition] at hlater
      rw [List.map_cons, chain_of_connective? (t := t.moved m) hc, hlater]
      exact ih

end Rows

/-- Rules are read alike at any place. -/
theorem parseTokens_add (m n : Nat) (ts : List Token) :
    parseTokens (m + n) (ts.map (Token.moved m)) =
      (parseTokens n ts).mapError (ParseError.moved m) := by
  rw [parseTokens, parseTokens, condition_add]
  cases condition n .emptyRule ts with
  | error e => rfl
  | ok r => exact chain_add m n r.1 r.2

/-- What follows further conditions is joined after them. -/
theorem chain_append {further : List (Connective × Clause)} {ts : List Token}
    (h : ts.map Token.kind = furtherKinds further) (m : Nat) (e : Expr) (rest : List Token) :
    chain m e (ts ++ rest) = chain m (joinFurther e further) rest := by
  induction further generalizing e ts with
  | nil =>
      obtain rfl := List.map_eq_nil_iff.1 h
      rfl
  | cons p further ih =>
      obtain ⟨c, clause⟩ := p
      rw [furtherKinds_cons] at h
      obtain ⟨t, ts, rfl, ht, h⟩ := List.map_eq_cons_iff.1 h
      obtain ⟨front, ts, rfl, hfront, hts⟩ := List.map_eq_append_iff.1 h
      rw [List.cons_append, List.append_assoc, chain_connective ht
        (condition_eq_ok_iff.2 ⟨front, clause, rfl, hfront, rfl⟩), ih hts]
      rfl

/-! ### Conditions after a connective -/

namespace Expr

/-- The expression `e` put before the conditions of another, which stand further to the right and are
joined later. -/
def graft (e : Expr) (c : Connective) : Expr → Expr
  | logical d left right => logical d (e.graft c left) right
  | other => logical c e other

end Expr

theorem expect_afterConnective {α : Type} (n : Nat) (pick? : Token.Kind → Option α)
    {wrong : ParseError.Reason} (hwrong : wrong ≠ .emptyRule) (missing : ParseError.Reason)
    (ts : List Token) :
    expect n pick? wrong missing.afterConnective ts =
      (expect n pick? wrong missing ts).mapError ParseError.afterConnective := by
  cases ts with
  | nil => rfl
  | cons t ts =>
      simp only [expect]
      cases pick? t.kind with
      | none => exact congrArg Except.error (ParseError.afterConnective_of_ne hwrong).symm
      | some a => rfl

theorem bind_mapError {ε α β : Type} {g : ε → ε} {x : Except ε α} {f f' : α → Except ε β}
    (h : ∀ a, f' a = (f a).mapError g) : (x.mapError g).bind f' = (x.bind f).mapError g := by
  cases x with
  | error e => rfl
  | ok a => exact h a

/-- A condition is read alike after a connective. -/
theorem condition_afterConnective (n : Nat) (missing : ParseError.Reason) (ts : List Token) :
    condition n missing.afterConnective ts =
      (condition n missing ts).mapError ParseError.afterConnective := by
  -- tokens after the first are missed for the same reasons as ever
  have hrelation := expect_afterConnective n Token.Kind.relation?
    (show ParseError.Reason.expectedRelation ≠ .emptyRule by decide) .missingRelation
  have hvalue := expect_afterConnective n Token.Kind.value?
    (show ParseError.Reason.expectedValue ≠ .emptyRule by decide) .missingValue
  rw [condition_eq, condition_eq, expect_afterConnective n _ (by decide)]
  refine bind_mapError fun left => ?_
  refine (congrArg (Except.bind · _) (hrelation left.2)).trans (bind_mapError fun r => ?_)
  exact (congrArg (Except.bind · _) (hvalue r.2)).trans (bind_mapError fun right => rfl)

/-- Further conditions are read alike after a connective, since one stands before each of them. -/
theorem chain_mapError_afterConnective (n : Nat) (e : Expr) (ts : List Token) :
    (chain n e ts).mapError ParseError.afterConnective = chain n e ts := by
  fun_induction chain n e ts with
  | case1 e => rfl
  | case2 e t ts hnone => rfl
  | case3 e t ts c hc error hcondition =>
      have hafter := condition_afterConnective n .danglingConnective ts
      have hsame : ParseError.Reason.danglingConnective.afterConnective = .danglingConnective := rfl
      rw [hsame, hcondition] at hafter
      exact congrArg Except.error (Except.error.inj hafter).symm
  | case4 e t ts c hc right rest hcondition _ ih => exact ih

/-- **Further conditions are joined after those of any expression that stands before.** -/
theorem chain_graft (n : Nat) (e₁ : Expr) (c : Connective) (e : Expr) (ts : List Token) :
    chain n (e₁.graft c e) ts = (chain n e ts).map (e₁.graft c) := by
  fun_induction chain n e ts with
  | case1 e => exact chain_nil n _
  | case2 e t ts hnone => exact chain_other hnone
  | case3 e t ts d hd error hcondition =>
      rw [chain_of_connective? hd, hcondition]
      rfl
  | case4 e t ts d hd right rest hcondition _ ih =>
      rw [chain_of_connective? hd, hcondition]
      exact ih

/-- A rule after a connective: its expression comes after the one before the connective. -/
theorem chain_connective_parseTokens {t : Token} {c : Connective}
    (ht : t.kind.connective? = some c) (n : Nat) (e₁ : Expr) (ts : List Token) :
    chain n e₁ (t :: ts) =
      ((parseTokens n ts).map (e₁.graft c)).mapError ParseError.afterConnective := by
  have hafter := condition_afterConnective n .emptyRule ts
  have hdangling : ParseError.Reason.emptyRule.afterConnective = .danglingConnective := rfl
  rw [hdangling] at hafter
  rw [chain_of_connective? ht, hafter, parseTokens]
  cases hcondition : condition n .emptyRule ts with
  | error e => rfl
  | ok r =>
      obtain ⟨e, rest⟩ := r
      obtain ⟨_, clause, -, -, rfl⟩ := condition_eq_ok_iff.1 hcondition
      -- a condition by itself is joined where it stands
      have hgraft : e₁.graft c clause.expr = .logical c e₁ clause.expr := rfl
      show chain n (.logical c e₁ clause.expr) rest =
        Except.mapError _ (Except.map _ (chain n clause.expr rest))
      rw [← chain_graft, chain_mapError_afterConnective, hgraft]

/-- What follows the conditions of a rule is joined to its expression. -/
theorem parseTokens_append {n : Nat} {ts : List Token} {e : Expr} (h : parseTokens n ts = .ok e)
    (m : Nat) (rest : List Token) : parseTokens m (ts ++ rest) = chain m e rest := by
  obtain ⟨⟨first, further⟩, hkinds, rfl⟩ := parseTokens_eq_ok_iff.1 h
  obtain ⟨front, ts, rfl, hfront, hts⟩ := List.map_eq_append_iff.1 hkinds
  have hcondition : condition m .emptyRule (front ++ (ts ++ rest)) = .ok (first.expr, ts ++ rest) :=
    condition_eq_ok_iff.2 ⟨front, first, rfl, hfront, rfl⟩
  rw [parseTokens, List.append_assoc, hcondition]
  exact chain_append hts m first.expr rest

/-! ### Texts after a connective -/

/-- The texts of a connective: its symbol, and its keyword in either case. -/
theorem exists_lexical_connective {k : String} {c : Connective}
    (hk : k = c.symbol ∨ IsKeyword k.toList c) :
    ∃ goesOn, Lexical goesOn k.toList (.connective c) := by
  rcases hk with rfl | hk
  · exact ⟨_, .symbol c⟩
  · exact ⟨_, .keyword hk⟩

/-- The tokens of a text after another one and a connective. -/
theorem tokenize_append_connective {cs ks : List Char} {ts : List Token} {goesOn : Char → Bool}
    {c : Connective} (hcs : tokenize 0 cs = .ok ts) (hks : Lexical goesOn ks (.connective c))
    (ds : List Char) :
    tokenize 0 (cs ++ ' ' :: (ks ++ ' ' :: ds)) =
      (movedTokens (utf8Len cs + 1 + utf8Len ks + 1) (tokenize 0 ds)).map
        (ts ++ ⟨.connective c, utf8Len cs + 1, String.ofList ks⟩ :: ·) := by
  have hspace : isBlank ' ' = true := by decide
  have hsize : ' '.utf8Size = 1 := by decide
  obtain ⟨d, rest, rfl, hblank⟩ := hks.exists_cons
  have hscan : scanLexeme (utf8Len cs + 1) d (rest ++ ' ' :: ds) =
      .ok ⟨.connective c, d :: rest, ' ' :: ds⟩ :=
    hks.scanLexeme_eq (stops_cons.2 (hks.goesOn_of_isBlank hspace)) _
  have hlater := tokenize_add (utf8Len cs + 1 + utf8Len (d :: rest) + 1) 0 ds
  rw [Nat.add_zero] at hlater
  rw [(cut_of_tokenize hcs).tokenize_append (separates_of_isBlank hspace _), tokenize_blank hspace,
    hsize, Nat.zero_add, List.cons_append, tokenize_of_scanLexeme hblank hscan]
  dsimp only
  rw [tokenize_blank hspace, hsize, hlater]
  cases tokenize 0 ds <;> rfl

/-- **Reading a rule after a connective** gives what reading it by itself gives: its expression after the
one before the connective, or its error, at its place in the whole. -/
theorem parse_append_connective {rule k : String} {e₁ : Expr} {c : Connective}
    (hrule : parse rule = .ok e₁) (hk : k = c.symbol ∨ IsKeyword k.toList c) (more : String) :
    parse (rule ++ " " ++ k ++ " " ++ more) =
      ((parse more).map (e₁.graft c)).mapError fun e =>
        e.afterConnective.moved (rule ++ " " ++ k ++ " ").utf8ByteSize := by
  obtain ⟨goesOn, hlexical⟩ := exists_lexical_connective hk
  have htext : (rule ++ " " ++ k ++ " " ++ more).toList =
      rule.toList ++ ' ' :: (k.toList ++ ' ' :: more.toList) := by
    simp [String.toList_append]
  have hsize : (rule ++ " " ++ k ++ " ").utf8ByteSize =
      utf8Len rule.toList + 1 + utf8Len k.toList + 1 := by
    simp only [String.utf8ByteSize_append, utf8Len_toList]
    rfl
  have hlength : (rule ++ " " ++ k ++ " " ++ more).utf8ByteSize =
      (rule ++ " " ++ k ++ " ").utf8ByteSize + more.utf8ByteSize := String.utf8ByteSize_append
  obtain ⟨ts, htokens, hphrase⟩ := exists_tokens_of_parse hrule
  have hwhole := tokenize_append_connective htokens hlexical more.toList
  rw [← htext, ← hsize] at hwhole
  cases hmore : tokenize 0 more.toList with
  | error error =>
      rw [hmore] at hwhole
      have hlexical := isLexical_of_tokenize hmore
      have hne : error.reason ≠ .emptyRule := by
        intro hreason
        rw [hreason] at hlexical
        cases hlexical
      rw [parse_eq_error_of_tokenize hwhole, parse_eq_error_of_tokenize hmore]
      exact congrArg (fun e => Except.error (ParseError.moved _ e))
        (ParseError.afterConnective_of_ne hne).symm
  | ok ts' =>
      rw [hmore] at hwhole
      rw [parse_eq_of_tokenize hwhole, parse_eq_of_tokenize hmore, parseTokens_append hphrase,
        chain_connective_parseTokens rfl, hlength, parseTokens_add]
      cases parseTokens more.utf8ByteSize ts' <;> rfl

/-- A rule that is missed is missed for another reason than one that is only begun. -/
theorem parseTokens_cons_mapError_afterConnective (n : Nat) (t : Token) (ts : List Token) :
    (parseTokens n (t :: ts)).mapError ParseError.afterConnective = parseTokens n (t :: ts) := by
  -- with a token at hand, what would be said if there were none does not matter
  have hmissing : condition n ParseError.Reason.emptyRule.afterConnective (t :: ts) =
      condition n .emptyRule (t :: ts) := rfl
  have hafter := condition_afterConnective n .emptyRule (t :: ts)
  rw [hmissing] at hafter
  rw [parseTokens]
  cases hcondition : condition n .emptyRule (t :: ts) with
  | error e =>
      rw [hcondition] at hafter
      exact congrArg Except.error (Except.error.inj hafter).symm
  | ok r => exact chain_mapError_afterConnective n r.1 r.2

/-- A text without tokens is blank. -/
theorem Cut.isBlank_of_nil {n : Nat} {cs : List Char} (h : Cut n cs []) :
    ∀ c ∈ cs, isBlank c = true := by
  cases h with
  | blanks hblanks => exact hblanks

/-- A text is refused as an empty rule exactly if there is nothing in it but blanks. -/
theorem reason_eq_emptyRule_iff {text : String} {error : ParseError}
    (h : parse text = .error error) :
    error.reason = .emptyRule ↔ text.toList.all isBlank = true := by
  rw [List.all_eq_true]
  constructor
  · intro hreason
    obtain htokens | ⟨ts, htokens, hrefused⟩ := refused_of_parse h
    · have hlexical := isLexical_of_tokenize htokens
      rw [hreason] at hlexical
      cases hlexical
    · cases ts with
      | nil => exact (cut_of_tokenize htokens).isBlank_of_nil
      | cons t ts =>
          have hafter := parseTokens_cons_mapError_afterConnective text.utf8ByteSize t ts
          rw [hrefused] at hafter
          have hsame := congrArg ParseError.reason (Except.error.inj hafter)
          exact absurd (hsame.trans hreason) error.reason.afterConnective_ne
  · intro hblanks
    have htokens := tokenize_blanks hblanks 0 []
    rw [List.append_nil, tokenize_nil] at htokens
    rw [parse_eq_of_tokenize htokens] at h
    cases h
    rfl

/-- **Joining texts joins what they are read as.**  Let a rule be followed by a connective, in any of its
texts, and by any text at all.  If that text is a rule, the whole is read as the first expression put
before the conditions of the second.  If it is none, the whole is none either: the error tells the same
piece of the text and the same reason, at a place that is later by the bytes that stand before the text.
Only where nothing but blanks follows, what was an empty rule is a connective that dangles. -/
theorem parse_joined_rules {rule k : String} {e₁ : Expr} {c : Connective}
    (hrule : parse rule = .ok e₁) (hk : k = c.symbol ∨ IsKeyword k.toList c) (more : String) :
    let front := rule ++ " " ++ k ++ " "
    (∀ e₂, parse more = .ok e₂ → parse (front ++ more) = .ok (e₁.graft c e₂)) ∧
      ∀ error, parse more = .error error →
        (error.reason = .emptyRule ↔ more.toList.all isBlank = true) ∧
        parse (front ++ more) = .error ⟨front.utf8ByteSize + error.position, error.token,
          if more.toList.all isBlank then .danglingConnective else error.reason⟩ := by
  intro front
  have hwhole : parse (front ++ more) = _ := parse_append_connective hrule hk more
  constructor
  · intro e₂ hmore
    rw [hwhole, hmore]
    rfl
  · intro error hmore
    have hempty := reason_eq_emptyRule_iff hmore
    refine ⟨hempty, ?_⟩
    rw [hwhole, hmore]
    by_cases hblanks : more.toList.all isBlank = true
    · have hreason : error.reason = .emptyRule := hempty.2 hblanks
      rw [if_pos hblanks]
      show Except.error (ParseError.mk _ _ error.reason.afterConnective) = _
      rw [hreason]
      rfl
    · have hsame := ParseError.afterConnective_of_ne (mt hempty.1 hblanks)
      rw [if_neg hblanks]
      show Except.error (error.afterConnective.moved _) = _
      rw [hsame]
      rfl

/-- A rule of two conditions before one of two, before a piece of one, and before nothing. -/
theorem parse_joined_pairs :
    ∃ e₁ e₂, parse "size >= 10 || team == 'a b'" = .ok e₁ ∧
      parse "level < 3 AND city != é" = .ok e₂ ∧
      parse "size >= 10 || team == 'a b' oR level < 3 AND city != é" = .ok (e₁.graft .or e₂) ∧
      parse "size >= 10 || team == 'a b' oR é < <" = .error ⟨36, "<", .expectedValue⟩ ∧
      parse "size >= 10 || team == 'a b' oR  " = .error ⟨32, "", .danglingConnective⟩ := by
  obtain ⟨e₁, h₁⟩ : ∃ e, parse "size >= 10 || team == 'a b'" = .ok e :=
    exists_ok_of_isSome (by decide +kernel)
  obtain ⟨e₂, h₂⟩ : ∃ e, parse "level < 3 AND city != é" = .ok e :=
    exists_ok_of_isSome (by decide +kernel)
  have hfront : "size >= 10 || team == 'a b'" ++ " " ++ "oR" ++ " " =
      "size >= 10 || team == 'a b' oR " := by decide +kernel
  have hsize : "size >= 10 || team == 'a b' oR ".utf8ByteSize = 31 := by decide +kernel
  have hkeyword : IsKeyword "oR".toList .or := by decide
  have hrule := (parse_joined_rules h₁ (.inr hkeyword) "level < 3 AND city != é").1 e₂ h₂
  have hpiece := ((parse_joined_rules h₁ (.inr hkeyword) "é < <").2 ⟨5, "<", .expectedValue⟩
    (eq_error_of_match (by decide +kernel))).2
  have hnothing := ((parse_joined_rules h₁ (.inr hkeyword) " ").2 ⟨1, "", .emptyRule⟩
    (eq_error_of_match (by decide +kernel))).2
  rw [hfront] at hrule hpiece hnothing
  rw [hsize, if_neg (by decide)] at hpiece
  rw [hsize, if_pos (by decide)] at hnothing
  exact ⟨e₁, e₂, h₁, h₂, hrule, hpiece, hnothing⟩

end Rulebook
