/-
**Expressions that are written and read again.**

The text of an expression is rule text wherever the reader could have made the expression: it is put
together from lexemes with blanks between them, so the reader finds these lexemes again.  Only the
brackets round a joined right operand are no lexemes.  What is read therefore always joins to the left,
and an expression that joins to the right is refused at its first bracket.

Main definitions:

* `Rulebook.Expr.nodes` — an expression and everything below it;
* `Rulebook.Expr.LexicallyClean` — an expression whose names and numbers can be written as lexemes;
* `Rulebook.Expr.LeftNested` — an expression without a joined right operand;
* `Rulebook.firstBracket?` — the place of the first bracket that is not inside quotes.

Main results:

* `Rulebook.Expr.exists_phrase_reads` — the text of a left-nested expression has the lexemes of a phrase
  for it;
* `Rulebook.Expr.exists_bracket` — the text of any other expression is rule text up to a bracket;
* `Rulebook.parse_bracket` — such a text is refused at its first bracket outside quotes;
* `Rulebook.clean_of_parse` — what is read joins to the left and can be written;
* `Rulebook.parse_render` — **writing and reading agree**.
-/

import Rulebook.Proofs.WellFormed
import Rulebook.Proofs.WrittenNumber

set_option autoImplicit false

namespace Rulebook

open String (utf8Len utf8Len_append utf8Len_cons utf8Len_nil)

/-! ### Expressions that can be written -/

/-- A word of rule text that is no connective. -/
def IsWord (cs : List Char) : Prop :=
  (∃ c ds, cs = c :: ds ∧ isNameStart c = true ∧ ∀ d ∈ ds, isNameChar d = true) ∧
    ∀ k, ¬IsKeyword cs k

namespace Expr

/-- An expression and everything below it. -/
def nodes : Expr → List Expr
  | reference name default => [.reference name default]
  | literal value => [.literal value]
  | comparison r left right => .comparison r left right :: (left.nodes ++ right.nodes)
  | logical c left right => .logical c left right :: (left.nodes ++ right.nodes)

theorem mem_nodes_self (e : Expr) : e ∈ e.nodes := by
  cases e <;> exact List.mem_cons_self

theorem forall_nodes_logical {P : Expr → Prop} {c : Connective} {left right : Expr} :
    (∀ e ∈ (logical c left right).nodes, P e) ↔
      P (.logical c left right) ∧ (∀ e ∈ left.nodes, P e) ∧ ∀ e ∈ right.nodes, P e := by
  rw [nodes, List.forall_mem_cons, List.forall_mem_append]

theorem forall_nodes_comparison {P : Expr → Prop} {r : Relation} {left right : Expr} :
    (∀ e ∈ (comparison r left right).nodes, P e) ↔
      P (.comparison r left right) ∧ (∀ e ∈ left.nodes, P e) ∧ ∀ e ∈ right.nodes, P e := by
  rw [nodes, List.forall_mem_cons, List.forall_mem_append]

/-- A node that can be written with lexemes: an attribute is a word without a default, a number is
finite. -/
def Clean : Expr → Prop
  | reference name default => default = none ∧ IsWord name.toList
  | literal (.number x) => x.isFinite = true
  | _ => True

/-- The check accepts the expression, and all its nodes can be written with lexemes. -/
structure LexicallyClean (e : Expr) : Prop where
  check : e.check = .ok ()
  nodes : ∀ n ∈ e.nodes, n.Clean

/-- A node that does not join a joined expression on its right. -/
def JoinsLeft : Expr → Prop
  | logical _ _ right => right.isLogical = false
  | _ => True

/-- No joined expression is joined on the right. -/
def LeftNested (e : Expr) : Prop := ∀ n ∈ e.nodes, n.JoinsLeft

/-- A number whose text reads back. -/
def ReadsBack : Expr → Prop
  | literal (.number x) => readFloat? (decimalText x).toList = some x
  | _ => True

/-- The text of every number in the expression reads back. -/
def NumbersReadBack (e : Expr) : Prop := ∀ n ∈ e.nodes, n.ReadsBack

theorem leftNested_condition (r : Relation) {left : Expr} (h : left.IsOperand) (v : Scalar) :
    (comparison r left (.literal v)).LeftNested := by
  refine forall_nodes_comparison.2 ⟨trivial, ?_, by simp [nodes, JoinsLeft]⟩
  cases h <;> simp [nodes, JoinsLeft]

theorem lexicallyClean_logical {c : Connective} {left right : Expr} :
    (logical c left right).LexicallyClean ↔ left.LexicallyClean ∧ right.LexicallyClean := by
  constructor
  · rintro ⟨hcheck, hnodes⟩
    obtain ⟨-, hleft, hright⟩ := forall_nodes_logical.1 hnodes
    obtain ⟨hl, hr⟩ := wellFormed_logical_iff.1 (check_eq_ok_iff.1 hcheck)
    exact ⟨⟨check_eq_ok_iff.2 hl, hleft⟩, ⟨check_eq_ok_iff.2 hr, hright⟩⟩
  · rintro ⟨hleft, hright⟩
    have h : (logical c left right).WellFormed :=
      wellFormed_logical_iff.2 ⟨check_eq_ok_iff.1 hleft.check, check_eq_ok_iff.1 hright.check⟩
    exact ⟨check_eq_ok_iff.2 h, forall_nodes_logical.2 ⟨trivial, hleft.nodes, hright.nodes⟩⟩

end Expr

/-! ### Rows of lexemes -/

/-- The text has tokens of the given kinds, wherever it starts. -/
def Reads (cs : List Char) (kinds : List Token.Kind) : Prop :=
  ∀ n, ∃ ts, Cut n cs ts ∧ ts.map Token.kind = kinds

theorem Lexical.reads {goesOn : Char → Bool} {text : List Char} {kind : Token.Kind}
    (h : Lexical goesOn text kind) : Reads text [kind] := fun n => ⟨_, h.cut n, rfl⟩

theorem Reads.append {a b : List Char} {ks ls : List Token.Kind} (ha : Reads a ks) (hb : Reads b ls)
    (h : Separates b) : Reads (a ++ b) (ks ++ ls) := by
  intro n
  obtain ⟨ts, hts, rfl⟩ := ha n
  obtain ⟨us, hus, rfl⟩ := hb (n + utf8Len a)
  refine ⟨ts ++ us, tokenize_eq_ok_iff.1 ?_, List.map_append⟩
  rw [hts.tokenize_append h, tokenize_eq_ok_iff.2 hus]
  rfl

/-- Two texts with a blank between them. -/
theorem Reads.append_blank {a b : List Char} {ks ls : List Token.Kind} (ha : Reads a ks)
    (hb : Reads b ls) : Reads (a ++ ' ' :: b) (ks ++ ls) := by
  refine ha.append (fun n => ?_) (separates_of_isBlank rfl b)
  obtain ⟨us, hus, hkinds⟩ := hb (n + ' '.utf8Size)
  exact ⟨us, hus.cons_blank rfl, hkinds⟩

/-! ### What conditions are written as -/

theorem escaped_flatMap_escape (cs : List Char) : Escaped '"' (cs.flatMap Scalar.escape) cs := by
  induction cs with
  | nil => exact .nil
  | cons c cs ih =>
      rw [List.flatMap_cons]
      unfold Scalar.escape
      split
      · exact .escape (by decide) ih
      · exact .escape (by decide) ih
      · exact .escape (by decide) ih
      · exact .escape (by decide) ih
      · next hquote hbackslash _ _ => exact .plain hquote hbackslash ih

theorem lexical_quote (s : String) : ∃ goesOn, Lexical goesOn (Scalar.quote s.toList) (.quoted s) := by
  have hquote : isQuote '"' = true := rfl
  have h := Lexical.quoted hquote (escaped_flatMap_escape s.toList)
  rw [String.ofList_toList] at h
  exact ⟨_, h⟩

/-- A literal is written as a lexeme that means it on either side of a relation. -/
theorem exists_atom_of_scalar {v : Scalar} (hclean : (Expr.literal v).Clean)
    (hread : (Expr.literal v).ReadsBack) :
    ∃ a : Atom, (∃ goesOn, Lexical goesOn v.write a.kind) ∧ a.operand = .literal v ∧
      a.value = v := by
  cases v with
  | number x =>
      obtain ⟨d, hform, hvalue⟩ := exists_isNumeral_of_readsBack hclean hread
      have hfinite : d.toFloat.isFinite = true := hvalue ▸ hclean
      have h := Lexical.number hform hfinite
      rw [hvalue] at h
      exact ⟨.number x, ⟨_, h⟩, rfl, rfl⟩
  | string s => exact ⟨.quoted s, lexical_quote s, rfl, rfl⟩

theorem IsWord.lexical {name : String} (h : IsWord name.toList) :
    Lexical isNameChar name.toList (.word name) := by
  obtain ⟨⟨c, ds, hname, hstart, hgo⟩, hkeyword⟩ := h
  rw [hname] at hkeyword
  have hword := Lexical.word hstart hgo hkeyword
  rw [← hname, String.ofList_toList] at hword
  exact hword

/-- The left operand of a condition is written as a lexeme that means it there. -/
theorem exists_atom_of_isOperand {e : Expr} (h : e.IsOperand) (hclean : e.Clean)
    (hread : e.ReadsBack) :
    ∃ a : Atom, (∃ goesOn, Lexical goesOn e.write a.kind) ∧ a.operand = e := by
  cases h with
  | literal v =>
      obtain ⟨a, ha, hoperand, -⟩ := exists_atom_of_scalar hclean hread
      exact ⟨a, ha, hoperand⟩
  | @reference name default _ =>
      obtain ⟨rfl, hword⟩ := hclean
      exact ⟨.word name, ⟨_, hword.lexical⟩, rfl⟩

/-- A condition is written as the lexemes of a clause for it. -/
theorem exists_clause_reads {r : Relation} {left : Expr} {v : Scalar} (hleft : left.IsOperand)
    (hclean : ∀ n ∈ (Expr.comparison r left (.literal v)).nodes, n.Clean)
    (hread : (Expr.comparison r left (.literal v)).NumbersReadBack) :
    ∃ c : Clause, Reads (Expr.comparison r left (.literal v)).write c.kinds ∧
      c.expr = .comparison r left (.literal v) := by
  have hself : left ∈ left.nodes := left.mem_nodes_self
  obtain ⟨-, hcleanl, hcleanr⟩ := Expr.forall_nodes_comparison.1 hclean
  obtain ⟨-, hreadl, hreadr⟩ := Expr.forall_nodes_comparison.1 hread
  obtain ⟨a, ⟨_, ha⟩, rfl⟩ := exists_atom_of_isOperand hleft (hcleanl _ hself) (hreadl _ hself)
  obtain ⟨b, ⟨_, hb⟩, -, rfl⟩ := exists_atom_of_scalar
    (hcleanr _ List.mem_cons_self) (hreadr _ List.mem_cons_self)
  exact ⟨⟨a, r, b⟩, (ha.reads.append_blank (Lexical.relation r).reads).append_blank hb.reads, rfl⟩

/-! ### What expressions are written as -/

theorem lexical_keyword (c : Connective) :
    Lexical isNameChar c.keyword.toList (.connective c) := .keyword rfl

theorem furtherKinds_append_singleton (further : List (Connective × Clause)) (c : Connective)
    (clause : Clause) :
    furtherKinds (further ++ [(c, clause)]) =
      furtherKinds further ++ [.connective c] ++ clause.kinds := by
  simp [furtherKinds]

namespace Expr

theorem WellFormed.comparisonCount_pos {e : Expr} (h : e.WellFormed) : 0 < e.comparisonCount := by
  induction h with
  | condition r hleft v => exact Nat.one_pos
  | joined c _ _ ihl _ => exact Nat.add_pos_left ihl _

/-- A well-formed expression that does not join is a condition. -/
theorem WellFormed.exists_condition {e : Expr} (h : e.WellFormed) (hlogical : e.isLogical = false) :
    ∃ r left v, left.IsOperand ∧ e = .comparison r left (.literal v) := by
  cases h with
  | condition r hleft v => exact ⟨r, _, v, hleft, rfl⟩
  | joined c _ _ => cases hlogical

/-- **The text of a left-nested expression** has the lexemes of a phrase for it. -/
theorem exists_phrase_reads {e : Expr} (h : e.WellFormed) (hclean : ∀ n ∈ e.nodes, n.Clean)
    (hnested : e.LeftNested) (hread : e.NumbersReadBack) :
    ∃ p : Phrase, Reads e.write p.kinds ∧ p.expr = e := by
  induction h with
  | condition r hleft v =>
      obtain ⟨c, hreads, hexpr⟩ := exists_clause_reads hleft hclean hread
      refine ⟨⟨c, []⟩, ?_, hexpr⟩
      rw [Phrase.kinds, furtherKinds_nil, List.append_nil]
      exact hreads
  | @joined c left right _ hright ihl _ =>
      -- the right child is a condition, which is one more clause at the end of the phrase
      obtain ⟨-, hcleanl, hcleanr⟩ := forall_nodes_logical.1 hclean
      obtain ⟨hlogical, hnestedl, -⟩ := forall_nodes_logical.1 hnested
      obtain ⟨-, hreadl, hreadr⟩ := forall_nodes_logical.1 hread
      obtain ⟨⟨first, further⟩, hreads, rfl⟩ := ihl hcleanl hnestedl hreadl
      obtain ⟨r, operand, v, hoperand, rfl⟩ := hright.exists_condition hlogical
      obtain ⟨clause, hclause, hexpr⟩ := exists_clause_reads hoperand hcleanr hreadr
      refine ⟨⟨first, further ++ [(c, clause)]⟩, ?_, ?_⟩
      · have h := (hreads.append_blank (lexical_keyword c).reads).append_blank hclause
        rw [Phrase.kinds, furtherKinds_append_singleton, ← List.append_assoc, ← List.append_assoc]
        exact h
      · rw [Phrase.expr, joinFurther, List.foldl_append, List.foldl_cons, List.foldl_nil, hexpr]
        rfl

/-- **The text of an expression that joins to the right** is rule text up to a bracket. -/
theorem exists_bracket {e : Expr} (h : e.WellFormed) (hclean : ∀ n ∈ e.nodes, n.Clean)
    (hnested : ¬e.LeftNested) (hread : e.NumbersReadBack) :
    ∃ front rest kinds, e.write = front ++ '(' :: rest ∧ Reads front kinds := by
  induction h with
  | condition r hleft v => exact absurd (leftNested_condition r hleft v) hnested
  | @joined c left right hl hr ihl _ =>
      obtain ⟨-, hcleanl, -⟩ := forall_nodes_logical.1 hclean
      obtain ⟨-, hreadl, -⟩ := forall_nodes_logical.1 hread
      -- the first bracket stands in the left child, if that has one
      by_cases hleft : left.LeftNested
      · obtain ⟨p, hreads, -⟩ := exists_phrase_reads hl hcleanl hleft hreadl
        cases hlogical : right.isLogical with
        | true =>
            have hblank : Reads [] [] := fun n => ⟨[], .blanks (by simp), rfl⟩
            refine ⟨left.write ++ ' ' :: c.keyword.toList ++ [' '], right.write ++ [')'], _, ?_,
              (hreads.append_blank (lexical_keyword c).reads).append_blank hblank⟩
            rw [write, hlogical]
            simp
        | false =>
            refine absurd (forall_nodes_logical.2 ⟨hlogical, hleft, ?_⟩) hnested
            obtain ⟨r, operand, v, hoperand, rfl⟩ := hr.exists_condition hlogical
            exact leftNested_condition r hoperand v
      · obtain ⟨front, rest, kinds, hwrite, hreads⟩ := ihl hcleanl hleft hreadl
        refine ⟨front, rest ++ (' ' :: c.keyword.toList ++ ' ' ::
          (if right.isLogical then '(' :: right.write ++ [')'] else right.write)), kinds, ?_, hreads⟩
        rw [write, hwrite]
        simp only [List.append_assoc, List.cons_append]

end Expr

/-! ### Brackets outside quotes -/

/-- The place in bytes of the first bracket outside quotes, in a text that starts at `n`; `quote` is the
quote that is open. -/
def bracketFrom? (quote : Option Char) (n : Nat) : List Char → Option Nat
  | [] => none
  | c :: cs =>
    match quote with
    | none =>
      if c = '(' ∨ c = ')' then some n
      else bracketFrom? (if isQuote c then some c else none) (n + c.utf8Size) cs
    | some q =>
      if c = '\\' then
        match cs with
        | [] => none
        | e :: cs => bracketFrom? (some q) (n + c.utf8Size + e.utf8Size) cs
      else bracketFrom? (if c = q then none else some q) (n + c.utf8Size) cs

/-- The place in bytes of the first bracket that is not inside quotes. -/
def firstBracket? (text : String) : Option Nat := bracketFrom? none 0 text.toList

/-- A text in which no bracket is outside quotes and every quote is closed. -/
def Unbracketed (text : List Char) : Prop :=
  ∀ n rest, bracketFrom? none n (text ++ rest) = bracketFrom? none (n + utf8Len text) rest

theorem Unbracketed.append {a b : List Char} (ha : Unbracketed a) (hb : Unbracketed b) :
    Unbracketed (a ++ b) := by
  intro n rest
  rw [List.append_assoc, ha, hb, utf8Len_append, Nat.add_assoc]

/-- A class of characters without brackets and quotes. -/
def IsPlain (p : Char → Bool) : Prop := ∀ c ∈ ['(', ')', '"', '\x27'], p c = false

theorem isPlain_of_any {p : Char → Bool} (h : ['(', ')', '"', '\x27'].any p = false) : IsPlain p :=
  fun c hc => eq_false_of_ne_true (List.any_eq_false.1 h c hc)

theorem unbracketed_of_isPlain {p : Char → Bool} (hp : IsPlain p) {text : List Char}
    (h : ∀ c ∈ text, p c = true) : Unbracketed text := by
  intro n rest
  induction text generalizing n with
  | nil => rfl
  | cons c cs ih =>
      obtain ⟨hc, hcs⟩ := List.forall_mem_cons.1 h
      have hne : ∀ d ∈ ['(', ')', '"', '\x27'], c ≠ d := fun d hd => ne_of_class hc (hp d hd)
      have hbracket : ¬(c = '(' ∨ c = ')') := by simpa using ⟨hne '(' (by simp), hne ')' (by simp)⟩
      have hquote : isQuote c = false := by
        simpa [isQuote] using ⟨hne '"' (by simp), hne '\x27' (by simp)⟩
      rw [List.cons_append, bracketFrom?, if_neg hbracket, hquote, utf8Len_cons,
        Nat.add_comm (utf8Len cs), ← Nat.add_assoc]
      exact ih hcs _

theorem isPlain_isNameChar : IsPlain isNameChar := isPlain_of_any (by decide)

theorem isPlain_isNumberChar : IsPlain isNumberChar := isPlain_of_any (by decide)

theorem isPlain_isRelationChar : IsPlain isRelationChar := isPlain_of_any (by decide)

theorem isPlain_isConnectiveChar : IsPlain isConnectiveChar := isPlain_of_any (by decide)

theorem isPlain_isBlank : IsPlain isBlank := isPlain_of_any (by decide)

theorem Escaped.bracketFrom?_eq {q : Char} {body value : List Char}
    (h : Escaped q body value) (n : Nat) (rest : List Char) :
    bracketFrom? (some q) n (body ++ rest) =
      bracketFrom? (some q) (n + utf8Len body) rest := by
  induction h generalizing n with
  | nil => rfl
  | @plain c cs value hquote hbackslash _ ih =>
      rw [List.cons_append, bracketFrom?.eq_def]
      simp only [if_neg hbackslash, if_neg hquote, ih, utf8Len_cons, Nat.add_assoc, Nat.add_comm]
  | @escape e v cs value _ _ ih =>
      rw [List.cons_append, List.cons_append, bracketFrom?.eq_def]
      simp only [if_true, ih, utf8Len_cons, Nat.add_assoc, Nat.add_comm, Nat.add_left_comm]

theorem Lexical.unbracketed {goesOn : Char → Bool} {text : List Char} {kind : Token.Kind}
    (h : Lexical goesOn text kind) : Unbracketed text := by
  cases h with
  | word hstart hgo _ =>
      exact unbracketed_of_isPlain isPlain_isNameChar
        (List.forall_mem_cons.2 ⟨isNameChar_of_isNameStart hstart, hgo⟩)
  | number hform _ => exact unbracketed_of_isPlain isPlain_isNumberChar hform.isNumberChar
  | @quoted quote body value hquote hbody =>
      intro n rest
      have hbracket : ¬(quote = '(' ∨ quote = ')') := by
        rintro (rfl | rfl) <;> exact absurd hquote (by decide)
      rw [List.cons_append, List.append_assoc, bracketFrom?, if_neg hbracket, if_pos hquote,
        hbody.bracketFrom?_eq, List.singleton_append, bracketFrom?.eq_def]
      simp only [if_neg (isQuote_ne_backslash hquote), if_true, utf8Len_cons, utf8Len_append,
        utf8Len_nil]
      congr 1
      omega
  | relation r =>
      exact unbracketed_of_isPlain isPlain_isRelationChar
        (List.all_eq_true.1 (by cases r <;> decide))
  | symbol k =>
      exact unbracketed_of_isPlain isPlain_isConnectiveChar
        (List.all_eq_true.1 (by cases k <;> decide))
  | keyword hkeyword =>
      exact unbracketed_of_isPlain isPlain_isNameChar
        fun c hc => isNameChar_of_isNameStart (hkeyword.isNameStart c hc)

/-- A text that is cut into tokens has no bracket outside quotes. -/
theorem Cut.unbracketed {n : Nat} {cs : List Char} {ts : List Token} (h : Cut n cs ts) :
    Unbracketed cs := by
  induction h with
  | blanks hws => exact unbracketed_of_isPlain isPlain_isBlank hws
  | lexeme hws htext _ _ ih =>
      exact (unbracketed_of_isPlain isPlain_isBlank hws).append (htext.unbracketed.append ih)

theorem separates_bracket (rest : List Char) : Separates ('(' :: rest) := by
  intro goesOn text kind h
  rw [stops_cons]
  cases h with
  | word _ _ _ => exact isPlain_isNameChar '(' (by simp)
  | number _ _ => exact isPlain_isNumberChar '(' (by simp)
  | quoted _ _ => rfl
  | relation _ => rfl
  | symbol _ => rfl
  | keyword _ => exact isPlain_isNameChar '(' (by simp)

theorem tokenize_bracket (n : Nat) (rest : List Char) :
    tokenize n ('(' :: rest) = .error ⟨n, "(", .grouping⟩ :=
  tokenize_of_scanLexeme_error (by decide) rfl

/-- **A bracket after lexemes is refused**, at the place of the first bracket outside quotes. -/
theorem parse_bracket {text : String} {front rest : List Char} {kinds : List Token.Kind}
    (htext : text.toList = front ++ '(' :: rest) (h : Reads front kinds) :
    ∃ n, firstBracket? text = some n ∧ parse text = .error ⟨n, "(", .grouping⟩ := by
  obtain ⟨ts, hcut, -⟩ := h 0
  refine ⟨0 + utf8Len front, ?_, parse_eq_error_of_tokenize ?_⟩
  · rw [firstBracket?, htext, hcut.unbracketed]
    rfl
  · rw [htext, hcut.tokenize_append (separates_bracket rest), tokenize_bracket]
    rfl

/-! ### What is read -/

theorem Lexical.isWord {goesOn : Char → Bool} {text : List Char} {name : String}
    (h : Lexical goesOn text (.word name)) : IsWord name.toList := by
  cases h with
  | word hstart hgo hkeyword =>
      rw [String.toList_ofList]
      exact ⟨⟨_, _, rfl, hstart, hgo⟩, hkeyword⟩

theorem Lexical.isFinite {goesOn : Char → Bool} {text : List Char} {x : Float}
    (h : Lexical goesOn text (.number x)) : x.isFinite = true := by
  cases h with
  | number _ hfinite => exact hfinite

theorem Atom.clean_operand {a : Atom} (h : a.kind.Spelled) : ∀ n ∈ a.operand.nodes, n.Clean := by
  obtain ⟨_, _, htext⟩ := h
  cases a with
  | word s => simpa [Atom.operand, Expr.nodes, Expr.Clean] using htext.isWord
  | number x => simpa [Atom.operand, Expr.nodes, Expr.Clean] using htext.isFinite
  | quoted s => simp [Atom.operand, Expr.nodes, Expr.Clean]

theorem Atom.clean_value {a : Atom} (h : a.kind.Spelled) :
    ∀ n ∈ (Expr.literal a.value).nodes, n.Clean := by
  obtain ⟨_, _, htext⟩ := h
  cases a with
  | word s => simp [Atom.value, Expr.nodes, Expr.Clean]
  | number x => simpa [Atom.value, Expr.nodes, Expr.Clean] using htext.isFinite
  | quoted s => simp [Atom.value, Expr.nodes, Expr.Clean]

theorem Clause.lexicallyClean {c : Clause} (h : ∀ k ∈ c.kinds, k.Spelled) :
    c.expr.LexicallyClean := by
  have hleft : c.left.kind.Spelled := h _ (by simp [Clause.kinds])
  have hright : c.right.kind.Spelled := h _ (by simp [Clause.kinds])
  exact ⟨Expr.check_eq_ok_iff.2 (Clause.wellFormed hleft),
    Expr.forall_nodes_comparison.2 ⟨trivial, Atom.clean_operand hleft, Atom.clean_value hright⟩⟩

theorem Clause.leftNested {c : Clause} (h : ∀ k ∈ c.kinds, k.Spelled) : c.expr.LeftNested :=
  Expr.leftNested_condition c.relation (isOperand_of_spelled (h _ (by simp [Clause.kinds]))) _

/-- **What is read can be written**: its names and numbers are lexemes, and it joins to the left. -/
theorem clean_of_parse {rule : String} {e : Expr} (h : parse rule = .ok e) :
    e.LexicallyClean ∧ e.LeftNested := by
  obtain ⟨p, hp, rfl⟩ := exists_spelled_of_parse h
  refine hp.induction (motive := fun e => e.LexicallyClean ∧ e.LeftNested)
    (fun clause hclause => ?_) fun c left clause hleft hclause => ?_
  · exact ⟨Clause.lexicallyClean hclause, Clause.leftNested hclause⟩
  · exact ⟨Expr.lexicallyClean_logical.2 ⟨hleft.1, Clause.lexicallyClean hclause⟩,
      Expr.forall_nodes_logical.2 ⟨rfl, hleft.2, Clause.leftNested hclause⟩⟩

/-- An expression that joins to the left is as deep as it has conditions. -/
theorem Expr.depth_of_leftNested {e : Expr} (h : e.WellFormed) (hnested : e.LeftNested) :
    e.depth = e.comparisonCount + 1 := by
  induction h with
  | condition r hleft v => cases hleft <;> rfl
  | @joined c left right hl hr ihl _ =>
      obtain ⟨hlogical, hleft, -⟩ := Expr.forall_nodes_logical.1 hnested
      obtain ⟨r, operand, v, hoperand, rfl⟩ := hr.exists_condition hlogical
      have hdepth : (Expr.comparison r operand (.literal v)).depth = 2 := by
        cases hoperand <;> rfl
      have hcount : 0 < left.comparisonCount := hl.comparisonCount_pos
      rw [Expr.depth, ihl hleft, hdepth, Expr.comparisonCount, Expr.comparisonCount]
      omega

/-! ### Writing and reading -/

theorem Expr.parse_render_of_leftNested {e : Expr} (hclean : e.LexicallyClean)
    (hnested : e.LeftNested) (hread : e.NumbersReadBack) : parse e.render = .ok e := by
  obtain ⟨p, hreads, rfl⟩ :=
    exists_phrase_reads (check_eq_ok_iff.1 hclean.check) hclean.nodes hnested hread
  obtain ⟨ts, hcut, hkinds⟩ := hreads 0
  refine parse_eq_ok_of_cut ?_ hkinds
  rw [Expr.render, String.toList_ofList]
  exact hcut

theorem Expr.parse_render_of_not_leftNested {e : Expr} (hclean : e.LexicallyClean)
    (hnested : ¬e.LeftNested) (hread : e.NumbersReadBack) :
    ∃ n, firstBracket? e.render = some n ∧ parse e.render = .error ⟨n, "(", .grouping⟩ := by
  obtain ⟨front, rest, kinds, hwrite, hreads⟩ :=
    exists_bracket (check_eq_ok_iff.1 hclean.check) hclean.nodes hnested hread
  have htext : e.render.toList = front ++ '(' :: rest := by
    rw [Expr.render, String.toList_ofList, hwrite]
  exact parse_bracket htext hreads

/-- **Writing and reading agree.**  What is read joins to the left and has lexemes for names and numbers;
it passes the check and is as deep as it has conditions.  Conversely, let the numbers of an expression
read back: it is read from some text exactly when it joins to the left and has lexemes for names and
numbers, and its own text is such a text.  When it has the lexemes but joins to the right, its text is
refused at the first bracket outside quotes. -/
theorem parse_render (e : Expr) :
    (∀ rule, parse rule = .ok e →
      e.LexicallyClean ∧ e.LeftNested ∧ e.check = .ok () ∧ e.depth = e.comparisonCount + 1) ∧
    (e.NumbersReadBack →
      ((∃ rule, parse rule = .ok e) ↔ e.LexicallyClean ∧ e.LeftNested) ∧
      (e.LexicallyClean → e.LeftNested → parse e.render = .ok e) ∧
      (e.LexicallyClean → ¬e.LeftNested →
        ∃ n, firstBracket? e.render = some n ∧ parse e.render = .error ⟨n, "(", .grouping⟩)) := by
  constructor
  · intro rule h
    obtain ⟨hclean, hnested⟩ := clean_of_parse h
    exact ⟨hclean, hnested, hclean.check, Expr.depth_of_leftNested (wellFormed_of_parse h) hnested⟩
  · intro hread
    refine ⟨⟨?_, ?_⟩, ?_, ?_⟩
    · rintro ⟨rule, h⟩
      exact clean_of_parse h
    · rintro ⟨hclean, hnested⟩
      exact ⟨e.render, e.parse_render_of_leftNested hclean hnested hread⟩
    · exact fun hclean hnested => e.parse_render_of_leftNested hclean hnested hread
    · exact fun hclean hnested => e.parse_render_of_not_leftNested hclean hnested hread

theorem isWord_of_all {cs : List Char} (hstart : cs.head?.any isNameStart = true)
    (hgo : cs.tail.all isNameChar = true) (hand : ¬IsKeyword cs .and) (hor : ¬IsKeyword cs .or) :
    IsWord cs := by
  cases cs with
  | nil => cases hstart
  | cons c ds =>
      refine ⟨⟨c, ds, rfl, hstart, List.all_eq_true.1 hgo⟩, fun k => ?_⟩
      cases k with
      | and => exact hand
      | or => exact hor

/-- The bracket of a joined right operand is found behind one that is quoted. -/
theorem parse_render_quoted_bracket :
    let e : Expr := .logical .and
      (.comparison .eq (.reference "team" none) (.literal (.string "a(b")))
      (.logical .or (.comparison .gt (.reference "age" none) (.literal (.number 30)))
        (.comparison .lt (.reference "age" none) (.literal (.number 0.5))))
    e.NumbersReadBack ∧ e.LexicallyClean ∧ ¬e.LeftNested ∧
      parse e.render = .error ⟨18, "(", .grouping⟩ := by
  intro e
  have hread : e.NumbersReadBack := by
    simp only [e, Expr.NumbersReadBack, Expr.nodes, List.cons_append, List.nil_append,
      List.forall_mem_cons, Expr.ReadsBack, List.not_mem_nil, false_implies, implies_true, true_and,
      and_true]
    exact ⟨rfl, rfl⟩
  have hteam : IsWord "team".toList := isWord_of_all rfl (by decide) (by decide) (by decide)
  have hage : IsWord "age".toList := isWord_of_all rfl (by decide) (by decide) (by decide)
  have hclean : e.LexicallyClean := by
    refine ⟨rfl, ?_⟩
    simp only [e, Expr.nodes, List.cons_append, List.nil_append, List.forall_mem_cons, Expr.Clean,
      List.not_mem_nil, false_implies, implies_true, true_and, and_true, hteam, hage]
    exact ⟨rfl, rfl⟩
  have hnested : ¬e.LeftNested := fun h => absurd (h e List.mem_cons_self) Bool.noConfusion
  obtain ⟨n, hn, hparse⟩ := ((parse_render e).2 hread).2.2 hclean hnested
  have hplace : firstBracket? e.render = some 18 := by decide +kernel
  obtain rfl : n = 18 := Option.some_inj.1 (hn.symm.trans hplace)
  exact ⟨hread, hclean, hnested, hparse⟩

end Rulebook
