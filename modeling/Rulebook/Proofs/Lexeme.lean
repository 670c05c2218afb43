/-
**Rule text cut into lexemes.**

The tokens of a text are described here without saying how they are found.  A lexeme has one of five
forms, and each form comes with the class of characters that a scan of it would have gone on with; a
text is cut into lexemes when between them stand only blanks, and where two of them touch, the second
does not start with a character that the first would have taken.  `Rulebook.tokenize` finds exactly
these cuts.

Main definitions:

* `Rulebook.Escaped` — what stands between the quotes of a string, with its value;
* `Rulebook.Lexical` — the lexemes, each with its kind and the class of characters it goes on with;
* `Rulebook.Cut` — a text cut into tokens.

Main results:

* `Rulebook.lexical_of_scanLexeme`, `Rulebook.Lexical.scanLexeme_eq` — the scanner takes exactly the
  lexemes, each as long as it can be;
* `Rulebook.Cut.tokenize_append` — a text that is cut into tokens gives these tokens, and what follows
  it gives its own;
* `Rulebook.tokenize_eq_ok_iff` — a text has the given tokens exactly when it is cut into them.
-/

import Mathlib.Data.String.Basic
import Rulebook.Proofs.Numeral

set_option autoImplicit false

namespace Rulebook

open String (utf8Len utf8Len_append utf8Len_cons utf8ByteSize_ofList)

/-! ### Characters of one class are not of another -/

/-- The code points of the blanks. -/
def blankCodes : List Nat :=
  [0x9, 0xA, 0xB, 0xC, 0xD, 0x20, 0x85, 0xA0, 0x1680, 0x2000, 0x2001, 0x2002, 0x2003, 0x2004, 0x2005,
    0x2006, 0x2007, 0x2008, 0x2009, 0x200A, 0x2028, 0x2029, 0x202F, 0x205F, 0x3000]

theorem toNat_mem_blankCodes {c : Char} (h : isBlank c = true) : c.toNat ∈ blankCodes := by
  simp only [isBlank, CharSet.contains, CharSet.whiteSpace, CharSet.covers_cons,
    CharSet.covers_nil, Bool.and_eq_true, Bool.or_eq_true, decide_eq_true_eq, Bool.or_false] at h
  simp only [blankCodes, List.mem_cons, List.not_mem_nil, or_false]
  omega

theorem alphanumeric_blankCodes : ∀ n ∈ blankCodes,
    CharSet.covers CharSet.alphabetic.ranges n = false ∧
      CharSet.covers CharSet.numeric.ranges n = false := by
  decide +kernel

theorem isNameChar_of_isBlank {c : Char} (h : isBlank c = true) : isNameChar c = false := by
  obtain ⟨halpha, hnum⟩ := alphanumeric_blankCodes _ (toNat_mem_blankCodes h)
  have hunderscore : c ≠ '_' := by rintro rfl; exact absurd h (by decide)
  have hdot : c ≠ '.' := by rintro rfl; exact absurd h (by decide)
  simp [isNameChar, isAlphanumeric, isAlphabetic, CharSet.contains, halpha, hnum, hunderscore, hdot]

theorem isNumberChar_of_isBlank {c : Char} (h : isBlank c = true) : isNumberChar c = false := by
  have hminus : c ≠ '-' := by rintro rfl; exact absurd h (by decide)
  have hplus : c ≠ '+' := by rintro rfl; exact absurd h (by decide)
  simp [isNumberChar, isNameChar_of_isBlank h, hminus, hplus]

theorem isNameStart_of_isDigit {c : Char} (h : c.isDigit = true) : isNameStart c = false := by
  have hunderscore : c ≠ '_' := ne_of_class h rfl
  have hupper : c.toNat < 0x41 := by
    simp only [Char.isDigit, ge_iff_le, Bool.and_eq_true, decide_eq_true_eq] at h
    have h' : c.toNat ≤ 0x39 := h.2
    omega
  have halpha : CharSet.covers CharSet.alphabetic.ranges c.toNat = false := by
    rw [show CharSet.alphabetic.ranges = (0x41, 0x5A) :: CharSet.alphabetic.ranges.tail from rfl]
    exact CharSet.covers_eq_false_of_lt hupper
  simp [isNameStart, isAlphabetic, CharSet.contains, halpha, hunderscore]

theorem isBlank_of_isNameStart {c : Char} (h : isNameStart c = true) : isBlank c = false := by
  cases hc : isBlank c with
  | false => rfl
  | true => rw [← isNameChar_of_isNameStart h, isNameChar_of_isBlank hc]

theorem isBlank_of_isDigit {c : Char} (h : c.isDigit = true) : isBlank c = false := by
  cases hc : isBlank c with
  | false => rfl
  | true => rw [← isNameChar_of_isDigit h, isNameChar_of_isBlank hc]

/-! ### Quoted strings -/

/-- The escapes of quoted strings: what follows the backslash, and the character that it stands
for. -/
def escapes : List (Char × Char) :=
  [('"', '"'), ('\x27', '\x27'), ('\\', '\\'), ('n', '\n'), ('t', '\t')]

/-- What stands between the quotes of a string, with the value of the string: backslashes occur in
escapes only, and the quote itself only after a backslash. -/
inductive Escaped (quote : Char) : List Char → List Char → Prop
  | nil : Escaped quote [] []
  | plain {c : Char} {cs value : List Char} (hquote : c ≠ quote) (hbackslash : c ≠ '\\')
      (h : Escaped quote cs value) : Escaped quote (c :: cs) (c :: value)
  | escape {e v : Char} {cs value : List Char} (he : (e, v) ∈ escapes)
      (h : Escaped quote cs value) : Escaped quote ('\\' :: e :: cs) (v :: value)

theorem unescape?_eq_some_iff {e v : Char} : unescape? e = some v ↔ (e, v) ∈ escapes := by
  constructor
  · intro h
    unfold unescape? at h
    split at h <;> cases h <;> decide
  · intro h
    simp only [escapes, List.mem_cons, Prod.mk.injEq, List.not_mem_nil, or_false] at h
    rcases h with ⟨rfl, rfl⟩ | ⟨rfl, rfl⟩ | ⟨rfl, rfl⟩ | ⟨rfl, rfl⟩ | ⟨rfl, rfl⟩ <;> rfl

theorem isQuote_ne_backslash {q : Char} (hq : isQuote q = true) : q ≠ '\\' := by
  rintro rfl
  exact absurd hq (by decide)

theorem Escaped.scanQuoted_eq {q : Char} (hq : isQuote q = true) {body value : List Char}
    (h : Escaped q body value) (rest : List Char) :
    scanQuoted q (body ++ q :: rest) = .ok (value, body ++ [q], rest) := by
  induction h with
  | nil => rw [List.nil_append, scanQuoted.eq_def]; simp
  | plain hquote hbackslash _ ih =>
      rw [List.cons_append, scanQuoted.eq_def]
      simp only [if_neg hquote, if_neg hbackslash, ih, List.cons_append]
  | escape he _ ih =>
      rw [List.cons_append, List.cons_append, scanQuoted.eq_def]
      simp only [if_neg (isQuote_ne_backslash hq).symm, if_true, unescape?_eq_some_iff.2 he, ih,
        List.cons_append]

theorem escaped_of_scanQuoted {q : Char} {cs value text rest : List Char}
    (h : scanQuoted q cs = .ok (value, text, rest)) :
    ∃ body, text = body ++ [q] ∧ cs = text ++ rest ∧ Escaped q body value := by
  fun_induction scanQuoted q cs generalizing value text rest with
  | case1 => cases h
  | case2 cs => cases h; exact ⟨[], rfl, rfl, .nil⟩
  | case3 => cases h
  | case4 => cases h
  | case5 e cs v he value' text' rest' hscan hquote ih =>
      cases h
      obtain ⟨body, rfl, rfl, hbody⟩ := ih hscan
      exact ⟨'\\' :: e :: body, rfl, rfl, .escape (unescape?_eq_some_iff.1 he) hbody⟩
  | case6 => cases h
  | case7 c cs hquote hc value' text' rest' hscan ih =>
      cases h
      obtain ⟨body, rfl, rfl, hbody⟩ := ih hscan
      exact ⟨c :: body, rfl, rfl, .plain hquote hc hbody⟩
  | case8 => cases h

/-! ### Operators -/

theorem Relation.ofSymbol?_eq_some_iff {s : String} {r : Relation} :
    Relation.ofSymbol? s = some r ↔ s = r.symbol := by
  constructor
  · intro h
    have hfound := List.find?_some h
    exact (beq_iff_eq.1 hfound).symm
  · rintro rfl
    exact Relation.ofSymbol?_symbol r

theorem Relation.symbol_injective {r r' : Relation} (h : r.symbol = r'.symbol) : r = r' :=
  Option.some.inj (by rw [← Relation.ofSymbol?_symbol, h, Relation.ofSymbol?_symbol])

theorem Connective.keyword_injective {c c' : Connective} (h : c.keyword = c'.keyword) : c = c' :=
  Option.some.inj (by rw [← Connective.ofKeyword?_keyword, h, Connective.ofKeyword?_keyword])

/-- The symbol of a connective. -/
def Connective.symbol : Connective → String
  | .and => "&&"
  | .or => "||"

/-- The keyword of a connective, its ASCII letters in either case. -/
def IsKeyword (cs : List Char) (k : Connective) : Prop :=
  cs.map Char.toLower = k.keyword.toList.map Char.toLower

instance (cs : List Char) (k : Connective) : Decidable (IsKeyword cs k) :=
  inferInstanceAs (Decidable (cs.map Char.toLower = k.keyword.toList.map Char.toLower))

theorem Connective.ofKeyword?_ofList_eq_some_iff {cs : List Char} {k : Connective} :
    Connective.ofKeyword? (String.ofList cs) = some k ↔
      cs = k.symbol.toList ∨ IsKeyword cs k := by
  have hand : String.ofList cs = "&&" ↔ cs = ['&', '&'] := by
    rw [show "&&" = String.ofList ['&', '&'] from rfl, String.ofList_inj]
  have hor : String.ofList cs = "||" ↔ cs = ['|', '|'] := by
    rw [show "||" = String.ofList ['|', '|'] from rfl, String.ofList_inj]
  simp only [Connective.ofKeyword?, String.toList_ofList, hand, hor]
  cases k with
  | and =>
      change _ ↔ cs = ['&', '&'] ∨ cs.map Char.toLower = ['a', 'n', 'd']
      split
      · next h => simp [h]
      · next h => split <;> simp [h]
  | or =>
      change _ ↔ cs = ['|', '|'] ∨ cs.map Char.toLower = ['o', 'r']
      split
      · next h =>
          have hne : ¬(cs = ['|', '|'] ∨ cs.map Char.toLower = ['o', 'r']) := by
            rintro (rfl | ho)
            · exact absurd h (by decide)
            · rcases h with rfl | ha
              · exact absurd ho (by decide)
              · rw [ha] at ho; exact absurd ho (by decide)
          simp [hne]
      · split <;> simp [*]

/-! ### Lexemes -/

/-- **The lexemes of rule text.**  `Lexical goesOn text kind` says that `text` is a lexeme of the kind
`kind`, and that a scan of it would have gone on with any further character of the class `goesOn`. -/
inductive Lexical : (Char → Bool) → List Char → Token.Kind → Prop
  | word {c : Char} {cs : List Char} (hstart : isNameStart c = true)
      (hgo : ∀ d ∈ cs, isNameChar d = true) (hkeyword : ∀ k, ¬IsKeyword (c :: cs) k) :
      Lexical isNameChar (c :: cs) (.word (String.ofList (c :: cs)))
  | number {cs : List Char} {d : Decimal} (hform : IsNumeral cs d)
      (hfinite : d.toFloat.isFinite = true) : Lexical isNumberChar cs (.number d.toFloat)
  | quoted {quote : Char} {body value : List Char} (hquote : isQuote quote = true)
      (hbody : Escaped quote body value) :
      Lexical (fun _ => false) (quote :: (body ++ [quote])) (.quoted (String.ofList value))
  | relation (r : Relation) : Lexical isRelationChar r.symbol.toList (.relation r)
  | symbol (k : Connective) : Lexical isConnectiveChar k.symbol.toList (.connective k)
  | keyword {cs : List Char} {k : Connective} (h : IsKeyword cs k) :
      Lexical isNameChar cs (.connective k)

/-- A letter whose lower-case form is an ASCII letter starts a name. -/
theorem isNameStart_of_toLower {c : Char} (h : c.toLower.isLower = true) : isNameStart c = true := by
  have hcode : 0x41 ≤ c.toNat ∧ c.toNat ≤ 0x5A ∨ 0x61 ≤ c.toNat ∧ c.toNat ≤ 0x7A := by
    by_cases hc : c.val ≥ 'A'.val ∧ c.val ≤ 'Z'.val
    · exact Or.inl hc
    · have hlower : c.toLower = c := dif_neg hc
      rw [hlower] at h
      have hrange : decide (c.val ≥ 'a'.val) = true ∧ decide (c.val ≤ 'z'.val) = true :=
        Bool.and_eq_true_iff.1 h
      exact Or.inr ⟨of_decide_eq_true hrange.1, of_decide_eq_true hrange.2⟩
  have hcovers : CharSet.covers CharSet.alphabetic.ranges c.toNat = true := by
    rw [show CharSet.alphabetic.ranges =
      (0x41, 0x5A) :: (0x61, 0x7A) :: CharSet.alphabetic.ranges.tail.tail from rfl]
    simp only [CharSet.covers_cons, Bool.and_eq_true, Bool.or_eq_true, decide_eq_true_eq]
    omega
  simp [isNameStart, isAlphabetic, CharSet.contains, hcovers]

theorem IsKeyword.isNameStart {cs : List Char} {k : Connective} (h : IsKeyword cs k) :
    ∀ c ∈ cs, isNameStart c = true := by
  intro c hc
  have hmem : c.toLower ∈ cs.map Char.toLower := List.mem_map_of_mem hc
  rw [h] at hmem
  have hlower : ∀ d ∈ k.keyword.toList.map Char.toLower, d.isLower = true :=
    List.all_eq_true.1 (by cases k <;> decide)
  exact isNameStart_of_toLower (hlower _ hmem)

theorem IsKeyword.ne_nil {cs : List Char} {k : Connective} (h : IsKeyword cs k) : cs ≠ [] := by
  rintro rfl
  rw [IsKeyword] at h
  cases k <;> exact absurd h (by decide)

/-! ### The scanner, by the first character -/

theorem scanRun_eq_ok_iff {n : Nat} {p : Char → Bool}
    {judge : List Char → Except ParseError.Reason Token.Kind} {cs : List Char} {l : Lexeme} :
    scanRun n p judge cs = .ok l ↔
      cs = l.text ++ l.rest ∧ (∀ c ∈ l.text, p c = true) ∧ Stops p l.rest ∧
        judge l.text = .ok l.kind := by
  constructor
  · intro h
    simp only [scanRun] at h
    split at h
    · next hjudge =>
        cases h
        exact ⟨List.takeWhile_append_dropWhile.symm, fun c => List.mem_takeWhile_imp,
          stops_dropWhile p cs, hjudge⟩
    · cases h
  · rintro ⟨rfl, hall, hstops, hjudge⟩
    simp only [scanRun, hstops.takeWhile_append, hstops.dropWhile_append,
      List.takeWhile_eq_self_iff.2 hall, List.dropWhile_eq_nil_iff.2 hall, List.nil_append, hjudge]

theorem scanLexeme_of_isQuote {n : Nat} {c : Char} {cs : List Char} (h : isQuote c = true) :
    scanLexeme n c cs = match scanQuoted c cs with
      | .ok (value, text, rest) => .ok ⟨.quoted (String.ofList value), c :: text, rest⟩
      | .error .unclosed => .error ⟨n, String.ofList (c :: cs), .unclosedString⟩
      | .error (.unknownEscape offset e) =>
        .error ⟨n + c.utf8Size + offset, String.ofList ['\\', e], .unknownEscape⟩ := by
  unfold scanLexeme
  exact if_pos h

theorem scanLexeme_of_isNumberStart {n : Nat} {c : Char} {cs : List Char}
    (h : (c == '-' || c.isDigit) = true) :
    scanLexeme n c cs =
      scanRun n isNumberChar (fun text => (readNumber text).map .number) (c :: cs) := by
  have hlisted : ∀ c, isQuote c = true → c ∈ ['"', '\x27'] := by simp [isQuote]
  have hquote : isQuote c = false :=
    eq_false_of_listed (q := fun c => c == '-' || c.isDigit) _ hlisted (by decide) h
  rw [scanLexeme, if_neg (by rw [hquote]; exact Bool.false_ne_true), if_pos h]

theorem scanLexeme_of_isRelationChar {n : Nat} {c : Char} {cs : List Char}
    (h : isRelationChar c = true) :
    scanLexeme n c cs = scanRun n isRelationChar (fun text =>
      match Relation.ofSymbol? (String.ofList text) with
      | some r => .ok (.relation r)
      | none => .error .unknownRelation) (c :: cs) := by
  have hc := h
  simp only [isRelationChar, Bool.or_eq_true, beq_iff_eq] at hc
  rcases hc with ((rfl | rfl) | rfl) | rfl <;> rfl

theorem scanLexeme_of_isConnectiveChar {n : Nat} {c : Char} {cs : List Char}
    (h : isConnectiveChar c = true) :
    scanLexeme n c cs = scanRun n isConnectiveChar (fun text =>
      match Connective.ofKeyword? (String.ofList text) with
      | some k => .ok (.connective k)
      | none => .error .unknownConnective) (c :: cs) := by
  have hc := h
  simp only [isConnectiveChar, Bool.or_eq_true, beq_iff_eq] at hc
  rcases hc with rfl | rfl <;> rfl

/-- A character that starts a name leads to none of the other branches of the scanner. -/
theorem scanLexeme_of_isNameStart {n : Nat} {c : Char} {cs : List Char}
    (h : isNameStart c = true) :
    scanLexeme n c cs =
      scanRun n isNameChar (fun text => .ok (wordKind (String.ofList text))) (c :: cs) := by
  have hne (d : Char) (hd : isNameStart d = false) : (c == d) = false :=
    beq_eq_false_iff_ne.2 (ne_of_class h hd)
  have hdigit : c.isDigit = false := by
    cases hc : c.isDigit with
    | false => rfl
    | true => rw [← h, isNameStart_of_isDigit hc]
  rw [scanLexeme]
  simp [isQuote, isRelationChar, isConnectiveChar, hdigit, h, hne '"' (by decide),
    hne '\x27' (by decide), hne '-' (by decide), hne '>' (by decide), hne '<' (by decide),
    hne '=' (by decide), hne '!' (by decide), hne '&' (by decide), hne '|' (by decide),
    hne '(' (by decide), hne ')' (by decide)]

/-! ### The scanner takes exactly the lexemes -/

theorem IsNumeral.exists_cons {cs : List Char} {d : Decimal} (h : IsNumeral cs d) :
    ∃ c rest, cs = c :: rest ∧ (c == '-' || c.isDigit) = true := by
  cases h with
  | parts hsign hwhole _ _ =>
      cases hsign with
      | absent =>
          obtain ⟨c, rest, rfl, hc⟩ := hwhole.exists_cons
          exact ⟨c, _, rfl, by rw [hc, Bool.or_true]⟩
      | minus => exact ⟨'-', _, rfl, rfl⟩

theorem IsNumeral.isNumberChar {cs : List Char} {d : Decimal} (h : IsNumeral cs d) :
    ∀ c ∈ cs, isNumberChar c = true := by
  have hdigits {ds : List Char} (hds : IsDigits ds) : ∀ c ∈ ds, Rulebook.isNumberChar c = true :=
    fun c hc => by simp [Rulebook.isNumberChar, isNameChar_of_isDigit (hds.2 c hc)]
  have hletter {c : Char} (hc : c = 'e' ∨ c = 'E') : Rulebook.isNumberChar c = true := by
    rcases hc with rfl | rfl <;> decide
  cases h with
  | parts hsign hwhole hfraction hexponent =>
      simp only [List.forall_mem_append]
      refine ⟨?_, hdigits hwhole, ?_, ?_⟩
      · cases hsign with
        | absent => simp
        | minus => simp [Rulebook.isNumberChar]
      · cases hfraction with
        | absent => simp
        | point hds => exact List.forall_mem_cons.2 ⟨rfl, hdigits hds⟩
      · cases hexponent with
        | absent => simp
        | unsigned hc hds => exact List.forall_mem_cons.2 ⟨hletter hc, hdigits hds⟩
        | plus hc hds =>
            exact List.forall_mem_cons.2 ⟨hletter hc, List.forall_mem_cons.2 ⟨rfl, hdigits hds⟩⟩
        | minus hc hds =>
            exact List.forall_mem_cons.2 ⟨hletter hc, List.forall_mem_cons.2 ⟨rfl, hdigits hds⟩⟩

theorem wordKind_of_isKeyword {cs : List Char} {k : Connective} (h : IsKeyword cs k) :
    wordKind (String.ofList cs) = .connective k := by
  rw [wordKind, Connective.ofKeyword?_ofList_eq_some_iff.2 (Or.inr h)]

/-- The symbols of connectives do not start with the start of a name. -/
theorem ne_symbol_of_isNameStart {c : Char} {cs : List Char} (h : isNameStart c = true)
    (k : Connective) : c :: cs ≠ k.symbol.toList := by
  intro he
  cases k with
  | and => exact ne_of_class h (d := '&') (by decide) (List.cons.inj he).1
  | or => exact ne_of_class h (d := '|') (by decide) (List.cons.inj he).1

theorem wordKind_of_not_isKeyword {c : Char} {cs : List Char} (hstart : isNameStart c = true)
    (h : ∀ k, ¬IsKeyword (c :: cs) k) :
    wordKind (String.ofList (c :: cs)) = .word (String.ofList (c :: cs)) := by
  -- symbols are keywords to the scanner as well, but no word is one
  have hnone : Connective.ofKeyword? (String.ofList (c :: cs)) = none := by
    rw [Option.eq_none_iff_forall_ne_some]
    intro k hk
    rcases Connective.ofKeyword?_ofList_eq_some_iff.1 hk with hsymbol | hkeyword
    · exact ne_symbol_of_isNameStart hstart k hsymbol
    · exact h k hkeyword
  rw [wordKind, hnone]

/-- The kind of a word is that of a lexeme. -/
theorem lexical_wordKind {c : Char} {cs : List Char} (hstart : isNameStart c = true)
    (hgo : ∀ d ∈ cs, isNameChar d = true) :
    Lexical isNameChar (c :: cs) (wordKind (String.ofList (c :: cs))) := by
  by_cases h : ∃ k, IsKeyword (c :: cs) k
  · obtain ⟨k, hk⟩ := h
    rw [wordKind_of_isKeyword hk]
    exact .keyword hk
  · rw [wordKind_of_not_isKeyword hstart (not_exists.1 h)]
    exact .word hstart hgo (not_exists.1 h)

/-- A run that is judged to be a lexeme is one. -/
theorem lexical_of_scanRun {n : Nat} {p : Char → Bool}
    {judge : List Char → Except ParseError.Reason Token.Kind} {c : Char} {cs : List Char} {l : Lexeme}
    (hc : p c = true)
    (hjudge : ∀ ds kind, (∀ d ∈ ds, p d = true) → judge (c :: ds) = .ok kind →
      Lexical p (c :: ds) kind)
    (h : scanRun n p judge (c :: cs) = .ok l) :
    ∃ goesOn, Lexical goesOn l.text l.kind ∧ c :: cs = l.text ++ l.rest ∧ Stops goesOn l.rest := by
  obtain ⟨hcs, hall, hstops, hkind⟩ := scanRun_eq_ok_iff.1 h
  refine ⟨p, ?_, hcs, hstops⟩
  cases htext : l.text with
  | nil =>
      -- the run cannot stop before the character that it starts with
      rw [htext, List.nil_append] at hcs
      rw [← hcs, stops_cons, hc] at hstops
      cases hstops
  | cons d ds =>
      rw [htext] at hcs hall hkind
      obtain rfl : c = d := (List.cons.inj hcs).1
      exact hjudge ds l.kind (fun e he => hall e (List.mem_cons_of_mem _ he)) hkind

theorem isNumberChar_of_isNumberStart {c : Char} (h : (c == '-' || c.isDigit) = true) :
    isNumberChar c = true := by
  rw [Bool.or_eq_true, beq_iff_eq] at h
  rcases h with rfl | h
  · rfl
  · simp [isNumberChar, isNameChar_of_isDigit h]

theorem lexical_of_readNumber {text : List Char} {kind : Token.Kind}
    (h : (readNumber text).map .number = .ok kind) : Lexical isNumberChar text kind := by
  cases hnumber : readNumber text with
  | error e => rw [hnumber] at h; cases h
  | ok x =>
      rw [hnumber] at h
      obtain ⟨d, hd, rfl, hfinite⟩ := readNumber_eq_ok_iff.1 hnumber
      rw [← Except.ok.inj h]
      exact .number hd hfinite

theorem lexical_of_ofSymbol? {text : List Char} {r : Relation}
    (h : Relation.ofSymbol? (String.ofList text) = some r) :
    Lexical isRelationChar text (.relation r) := by
  have htext : text = r.symbol.toList := by
    rw [← Relation.ofSymbol?_eq_some_iff.1 h, String.toList_ofList]
  rw [htext]
  exact .relation r

theorem lexical_of_ofKeyword? {c : Char} {cs : List Char} {k : Connective}
    (hc : isConnectiveChar c = true)
    (h : Connective.ofKeyword? (String.ofList (c :: cs)) = some k) :
    Lexical isConnectiveChar (c :: cs) (.connective k) := by
  rcases Connective.ofKeyword?_ofList_eq_some_iff.1 h with htext | hkeyword
  · rw [htext]
    exact .symbol k
  · -- a keyword consists of letters, which are no connective symbols
    have hstart := hkeyword.isNameStart c List.mem_cons_self
    simp only [isConnectiveChar, Bool.or_eq_true, beq_iff_eq] at hc
    rcases hc with rfl | rfl <;> exact absurd hstart (by decide)

/-- What the scanner takes is a lexeme, as long as it can be. -/
theorem lexical_of_scanLexeme {n : Nat} {c : Char} {cs : List Char} {l : Lexeme}
    (h : scanLexeme n c cs = .ok l) :
    ∃ goesOn, Lexical goesOn l.text l.kind ∧ c :: cs = l.text ++ l.rest ∧ Stops goesOn l.rest := by
  -- in the order in which the scanner tries: quotes, numbers, relations, connectives, words
  simp only [scanLexeme] at h
  split at h
  · next hquote =>
      split at h
      · next hscan =>
          obtain ⟨body, rfl, rfl, hbody⟩ := escaped_of_scanQuoted hscan
          cases h
          exact ⟨_, .quoted hquote hbody, rfl, fun _ _ => rfl⟩
      · cases h
      · cases h
  · split at h
    · next hnumber =>
        exact lexical_of_scanRun (isNumberChar_of_isNumberStart hnumber)
          (fun ds kind _ hkind => lexical_of_readNumber hkind) h
    · split at h
      · next hrelation =>
          refine lexical_of_scanRun hrelation (fun ds kind _ hkind => ?_) h
          split at hkind
          · next hr => cases hkind; exact lexical_of_ofSymbol? hr
          · cases hkind
      · split at h
        · next hconnective =>
            refine lexical_of_scanRun hconnective (fun ds kind _ hkind => ?_) h
            split at hkind
            · next hk => cases hkind; exact lexical_of_ofKeyword? hconnective hk
            · cases hkind
        · split at h
          · cases h
          · split at h
            · next hstart =>
                refine lexical_of_scanRun (isNameChar_of_isNameStart hstart)
                  (fun ds kind hds hkind => ?_) h
                cases hkind
                exact lexical_wordKind hstart hds
            · cases h

/-- A lexeme that the text does not go on with is what the scanner takes. -/
theorem Lexical.scanLexeme_eq {goesOn : Char → Bool} {c : Char} {cs rest : List Char}
    {kind : Token.Kind} (h : Lexical goesOn (c :: cs) kind) (hrest : Stops goesOn rest) (n : Nat) :
    scanLexeme n c (cs ++ rest) = .ok ⟨kind, c :: cs, rest⟩ := by
  generalize htext : c :: cs = text at h
  cases h with
  | word hstart hgo hkeyword =>
      obtain ⟨rfl, rfl⟩ := List.cons.inj htext
      rw [scanLexeme_of_isNameStart hstart]
      refine scanRun_eq_ok_iff.2 ⟨rfl, List.forall_mem_cons.2 ⟨?_, hgo⟩, hrest, ?_⟩
      · exact isNameChar_of_isNameStart hstart
      · rw [wordKind_of_not_isKeyword hstart hkeyword]
  | number hform hfinite =>
      subst htext
      obtain ⟨c', cs', hcons, hstart⟩ := hform.exists_cons
      obtain ⟨rfl, rfl⟩ := List.cons.inj hcons
      rw [scanLexeme_of_isNumberStart hstart]
      refine scanRun_eq_ok_iff.2 ⟨rfl, hform.isNumberChar, hrest, ?_⟩
      rw [readNumber_eq_ok_iff.2 ⟨_, hform, rfl, hfinite⟩]
      rfl
  | @quoted quote body value hquote hbody =>
      obtain ⟨rfl, rfl⟩ := List.cons.inj htext
      rw [scanLexeme_of_isQuote hquote, List.append_assoc, List.singleton_append,
        hbody.scanQuoted_eq hquote]
  | relation r =>
      have hall : ∀ d ∈ r.symbol.toList, isRelationChar d = true :=
        List.all_eq_true.1 (by cases r <;> decide)
      have hstart : isRelationChar c = true := hall c (htext ▸ List.mem_cons_self)
      rw [scanLexeme_of_isRelationChar hstart, ← List.cons_append, htext]
      refine scanRun_eq_ok_iff.2 ⟨rfl, hall, hrest, ?_⟩
      rw [String.ofList_toList, Relation.ofSymbol?_symbol]
  | symbol k =>
      have hall : ∀ d ∈ k.symbol.toList, isConnectiveChar d = true :=
        List.all_eq_true.1 (by cases k <;> decide)
      have hstart : isConnectiveChar c = true := hall c (htext ▸ List.mem_cons_self)
      rw [scanLexeme_of_isConnectiveChar hstart, ← List.cons_append, htext]
      refine scanRun_eq_ok_iff.2 ⟨rfl, hall, hrest, ?_⟩
      have hk := Connective.ofKeyword?_ofList_eq_some_iff.2 (Or.inl (rfl : k.symbol.toList = _))
      rw [hk]
  | keyword hkeyword =>
      subst htext
      have hstart := hkeyword.isNameStart
      rw [scanLexeme_of_isNameStart (hstart c List.mem_cons_self)]
      refine scanRun_eq_ok_iff.2 ⟨rfl, fun d hd => isNameChar_of_isNameStart (hstart d hd), hrest, ?_⟩
      rw [wordKind_of_isKeyword hkeyword]

/-- A lexeme is not empty and starts with a character that is not blank. -/
theorem Lexical.exists_cons {goesOn : Char → Bool} {text : List Char} {kind : Token.Kind}
    (h : Lexical goesOn text kind) : ∃ c cs, text = c :: cs ∧ isBlank c = false := by
  cases h with
  | @word c cs hstart _ _ => exact ⟨c, cs, rfl, isBlank_of_isNameStart hstart⟩
  | number hform _ =>
      obtain ⟨c, cs, rfl, hstart⟩ := hform.exists_cons
      refine ⟨c, cs, rfl, ?_⟩
      rw [Bool.or_eq_true, beq_iff_eq] at hstart
      rcases hstart with rfl | hdigit
      · decide
      · exact isBlank_of_isDigit hdigit
  | @quoted quote body value hquote _ =>
      refine ⟨quote, _, rfl, ?_⟩
      simp only [isQuote, Bool.or_eq_true, beq_iff_eq] at hquote
      rcases hquote with rfl | rfl <;> decide
  | relation r => cases r <;> exact ⟨_, _, rfl, by decide⟩
  | symbol k => cases k <;> exact ⟨_, _, rfl, by decide⟩
  | @keyword cs k hkeyword =>
      obtain ⟨c, cs, rfl⟩ := List.exists_cons_of_ne_nil hkeyword.ne_nil
      exact ⟨c, cs, rfl, isBlank_of_isNameStart (hkeyword.isNameStart c List.mem_cons_self)⟩

/-- No lexeme goes on with a blank. -/
theorem Lexical.goesOn_of_isBlank {goesOn : Char → Bool} {text : List Char} {kind : Token.Kind}
    (h : Lexical goesOn text kind) {c : Char} (hc : isBlank c = true) : goesOn c = false := by
  cases h with
  | word _ _ _ => exact isNameChar_of_isBlank hc
  | number _ _ => exact isNumberChar_of_isBlank hc
  | quoted _ _ => rfl
  | relation _ =>
      have hlisted : ∀ c, isRelationChar c = true → c ∈ ['>', '<', '=', '!'] := by
        simp [isRelationChar, or_assoc]
      exact eq_false_of_listed _ hlisted (by decide) hc
  | symbol _ =>
      have hlisted : ∀ c, isConnectiveChar c = true → c ∈ ['&', '|'] := by simp [isConnectiveChar]
      exact eq_false_of_listed _ hlisted (by decide) hc
  | keyword _ => exact isNameChar_of_isBlank hc

/-! ### Texts cut into tokens -/

theorem utf8Len_singleton (c : Char) : utf8Len [c] = c.utf8Size := Nat.zero_add _

/-- **A text cut into tokens.**  Blanks may stand before, between and after the lexemes.  Where two
lexemes touch, the second does not start with a character that the first would have gone on with.
`n` is the place of the text in bytes. -/
inductive Cut : Nat → List Char → List Token → Prop
  | blanks {n : Nat} {ws : List Char} (hws : ∀ c ∈ ws, isBlank c = true) : Cut n ws []
  | lexeme {n : Nat} {ws text rest : List Char} {goesOn : Char → Bool} {kind : Token.Kind}
      {tokens : List Token} (hws : ∀ c ∈ ws, isBlank c = true) (htext : Lexical goesOn text kind)
      (hapart : ∀ c ∈ rest.head?, isBlank c = false → goesOn c = false)
      (hrest : Cut (n + utf8Len ws + utf8Len text) rest tokens) :
      Cut n (ws ++ (text ++ rest)) (⟨kind, n + utf8Len ws, String.ofList text⟩ :: tokens)

/-- A lexeme is one token. -/
theorem Lexical.cut {goesOn : Char → Bool} {text : List Char} {kind : Token.Kind}
    (h : Lexical goesOn text kind) (n : Nat) : Cut n text [⟨kind, n, String.ofList text⟩] := by
  have hnone : ∀ c ∈ ([] : List Char), isBlank c = true := fun _ h => nomatch h
  have hapart : ∀ c ∈ ([] : List Char).head?, isBlank c = false → goesOn c = false :=
    fun _ h => nomatch h
  have hcut := Cut.lexeme (n := n) hnone h hapart (.blanks hnone)
  rw [List.append_nil, List.nil_append] at hcut
  exact hcut

/-- A token that is the whole of a text is a lexeme. -/
theorem Cut.exists_lexical_of_whole {n : Nat} {cs : List Char} {t : Token} (h : Cut n cs [t])
    (htext : t.text.toList = cs) : ∃ goesOn, Lexical goesOn cs t.kind := by
  cases h with
  | @lexeme _ ws text rest goesOn kind tokens hws hlexical _ hrest =>
      -- nothing stands before or after it, as its text is as long as the whole
      have hlength := congrArg List.length htext
      simp only [String.toList_ofList, List.length_append] at hlength
      obtain rfl : ws = [] := List.length_eq_zero_iff.1 (by omega)
      obtain rfl : rest = [] := List.length_eq_zero_iff.1 (by omega)
      rw [List.nil_append, List.append_nil]
      exact ⟨goesOn, hlexical⟩

theorem tokenize_nil (n : Nat) : tokenize n [] = .ok [] := by rw [tokenize]

theorem tokenize_blank {c : Char} (h : isBlank c = true) (n : Nat) (cs : List Char) :
    tokenize n (c :: cs) = tokenize (n + c.utf8Size) cs := by
  rw [tokenize, if_pos h]

theorem tokenize_blanks {ws : List Char} (h : ∀ c ∈ ws, isBlank c = true) (n : Nat)
    (cs : List Char) : tokenize n (ws ++ cs) = tokenize (n + utf8Len ws) cs := by
  induction ws generalizing n with
  | nil => rfl
  | cons c ws ih =>
      rw [List.cons_append, tokenize_blank (h c List.mem_cons_self),
        ih (fun d hd => h d (List.mem_cons_of_mem _ hd)), utf8Len_cons, Nat.add_assoc,
        Nat.add_comm c.utf8Size]

theorem tokenize_of_scanLexeme {n : Nat} {c : Char} {cs : List Char} {l : Lexeme}
    (hblank : isBlank c = false) (h : scanLexeme n c cs = .ok l) :
    tokenize n (c :: cs) = (tokenize (n + utf8Len l.text) l.rest).map
      (⟨l.kind, n, String.ofList l.text⟩ :: ·) := by
  rw [tokenize, if_neg (by rw [hblank]; exact Bool.false_ne_true)]
  split
  · next hscan => rw [h] at hscan; cases hscan
  · next l' hscan =>
      obtain rfl : l = l' := Except.ok.inj (h.symm.trans hscan)
      rw [utf8ByteSize_ofList]
      cases tokenize (n + utf8Len l.text) l.rest <;> rfl

theorem tokenize_of_scanLexeme_error {n : Nat} {c : Char} {cs : List Char} {e : ParseError}
    (hblank : isBlank c = false) (h : scanLexeme n c cs = .error e) :
    tokenize n (c :: cs) = .error e := by
  rw [tokenize, if_neg (by rw [hblank]; exact Bool.false_ne_true)]
  split
  · next e' hscan => exact congrArg Except.error (Except.error.inj (hscan.symm.trans h))
  · next hscan => rw [h] at hscan; cases hscan

/-- A blank before a text that is cut into tokens. -/
theorem Cut.cons_blank {n : Nat} {c : Char} {cs : List Char} {ts : List Token}
    (hc : isBlank c = true) (h : Cut (n + c.utf8Size) cs ts) : Cut n (c :: cs) ts := by
  cases h with
  | blanks hws => exact .blanks (List.forall_mem_cons.2 ⟨hc, hws⟩)
  | @lexeme _ ws text rest goesOn kind tokens hws htext hapart hrest =>
      have hlength : n + c.utf8Size + utf8Len ws = n + utf8Len (c :: ws) := by
        rw [utf8Len_cons, Nat.add_assoc, Nat.add_comm c.utf8Size]
      rw [hlength] at hrest ⊢
      have hblanks : ∀ d ∈ c :: ws, isBlank d = true := List.forall_mem_cons.2 ⟨hc, hws⟩
      exact .lexeme hblanks htext hapart hrest

/-- The tokens of a text are a cut of it. -/
theorem cut_of_tokenize {n : Nat} {cs : List Char} {ts : List Token}
    (h : tokenize n cs = .ok ts) : Cut n cs ts := by
  fun_induction tokenize n cs generalizing ts with
  | case1 n => cases h; exact .blanks (by simp)
  | case2 n c cs hblank ih => exact .cons_blank hblank (ih h)
  | case3 => cases h
  | case4 => cases h
  | case5 n c cs hblank l hscan _ tokens htokens ih =>
      cases h
      obtain ⟨goesOn, htext, hcs, hstops⟩ := lexical_of_scanLexeme hscan
      rw [hcs]
      have hnone : ∀ d ∈ ([] : List Char), isBlank d = true := fun _ h => nomatch h
      have hrest := ih htokens
      rw [utf8ByteSize_ofList] at hrest
      exact .lexeme hnone htext (fun d hd _ => hstops d hd) hrest

/-- No lexeme goes on with the text. -/
def Separates (rest : List Char) : Prop :=
  ∀ (goesOn : Char → Bool) (text : List Char) (kind : Token.Kind),
    Lexical goesOn text kind → Stops goesOn rest

theorem separates_nil : Separates [] := fun goesOn _ _ _ => stops_nil goesOn

theorem separates_of_isBlank {c : Char} (h : isBlank c = true) (cs : List Char) :
    Separates (c :: cs) := fun _ _ _ htext => stops_cons.2 (htext.goesOn_of_isBlank h)

/-- **Cutting is compositional**: the tokens of a text that is cut are followed by those of what comes
after it, provided no lexeme goes on with that. -/
theorem Cut.tokenize_append {n : Nat} {cs : List Char} {ts : List Token} (h : Cut n cs ts)
    {rest : List Char} (hseparates : Separates rest) :
    tokenize n (cs ++ rest) = (tokenize (n + utf8Len cs) rest).map (ts ++ ·) := by
  induction h with
  | blanks hws =>
      rw [tokenize_blanks hws]
      cases tokenize _ rest <;> rfl
  | @lexeme n ws text rest' goesOn kind tokens hws htext hapart _ ih =>
      obtain ⟨c, cs, rfl, hblank⟩ := htext.exists_cons
      -- what follows the lexeme is the rest of the cut text, or `rest` when nothing of it is left
      have hstops : Stops goesOn (rest' ++ rest) := by
        cases rest' with
        | nil => exact hseparates _ _ _ htext
        | cons d rest' =>
            refine stops_cons.2 ?_
            cases hd : isBlank d with
            | true => exact htext.goesOn_of_isBlank hd
            | false => exact hapart d (by simp) hd
      have hlength : n + utf8Len (ws ++ (c :: cs ++ rest')) =
          n + utf8Len ws + utf8Len (c :: cs) + utf8Len rest' := by
        rw [utf8Len_append, utf8Len_append]
        omega
      rw [List.append_assoc, List.append_assoc, tokenize_blanks hws, List.cons_append,
        tokenize_of_scanLexeme hblank (htext.scanLexeme_eq hstops _), ih, hlength]
      cases tokenize _ rest <;> rfl

/-- **A text has the given tokens exactly when it is cut into them.** -/
theorem tokenize_eq_ok_iff {n : Nat} {cs : List Char} {ts : List Token} :
    tokenize n cs = .ok ts ↔ Cut n cs ts := by
  refine ⟨cut_of_tokenize, fun h => ?_⟩
  have happend := h.tokenize_append separates_nil
  rw [List.append_nil, tokenize_nil] at happend
  rw [happend]
  exact congrArg Except.ok (List.append_nil ts)

end Rulebook
