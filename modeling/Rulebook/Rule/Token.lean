/-
**The tokens of rule text.**

Rule text is cut into words, numbers, quoted strings, relation symbols and connectives.  Each token is
as long as it can be: a word takes every character that a name may hold, a number every character that
could belong to one, a symbol every character of its kind.  What was taken is then judged as a whole.

Main definitions:

* `Rulebook.Token` — a token with its place and its text;
* `Rulebook.isNumeral` — the form of a number;
* `Rulebook.scanQuoted` — a quoted string with its escapes;
* `Rulebook.scanLexeme` — the token at the front of a text;
* `Rulebook.tokenize` — all tokens of a text.

Main results:

* `Rulebook.scanLexeme_rest_length` — a token takes at least one character.
-/

import Rulebook.Rule.Expr
import Rulebook.Rule.Error

set_option autoImplicit false

namespace Rulebook

/-- What a token is. -/
inductive Token.Kind where
  /-- A bare word: an attribute on the left of a relation, a text on its right. -/
  | word (name : String)
  | number (value : Float)
  | quoted (text : String)
  | relation (r : Relation)
  | connective (c : Connective)

/-- A token of rule text. -/
structure Token where
  kind : Token.Kind
  /-- Where it starts, counted in bytes. -/
  position : Nat
  /-- The piece of rule text that it is. -/
  text : String

/-- A token read at the front of a text. -/
structure Lexeme where
  kind : Token.Kind
  /-- The characters that it takes. -/
  text : List Char
  /-- What follows it. -/
  rest : List Char

/-! ### Numbers -/

/-- What may belong to a number: whatever could go on with a word, and signs. -/
def isNumberChar (c : Char) : Bool := isNameChar c || c == '-' || c == '+'

/-- What follows a row of at least one digit. -/
def afterDigits? (cs : List Char) : Option (List Char) :=
  if cs.takeWhile Char.isDigit = [] then none else some (cs.dropWhile Char.isDigit)

/-- What follows a fraction, which may be absent. -/
def afterFraction? : List Char → Option (List Char)
  | '.' :: cs => afterDigits? cs
  | cs => some cs

/-- What follows an exponent, which may be absent. -/
def afterExponent? : List Char → Option (List Char)
  | c :: cs => if c = 'e' ∨ c = 'E' then afterDigits? (splitSign cs).2 else some (c :: cs)
  | [] => some []

/-- A text without a minus sign at its front. -/
def dropMinus : List Char → List Char
  | '-' :: cs => cs
  | cs => cs

/-- The form of a number in rule text: digits, with a minus sign before them, a fraction and an
exponent after them if need be. -/
def isNumeral (cs : List Char) : Bool :=
  (((afterDigits? (dropMinus cs)).bind afterFraction?).bind afterExponent?) == some []

/-- The number that a text is. -/
def readNumber (cs : List Char) : Except ParseError.Reason Float :=
  match Decimal.read? cs with
  | some d =>
    if isNumeral cs then
      if d.toFloat.isFinite then .ok d.toFloat else .error .numberOutOfRange
    else .error .invalidNumber
  | none => .error .invalidNumber

/-! ### Quoted strings -/

/-- The character that an escape stands for. -/
def unescape? : Char → Option Char
  | '"' => some '"'
  | '\x27' => some '\x27'
  | '\\' => some '\\'
  | 'n' => some '\n'
  | 't' => some '\t'
  | _ => none

/-- What is wrong with a quoted string. -/
inductive QuoteError where
  /-- The text ends before the closing quote. -/
  | unclosed
  /-- At `offset` bytes after the opening quote, a backslash with a character that it does not go
  with. -/
  | unknownEscape (offset : Nat) (c : Char)
  deriving DecidableEq, Repr

/-- The same error for a string with `n` more bytes at its front. -/
def QuoteError.shift (n : Nat) : QuoteError → QuoteError
  | unclosed => unclosed
  | unknownEscape offset c => unknownEscape (n + offset) c

/-- A quoted string after its opening quote: its value, its characters up to the closing quote, and
what follows. -/
def scanQuoted (quote : Char) : List Char → Except QuoteError (List Char × List Char × List Char)
  | [] => .error .unclosed
  | c :: cs =>
    if c = quote then .ok ([], [c], cs)
    else if c = '\\' then
      match cs with
      | [] => .error .unclosed
      | e :: cs =>
        match unescape? e with
        | none => .error (.unknownEscape 0 e)
        | some v =>
          match scanQuoted quote cs with
          | .ok (value, text, rest) => .ok (v :: value, c :: e :: text, rest)
          | .error error => .error (error.shift (c.utf8Size + e.utf8Size))
    else
      match scanQuoted quote cs with
      | .ok (value, text, rest) => .ok (c :: value, c :: text, rest)
      | .error error => .error (error.shift c.utf8Size)

/-! ### One token -/

/-- Whether a character belongs to relation symbols. -/
def isRelationChar (c : Char) : Bool := c == '>' || c == '<' || c == '=' || c == '!'

/-- Whether a character belongs to the symbols of connectives. -/
def isConnectiveChar (c : Char) : Bool := c == '&' || c == '|'

/-- Whether a character opens a quoted string, and closes it again. -/
def isQuote (c : Char) : Bool := c == '"' || c == '\x27'

/-- What a word is: a connective or a name. -/
def wordKind (s : String) : Token.Kind :=
  match Connective.ofKeyword? s with
  | some c => .connective c
  | none => .word s

/-- The longest run of characters of a class at the front of a text, judged as a whole. -/
def scanRun (position : Nat) (p : Char → Bool)
    (judge : List Char → Except ParseError.Reason Token.Kind) (cs : List Char) :
    Except ParseError Lexeme :=
  let text := cs.takeWhile p
  match judge text with
  | .ok kind => .ok ⟨kind, text, cs.dropWhile p⟩
  | .error reason => .error ⟨position, String.ofList text, reason⟩

/-- The token that starts with `c` and goes on in `cs`, at the given place. -/
def scanLexeme (position : Nat) (c : Char) (cs : List Char) : Except ParseError Lexeme :=
  if isQuote c then
    match scanQuoted c cs with
    | .ok (value, text, rest) => .ok ⟨.quoted (String.ofList value), c :: text, rest⟩
    | .error .unclosed => .error ⟨position, String.ofList (c :: cs), .unclosedString⟩
    | .error (.unknownEscape offset e) =>
      .error ⟨position + c.utf8Size + offset, String.ofList ['\\', e], .unknownEscape⟩
  else if c == '-' || c.isDigit then
    scanRun position isNumberChar (fun text => (readNumber text).map .number) (c :: cs)
  else if isRelationChar c then
    scanRun position isRelationChar (fun text =>
      match Relation.ofSymbol? (String.ofList text) with
      | some r => .ok (.relation r)
      | none => .error .unknownRelation) (c :: cs)
  else if isConnectiveChar c then
    scanRun position isConnectiveChar (fun text =>
      match Connective.ofKeyword? (String.ofList text) with
      | some k => .ok (.connective k)
      | none => .error .unknownConnective) (c :: cs)
  else if c == '(' || c == ')' then .error ⟨position, String.ofList [c], .grouping⟩
  else if isNameStart c then
    scanRun position isNameChar (fun text => .ok (wordKind (String.ofList text))) (c :: cs)
  else .error ⟨position, String.ofList [c], .unknownCharacter⟩

/-! ### A token takes at least one character -/

theorem scanQuoted_rest_length {quote : Char} {cs value text rest : List Char}
    (h : scanQuoted quote cs = .ok (value, text, rest)) : rest.length < cs.length := by
  fun_induction scanQuoted quote cs generalizing value text rest with
  | case1 => cases h
  | case2 => cases h; simp
  | case3 => cases h
  | case4 => cases h
  | case5 =>
    rename_i hr _ ih
    cases h
    have := ih hr
    simp only [List.length_cons]
    omega
  | case6 => cases h
  | case7 =>
    rename_i hr ih
    cases h
    have := ih hr
    simp only [List.length_cons]
    omega
  | case8 => cases h

theorem scanRun_rest_length {position : Nat} {p : Char → Bool}
    {judge : List Char → Except ParseError.Reason Token.Kind} {c : Char} {cs : List Char} {l : Lexeme}
    (hc : p c = true) (h : scanRun position p judge (c :: cs) = .ok l) :
    l.rest.length < (c :: cs).length := by
  simp only [scanRun] at h
  split at h
  · cases h
    rw [List.dropWhile_cons, if_pos hc]
    exact Nat.lt_succ_of_le (List.dropWhile_suffix p).length_le
  · cases h

theorem isNameChar_of_isDigit {c : Char} (h : c.isDigit = true) : isNameChar c = true := by
  have hc : CharSet.covers CharSet.numeric.ranges c.toNat = true := by
    simp only [Char.isDigit, ge_iff_le, Bool.and_eq_true, decide_eq_true_eq] at h
    have h₁ : 0x30 ≤ c.toNat := h.1
    have h₂ : c.toNat ≤ 0x39 := h.2
    rw [show CharSet.numeric.ranges = (0x30, 0x39) :: CharSet.numeric.ranges.tail from rfl,
      CharSet.covers_cons, decide_eq_true h₁, decide_eq_true h₂]
    rfl
  simp [isNameChar, isAlphanumeric, CharSet.contains, hc]

/-- A token takes at least one character. -/
theorem scanLexeme_rest_length {position : Nat} {c : Char} {cs : List Char} {l : Lexeme}
    (h : scanLexeme position c cs = .ok l) : l.rest.length < (c :: cs).length := by
  simp only [scanLexeme] at h
  split at h
  · split at h
    · next hq => cases h; exact Nat.lt_succ_of_lt (scanQuoted_rest_length hq)
    · cases h
    · cases h
  · split at h
    · next hc =>
      refine scanRun_rest_length ?_ h
      simp only [Bool.or_eq_true, beq_iff_eq] at hc
      rcases hc with hc | hc
      · simp [isNumberChar, hc]
      · simp [isNumberChar, isNameChar_of_isDigit hc]
    · split at h
      · next hc => exact scanRun_rest_length hc h
      · split at h
        · next hc => exact scanRun_rest_length hc h
        · split at h
          · cases h
          · split at h
            · next hc => exact scanRun_rest_length (isNameChar_of_isNameStart hc) h
            · cases h

/-! ### All tokens -/

/-- The tokens of a text that starts at the given place. -/
def tokenize (position : Nat) (cs : List Char) : Except ParseError (List Token) :=
  match cs with
  | [] => .ok []
  | c :: cs =>
    if isBlank c then tokenize (position + c.utf8Size) cs
    else
      match h : scanLexeme position c cs with
      | .error e => .error e
      | .ok l =>
        have := scanLexeme_rest_length h
        match tokenize (position + (String.ofList l.text).utf8ByteSize) l.rest with
        | .error e => .error e
        | .ok ts => .ok (⟨l.kind, position, String.ofList l.text⟩ :: ts)
termination_by cs.length
decreasing_by all_goals simp only [List.length_cons] at *; omega

end Rulebook
