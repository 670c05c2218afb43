/-
**Every error points at a piece of the text.**

The tokens of a text can be taken from it by their bytes: from where a token starts to where the scanner
has come.  A piece can only be taken between two places that lie in the text and inside no character.
Here the tokens are taken in that way, by the bytes that each scanner counts, and nothing fails: the
pieces are those that the characters make up.  So what an error tells is always a piece of the text, at
the byte that the error tells, and it is empty only where the text ends.

Main definitions:

* `Rulebook.slice?` — the piece of a text between two bytes, if there is one;
* `Rulebook.sliceRun`, `Rulebook.sliceQuoted`, `Rulebook.sliceTokens` — tokens that are taken from a text
  by their bytes.

Main results:

* `Rulebook.slice?_of_toList` — what can be taken from a text;
* `Rulebook.sliceTokens_eq` — tokens are taken from any text without fail, and are those of its
  characters;
* `Rulebook.parse_error_points_at_text` — **an error tells a piece of the text and where it is**.
-/

import Rulebook.Proofs.EarliestError

set_option autoImplicit false

namespace Rulebook

open String (utf8ByteSize_ofList utf8Len utf8Len_append utf8Len_cons utf8Len_toList)

/-! ### Pieces between two bytes -/

/-- The piece of a text between two bytes.  There is none if one of them is beyond the text or inside a
character, or if they are the wrong way round. -/
def slice? (text : String) (i j : Nat) : Option String :=
  if h : (⟨i⟩ : String.Pos.Raw).IsValid text ∧ (⟨j⟩ : String.Pos.Raw).IsValid text ∧ i ≤ j then
    some (text.extract (text.pos ⟨i⟩ h.1) (text.pos ⟨j⟩ h.2.1))
  else none

example : slice? "é!" 2 3 = some "!" ∧ slice? "é!" 1 3 = none ∧ slice? "é!" 2 4 = none := by
  decide +kernel

/-- The byte at which a first part of a text ends lies inside no character. -/
theorem isValid_append (before after : String) :
    (⟨before.utf8ByteSize⟩ : String.Pos.Raw).IsValid (before ++ after) :=
  String.Pos.Raw.isValid_iff_exists_append.2 ⟨before, after, rfl, rfl⟩

theorem slice?_append (before piece after : String) :
    slice? (before ++ piece ++ after) before.utf8ByteSize
      (before.utf8ByteSize + piece.utf8ByteSize) = some piece := by
  have hstart := isValid_append before (piece ++ after)
  have hend := isValid_append (before ++ piece) after
  rw [← String.append_assoc] at hstart
  rw [String.utf8ByteSize_append] at hend
  rw [slice?, dif_pos ⟨hstart, hend, Nat.le_add_right _ _⟩, Option.some_inj, ← String.toByteArray_inj]
  -- the bytes of the piece come after those of what is before it
  have hbytes := ByteArray.extract_append_size_add (a := before.toByteArray)
    (b := piece.toByteArray ++ after.toByteArray) (i := 0) (j := piece.toByteArray.size)
  rw [Nat.add_zero, ByteArray.extract_append_eq_left rfl] at hbytes
  simpa only [String.extract, String.offset_pos, String.toByteArray_append, ByteArray.append_assoc,
    ← String.size_toByteArray] using hbytes

/-- **What can be taken from a text**: any of its pieces, by the bytes of its characters. -/
theorem slice?_of_toList {text : String} {before piece after : List Char}
    (h : text.toList = before ++ (piece ++ after)) {i j : Nat} (hi : i = utf8Len before)
    (hj : j = i + utf8Len piece) : slice? text i j = some (String.ofList piece) := by
  have htext : text = String.ofList before ++ String.ofList piece ++ String.ofList after := by
    rw [← String.ofList_append, ← String.ofList_append, List.append_assoc, ← h, String.ofList_toList]
  have hpiece := slice?_append (String.ofList before) (String.ofList piece) (String.ofList after)
  rwa [← htext, utf8ByteSize_ofList, utf8ByteSize_ofList, ← hi, ← hj] at hpiece

/-! ### Tokens taken by their bytes -/

/-- A token that is taken from a text, and where the scanner has come. -/
structure Taken where
  token : Token
  /-- The byte that comes next. -/
  next : Nat
  /-- The characters that come next. -/
  rest : List Char

/-- The byte at which the longest run of characters of a class ends. -/
def runEnd (p : Char → Bool) (n : Nat) : List Char → Nat
  | [] => n
  | c :: cs => if p c then runEnd p (n + c.utf8Size) cs else n

/-- The longest run of characters of a class is taken and judged as a whole. -/
def sliceRun (text : String) (n : Nat) (p : Char → Bool)
    (judge : String → Except ParseError.Reason Token.Kind) (cs : List Char) :
    Option (Except ParseError Taken) :=
  (slice? text n (runEnd p n cs)).map fun piece =>
    match judge piece with
    | .ok kind => .ok ⟨⟨kind, n, piece⟩, runEnd p n cs, cs.dropWhile p⟩
    | .error reason => .error ⟨n, piece, reason⟩

/-- The rest of the text is taken, for want of a closing quote. -/
def sliceUnclosed (text : String) (start : Nat) : Option (Except ParseError Taken) :=
  (slice? text start text.utf8ByteSize).map fun piece => .error ⟨start, piece, .unclosedString⟩

/-- A quoted string is taken that starts at one byte and has been scanned up to another.  `value` is what
its characters stand for so far; its closing quote is one byte long. -/
def sliceQuoted (text : String) (quote : Char) (start n : Nat) (value : List Char) :
    List Char → Option (Except ParseError Taken)
  | [] => sliceUnclosed text start
  | c :: cs =>
    if c = quote then
      (slice? text start (n + 1)).map fun piece =>
        .ok ⟨⟨.quoted (String.ofList value), start, piece⟩, n + c.utf8Size, cs⟩
    else if c = '\\' then
      match cs with
      | [] => sliceUnclosed text start
      | e :: cs =>
        match unescape? e with
        | none => (slice? text n (n + c.utf8Size + e.utf8Size)).map fun piece =>
            .error ⟨n, piece, .unknownEscape⟩
        | some v => sliceQuoted text quote start (n + c.utf8Size + e.utf8Size) (value ++ [v]) cs
    else sliceQuoted text quote start (n + c.utf8Size) (value ++ [c]) cs

/-- The token that starts with `c` and goes on in `cs`, taken at the given byte. -/
def sliceLexeme (text : String) (n : Nat) (c : Char) (cs : List Char) :
    Option (Except ParseError Taken) :=
  if isQuote c then sliceQuoted text c n (n + c.utf8Size) [] cs
  else if c == '-' || c.isDigit then
    sliceRun text n isNumberChar (fun piece => (readNumber piece.toList).map .number) (c :: cs)
  else if isRelationChar c then
    sliceRun text n isRelationChar (fun piece =>
      match Relation.ofSymbol? piece with
      | some r => .ok (.relation r)
      | none => .error .unknownRelation) (c :: cs)
  else if isConnectiveChar c then
    sliceRun text n isConnectiveChar (fun piece =>
      match Connective.ofKeyword? piece with
      | some k => .ok (.connective k)
      | none => .error .unknownConnective) (c :: cs)
  else if c == '(' || c == ')' then some (.error ⟨n, String.ofList [c], .grouping⟩)
  else if isNameStart c then
    sliceRun text n isNameChar (fun piece => .ok (wordKind piece)) (c :: cs)
  else some (.error ⟨n, String.ofList [c], .unknownCharacter⟩)

theorem sliceRun_rest_length {text : String} {n : Nat} {p : Char → Bool}
    {judge : String → Except ParseError.Reason Token.Kind} {c : Char} {cs : List Char} {t : Taken}
    (hc : p c = true) (h : sliceRun text n p judge (c :: cs) = some (.ok t)) :
    t.rest.length < (c :: cs).length := by
  obtain ⟨piece, -, hpiece⟩ := Option.map_eq_some_iff.1 h
  split at hpiece
  · cases hpiece
    rw [List.dropWhile_cons, if_pos hc]
    exact Nat.lt_succ_of_le (List.dropWhile_suffix p).length_le
  · cases hpiece

theorem sliceUnclosed_ne_ok {text : String} {start : Nat} {t : Taken} :
    sliceUnclosed text start ≠ some (.ok t) := by
  intro h
  obtain ⟨piece, -, hpiece⟩ := Option.map_eq_some_iff.1 h
  cases hpiece

theorem sliceQuoted_rest_length {text : String} {q : Char} {start n : Nat} {value cs : List Char}
    {t : Taken} (h : sliceQuoted text q start n value cs = some (.ok t)) :
    t.rest.length < cs.length := by
  fun_induction sliceQuoted text q start n value cs with
  | case1 => exact absurd h sliceUnclosed_ne_ok
  | case2 =>
      obtain ⟨piece, -, hpiece⟩ := Option.map_eq_some_iff.1 h
      cases hpiece
      exact Nat.lt_succ_self _
  | case3 => exact absurd h sliceUnclosed_ne_ok
  | case4 =>
      obtain ⟨piece, -, hpiece⟩ := Option.map_eq_some_iff.1 h
      cases hpiece
  | case5 n value d cs v hv hquote ih => exact Nat.lt_succ_of_lt (Nat.lt_succ_of_lt (ih h))
  | case6 n value c cs hquote hc ih => exact Nat.lt_succ_of_lt (ih h)

/-- A token takes at least one character. -/
theorem sliceLexeme_rest_length {text : String} {n : Nat} {c : Char} {cs : List Char} {t : Taken}
    (h : sliceLexeme text n c cs = some (.ok t)) : t.rest.length < (c :: cs).length := by
  unfold sliceLexeme at h
  split at h
  · exact Nat.lt_succ_of_lt (sliceQuoted_rest_length h)
  · split at h
    · next hc => exact sliceRun_rest_length (isNumberChar_of_isNumberStart hc) h
    · split at h
      · next hc => exact sliceRun_rest_length hc h
      · split at h
        · next hc => exact sliceRun_rest_length hc h
        · split at h
          · cases h
          · split at h
            · next hc => exact sliceRun_rest_length (isNameChar_of_isNameStart hc) h
            · cases h

/-- All tokens of the characters that come at the given byte of a text, each taken by its bytes.  There
is no result if a piece cannot be taken. -/
def sliceTokens (text : String) (n : Nat) (cs : List Char) :
    Option (Except ParseError (List Token)) :=
  match cs with
  | [] => some (.ok [])
  | c :: cs =>
    if isBlank c then sliceTokens text (n + c.utf8Size) cs
    else
      match h : sliceLexeme text n c cs with
      | none => none
      | some (.error e) => some (.error e)
      | some (.ok t) =>
        have := sliceLexeme_rest_length h
        (sliceTokens text t.next t.rest).map (Except.map (t.token :: ·))
termination_by cs.length
decreasing_by all_goals simp only [List.length_cons] at *; omega

theorem sliceTokens_of_error {text : String} {n : Nat} {c : Char} {cs : List Char} {e : ParseError}
    (hblank : ¬isBlank c = true) (h : sliceLexeme text n c cs = some (.error e)) :
    sliceTokens text n (c :: cs) = some (.error e) := by
  rw [sliceTokens, if_neg hblank]
  split <;> next h' => rw [h] at h'; cases h' <;> rfl

theorem sliceTokens_of_taken {text : String} {n : Nat} {c : Char} {cs : List Char} {t : Taken}
    (hblank : ¬isBlank c = true) (h : sliceLexeme text n c cs = some (.ok t)) :
    sliceTokens text n (c :: cs) =
      (sliceTokens text t.next t.rest).map (Except.map (t.token :: ·)) := by
  rw [sliceTokens, if_neg hblank]
  split <;> next h' => rw [h] at h'; cases h' <;> rfl

/-! ### Nothing fails -/

theorem runEnd_eq (p : Char → Bool) (n : Nat) (cs : List Char) :
    runEnd p n cs = n + utf8Len (cs.takeWhile p) := by
  induction cs generalizing n with
  | nil => rfl
  | cons c cs ih =>
      rw [runEnd, List.takeWhile_cons]
      by_cases hc : p c = true
      · rw [if_pos hc, if_pos hc, ih, utf8Len_cons, Nat.add_assoc, Nat.add_comm c.utf8Size]
      · rw [if_neg hc, if_neg hc]
        rfl

/-- What is taken for a lexeme. -/
def Taken.ofLexeme (n : Nat) (l : Lexeme) : Taken :=
  ⟨⟨l.kind, n, String.ofList l.text⟩, n + utf8Len l.text, l.rest⟩

section Taking

variable {text : String} {before front cs : List Char} {n : Nat}

theorem sliceRun_eq (htext : text.toList = before ++ cs) (hn : n = utf8Len before)
    {p : Char → Bool} {judge : String → Except ParseError.Reason Token.Kind}
    {judge' : List Char → Except ParseError.Reason Token.Kind}
    (hjudge : ∀ piece, judge (String.ofList piece) = judge' piece) :
    sliceRun text n p judge cs = some ((scanRun n p judge' cs).map (Taken.ofLexeme n)) := by
  rw [← List.takeWhile_append_dropWhile (p := p) (l := cs)] at htext
  have hend := runEnd_eq p n cs
  rw [sliceRun, hend, slice?_of_toList htext hn rfl, Option.map_some, hjudge, scanRun]
  cases judge' (cs.takeWhile p) <;> rfl

/-- What is taken for a quoted string of which a first part has been scanned. -/
def quotedTaken (start n : Nat) (value front cs : List Char) :
    Except QuoteError (List Char × List Char × List Char) → Except ParseError Taken
  | .ok (more, piece, rest) => .ok ⟨⟨.quoted (String.ofList (value ++ more)), start,
      String.ofList (front ++ piece)⟩, n + utf8Len piece, rest⟩
  | .error .unclosed => .error ⟨start, String.ofList (front ++ cs), .unclosedString⟩
  | .error (.unknownEscape offset e) =>
      .error ⟨n + offset, String.ofList ['\\', e], .unknownEscape⟩

/-- The same is taken if a few characters more have been scanned, which stand for one. -/
theorem quotedTaken_step (start n : Nat) (value front cs : List Char) {ds : List Char} {bytes : Nat}
    (hds : utf8Len ds = bytes) (v : Char)
    (r : Except QuoteError (List Char × List Char × List Char)) :
    quotedTaken start (n + bytes) (value ++ [v]) (front ++ ds) cs r =
      quotedTaken start n value front (ds ++ cs)
        (match r with
          | .ok (more, piece, rest) => .ok (v :: more, ds ++ piece, rest)
          | .error e => .error (e.shift bytes)) := by
  subst hds
  match r with
  | .ok (more, piece, rest) => simp [quotedTaken, utf8Len_append, Nat.add_assoc]
  | .error .unclosed => simp [quotedTaken, QuoteError.shift]
  | .error (.unknownEscape offset e) => simp [quotedTaken, QuoteError.shift, Nat.add_assoc]

theorem sliceUnclosed_eq (htext : text.toList = before ++ cs) :
    sliceUnclosed text (utf8Len before) =
      some (.error ⟨utf8Len before, String.ofList cs, .unclosedString⟩) := by
  have hend : text.utf8ByteSize = utf8Len before + utf8Len cs := by
    rw [← utf8Len_toList, htext, utf8Len_append]
  rw [← List.append_nil cs] at htext
  rw [sliceUnclosed, slice?_of_toList htext rfl hend]
  rfl

theorem utf8Len_escape (e : Char) : utf8Len ['\\', e] = '\\'.utf8Size + e.utf8Size := by
  rw [utf8Len_cons, utf8Len_singleton, Nat.add_comm]

/-- A quoted string is taken without fail, whatever part of it has been scanned. -/
theorem sliceQuoted_eq {q : Char} (hq : q.utf8Size = 1)
    (htext : text.toList = before ++ (front ++ cs))
    (hn : n = utf8Len before + utf8Len front) (value : List Char) :
    sliceQuoted text q (utf8Len before) n value cs =
      some (quotedTaken (utf8Len before) n value front cs (scanQuoted q cs)) := by
  fun_induction sliceQuoted text q (utf8Len before) n value cs generalizing front with
  | case1 => exact sliceUnclosed_eq htext
  | case2 n value cs =>
      have hpiece : text.toList = before ++ ((front ++ [q]) ++ cs) := by simp [htext]
      have hend : n + 1 = utf8Len before + utf8Len (front ++ [q]) := by
        rw [utf8Len_append, utf8Len_singleton, hq, hn, Nat.add_assoc]
      unfold scanQuoted
      rw [slice?_of_toList hpiece rfl hend, if_pos rfl]
      simp [quotedTaken, hq]
  | case3 n value hquote =>
      unfold scanQuoted
      rw [if_neg hquote, if_pos rfl]
      exact sliceUnclosed_eq htext
  | case4 n value e cs hnone hquote =>
      have hpiece : text.toList = (before ++ front) ++ (['\\', e] ++ cs) := by simp [htext]
      have hstart : n = utf8Len (before ++ front) := by rw [utf8Len_append, hn]
      have hend : n + '\\'.utf8Size + e.utf8Size = n + utf8Len ['\\', e] := by
        rw [utf8Len_escape, Nat.add_assoc]
      rw [slice?_of_toList hpiece hstart hend, scanQuoted, if_neg hquote, if_pos rfl, hnone]
      rfl
  | case5 n value e cs v hv hquote ih =>
      have hmore : text.toList = before ++ ((front ++ ['\\', e]) ++ cs) := by simp [htext]
      have hplace : n + '\\'.utf8Size + e.utf8Size =
          utf8Len before + utf8Len (front ++ ['\\', e]) := by
        rw [utf8Len_append, utf8Len_escape, hn, Nat.add_assoc, Nat.add_assoc]
      have hstep := quotedTaken_step (utf8Len before) n value front cs (utf8Len_escape e) v
        (scanQuoted q cs)
      rw [ih hmore hplace, Nat.add_assoc, hstep, scanQuoted, if_neg hquote, if_pos rfl, hv]
      rfl
  | case6 n value c cs hquote hc ih =>
      have hmore : text.toList = before ++ ((front ++ [c]) ++ cs) := by simp [htext]
      have hplace : n + c.utf8Size = utf8Len before + utf8Len (front ++ [c]) := by
        rw [utf8Len_append, utf8Len_singleton, hn, Nat.add_assoc]
      have hstep := quotedTaken_step (utf8Len before) n value front cs (utf8Len_singleton c) c
        (scanQuoted q cs)
      unfold scanQuoted
      rw [ih hmore hplace, hstep, if_neg hquote, if_neg hc]
      rfl

/-- A closing quote is one byte long. -/
theorem utf8Size_of_isQuote {c : Char} (h : isQuote c = true) : c.utf8Size = 1 := by
  simp only [isQuote, Bool.or_eq_true, beq_iff_eq] at h
  rcases h with rfl | rfl <;> decide

/-- **A token is taken without fail**, and it is the one that the characters make up. -/
theorem sliceLexeme_eq {c : Char} (htext : text.toList = before ++ c :: cs)
    (hn : n = utf8Len before) :
    sliceLexeme text n c cs = some ((scanLexeme n c cs).map (Taken.ofLexeme n)) := by
  unfold sliceLexeme scanLexeme
  by_cases hquote : isQuote c = true
  · rw [if_pos hquote, if_pos hquote]
    have hplace : n + c.utf8Size = utf8Len before + utf8Len [c] := by rw [hn, utf8Len_singleton]
    have htaken : sliceQuoted text c (utf8Len before) (n + c.utf8Size) [] cs =
        some (quotedTaken _ (n + c.utf8Size) [] [c] cs (scanQuoted c cs)) :=
      sliceQuoted_eq (utf8Size_of_isQuote hquote) htext hplace []
    rw [← hn] at htaken
    rw [htaken]
    match scanQuoted c cs with
    | .ok (value, piece, rest) =>
        simp [quotedTaken, Except.map, Taken.ofLexeme, Nat.add_assoc, Nat.add_comm c.utf8Size]
    | .error .unclosed => rfl
    | .error (.unknownEscape offset e) => rfl
  · rw [if_neg hquote, if_neg hquote]
    -- in the order in which the scanner tries: numbers, relations, connectives, the rest
    split
    · exact sliceRun_eq htext hn fun piece => by rw [String.toList_ofList]
    · split
      · exact sliceRun_eq htext hn fun piece => rfl
      · split
        · exact sliceRun_eq htext hn fun piece => rfl
        · split
          · rfl
          · split
            · exact sliceRun_eq htext hn fun piece => rfl
            · rfl

/-- After a lexeme the rest of the text is taken. -/
theorem sliceTokens_of_scanLexeme {c : Char} {l : Lexeme} (htext : text.toList = before ++ c :: cs)
    (hn : n = utf8Len before) (hblank : ¬isBlank c = true) (hscan : scanLexeme n c cs = .ok l) :
    text.toList = (before ++ l.text) ++ l.rest ∧
      n + utf8Len l.text = utf8Len (before ++ l.text) ∧
      sliceTokens text n (c :: cs) = (sliceTokens text (n + utf8Len l.text) l.rest).map
        (Except.map (⟨l.kind, n, String.ofList l.text⟩ :: ·)) := by
  have htaken := sliceLexeme_eq htext hn
  rw [hscan] at htaken
  obtain ⟨_, -, hcs, -⟩ := lexical_of_scanLexeme hscan
  refine ⟨?_, ?_, sliceTokens_of_taken hblank htaken⟩
  · rw [htext, hcs, List.append_assoc]
  · rw [utf8Len_append, hn]

end Taking

/-- **Tokens are taken from any text without fail**, and they are those of its characters. -/
theorem sliceTokens_eq {text : String} {n : Nat} {cs : List Char} {before : List Char}
    (htext : text.toList = before ++ cs) (hn : n = utf8Len before) :
    sliceTokens text n cs = some (tokenize n cs) := by
  fun_induction tokenize n cs generalizing before with
  | case1 => rw [sliceTokens]
  | case2 n c cs hblank ih =>
      have hrest : text.toList = (before ++ [c]) ++ cs := by simp [htext]
      rw [sliceTokens, if_pos hblank]
      exact ih hrest (by rw [utf8Len_append, utf8Len_singleton, hn])
  | case3 n c cs hblank e hscan =>
      have htaken := sliceLexeme_eq htext hn
      rw [hscan] at htaken
      exact sliceTokens_of_error hblank htaken
  | case4 n c cs hblank l hscan _ e hrest ih =>
      obtain ⟨hafter, hplace, htaken⟩ := sliceTokens_of_scanLexeme htext hn hblank hscan
      rw [← utf8ByteSize_ofList] at hplace
      rw [htaken, ← utf8ByteSize_ofList, ih hafter hplace, hrest]
      rfl
  | case5 n c cs hblank l hscan _ ts hrest ih =>
      obtain ⟨hafter, hplace, htaken⟩ := sliceTokens_of_scanLexeme htext hn hblank hscan
      rw [← utf8ByteSize_ofList] at hplace
      rw [htaken, ← utf8ByteSize_ofList, ih hafter hplace, hrest]
      rfl

/-! ### Errors -/

/-- A piece of a text that stands at a byte, told by the two parts of the text beside it. -/
theorem Stands.exists_append {text piece : String} {m : Nat}
    (h : Stands 0 text.toList m piece.toList) :
    ∃ before after : String, text = before ++ piece ++ after ∧ before.utf8ByteSize = m := by
  obtain ⟨before, after, htext, rfl⟩ := h
  refine ⟨String.ofList before, String.ofList after, ?_, ?_⟩
  · rw [← String.ofList_toList (s := text), htext, String.ofList_append, String.ofList_append,
      String.ofList_toList, String.append_assoc]
  · rw [utf8ByteSize_ofList, Nat.zero_add]

/-- An error tells a piece of the text that is not empty, or the end of the text. -/
theorem parse_error_stands {rule : String} {e : ParseError} (h : parse rule = .error e) :
    (Stands 0 rule.toList e.position e.token.toList ∧ e.token.toList ≠ []) ∨
      (e.position = rule.utf8ByteSize ∧ e.token = "") := by
  obtain htokens | ⟨ts, htokens, hrefused⟩ := refused_of_parse h
  · exact .inl (tokenize_error_stands htokens)
  · cases refused_of_parseTokens hrefused with
    | @token before after t a hts _ _ hposition htext =>
        rw [hposition, htext]
        refine .inl ((cut_of_tokenize htokens).stands t ?_)
        rw [hts]
        exact List.mem_append_right _ List.mem_cons_self
    | ending _ _ hposition htext => exact .inr ⟨hposition, htext⟩

/-- **An error tells a piece of the text and where it is.**  The tokens of any text can be taken from it
by their bytes, with no piece that is beyond the text or starts or ends inside a character.  Where an error
is, is no further than the end of the text and inside no character; what it tells is the piece of the text
that starts there; and it tells nothing exactly where the text ends. -/
theorem parse_error_points_at_text (rule : String) :
    sliceTokens rule 0 rule.toList = some (tokenize 0 rule.toList) ∧
      ∀ error, parse rule = .error error →
        error.position ≤ rule.utf8ByteSize ∧
        (⟨error.position⟩ : String.Pos.Raw).IsValid rule ∧
        (∃ before after : String, rule = before ++ error.token ++ after ∧
          before.utf8ByteSize = error.position) ∧
        (error.token = "" ↔ error.position = rule.utf8ByteSize) := by
  have hwhole : rule.toList = [] ++ rule.toList := rfl
  refine ⟨sliceTokens_eq hwhole rfl, fun error h => ?_⟩
  have hplace : (∃ before after : String, rule = before ++ error.token ++ after ∧
      before.utf8ByteSize = error.position) ∧
      (error.token = "" ↔ error.position = rule.utf8ByteSize) := by
    rcases parse_error_stands h with ⟨hstands, hne⟩ | ⟨hend, htoken⟩
    · have hlt := hstands.lt_end hne
      rw [utf8Len_toList, Nat.zero_add] at hlt
      refine ⟨hstands.exists_append, iff_of_false ?_ (Nat.ne_of_lt hlt)⟩
      exact fun htoken => hne (String.toList_eq_nil_iff.2 htoken)
    · exact ⟨⟨rule, "", by rw [htoken, String.append_empty, String.append_empty], hend.symm⟩,
        iff_of_true htoken hend⟩
  obtain ⟨⟨before, after, htext, hposition⟩, htoken⟩ := hplace
  have hvalid := isValid_append before (error.token ++ after)
  rw [← String.append_assoc, ← htext, hposition] at hvalid
  refine ⟨?_, hvalid, ⟨before, after, htext, hposition⟩, htoken⟩
  rw [htext, String.utf8ByteSize_append, String.utf8ByteSize_append, hposition, Nat.add_assoc]
  exact Nat.le_add_right _ _

/-- A backslash that goes with nothing, after letters of two bytes each. -/
theorem parse_escape_after_umlauts :
    parse "größe == 'über\\q'" = .error ⟨17, "\\q", .unknownEscape⟩ ∧
      (⟨17⟩ : String.Pos.Raw).IsValid "größe == 'über\\q'" ∧
      (∃ before after : String, "größe == 'über\\q'" = before ++ "\\q" ++ after ∧
        before.utf8ByteSize = 17) ∧
      17 ≠ "größe == 'über\\q'".utf8ByteSize := by
  have herror : parse "größe == 'über\\q'" = .error ⟨17, "\\q", .unknownEscape⟩ :=
    eq_error_of_match (by decide +kernel)
  obtain ⟨-, hvalid, hpiece, hends⟩ := (parse_error_points_at_text _).2 _ herror
  exact ⟨herror, hvalid, hpiece, mt hends.2 (by decide)⟩

end Rulebook
