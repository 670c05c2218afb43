/-
**Where tokens and faults stand in a text.**

A token tells a piece of the text and the byte at which it starts, and so does an error of the lexer.
Both are taken at their word here: the piece is found in the text at just that byte.  Tokens are not
empty and do not overlap, so no two of them start at the same byte.

Main definitions:

* `Rulebook.Stands` — a piece of a text, found at a byte.

Main results:

* `Rulebook.Cut.stands`, `Rulebook.Cut.pairwise_positions` — the tokens of a text, one after another;
* `Rulebook.Cut.split_eq` — the place of a token tells which one it is;
* `Rulebook.tokenize_error_stands` — what is no token, where it is.
-/

import Rulebook.Proofs.Lexeme

set_option autoImplicit false

namespace Rulebook

open String (utf8ByteSize_ofList utf8Len utf8Len_append utf8Len_cons utf8Len_eq_zero utf8Len_toList)

/-! ### Pieces of a text -/

/-- In a text that starts at byte `n`, the piece stands at byte `m`. -/
def Stands (n : Nat) (text : List Char) (m : Nat) (piece : List Char) : Prop :=
  ∃ before after, text = before ++ (piece ++ after) ∧ m = n + utf8Len before

theorem stands_front (n : Nat) (piece after : List Char) : Stands n (piece ++ after) n piece :=
  ⟨[], after, rfl, rfl⟩

theorem stands_self (n : Nat) (text : List Char) : Stands n text n text :=
  ⟨[], [], (List.append_nil _).symm, rfl⟩

/-- A piece stands where it stood when more text is put before. -/
theorem Stands.append_left {n m : Nat} {front text piece : List Char}
    (h : Stands (n + utf8Len front) text m piece) : Stands n (front ++ text) m piece := by
  obtain ⟨before, after, rfl, rfl⟩ := h
  refine ⟨front ++ before, after, (List.append_assoc _ _ _).symm, ?_⟩
  rw [utf8Len_append, Nat.add_assoc]

theorem Stands.le {n m : Nat} {text piece : List Char} (h : Stands n text m piece) : n ≤ m := by
  obtain ⟨before, after, -, rfl⟩ := h
  exact Nat.le_add_right _ _

/-- A piece ends where the text ends at the latest. -/
theorem Stands.end_le {n m : Nat} {text piece : List Char} (h : Stands n text m piece) :
    m + utf8Len piece ≤ n + utf8Len text := by
  obtain ⟨before, after, rfl, rfl⟩ := h
  rw [utf8Len_append, utf8Len_append]
  omega

/-- A piece that is not empty starts before the text ends. -/
theorem Stands.lt_end {n m : Nat} {text piece : List Char} (h : Stands n text m piece)
    (hpiece : piece ≠ []) : m < n + utf8Len text := by
  have hpos : 0 < utf8Len piece := Nat.pos_of_ne_zero (mt utf8Len_eq_zero.1 hpiece)
  exact Nat.lt_of_lt_of_le (Nat.lt_add_of_pos_right hpos) h.end_le

/-! ### Tokens -/

/-- A token is a piece of the text and not empty. -/
theorem Cut.stands {n : Nat} {cs : List Char} {ts : List Token} (h : Cut n cs ts) :
    ∀ t ∈ ts, Stands n cs t.position t.text.toList ∧ t.text.toList ≠ [] := by
  induction h with
  | blanks _ => exact fun t ht => by cases ht
  | @lexeme n ws text rest goesOn kind tokens hws htext hapart _ ih =>
      obtain ⟨c, cs, hcons, -⟩ := htext.exists_cons
      refine List.forall_mem_cons.2 ⟨?_, fun t ht => ?_⟩
      · rw [String.toList_ofList]
        exact ⟨(stands_front _ text rest).append_left, by rw [hcons]; exact List.cons_ne_nil _ _⟩
      · obtain ⟨hstands, hne⟩ := ih t ht
        exact ⟨hstands.append_left.append_left, hne⟩

/-- Every token ends before the next one starts. -/
theorem Cut.pairwise_positions {n : Nat} {cs : List Char} {ts : List Token} (h : Cut n cs ts) :
    ts.Pairwise fun t u => t.position + t.text.utf8ByteSize ≤ u.position := by
  induction h with
  | blanks _ => exact List.Pairwise.nil
  | lexeme _ _ _ hrest ih =>
      refine List.pairwise_cons.2 ⟨fun u hu => ?_, ih⟩
      rw [utf8ByteSize_ofList]
      exact (hrest.stands u hu).1.le

/-- No two tokens start at the same byte. -/
theorem Cut.pairwise_lt {n : Nat} {cs : List Char} {ts : List Token} (h : Cut n cs ts) :
    ts.Pairwise fun t u => t.position < u.position := by
  refine h.pairwise_positions.imp_of_mem fun {t u} ht _ htu => ?_
  have hpos : 0 < t.text.utf8ByteSize := by
    rw [← utf8Len_toList]
    exact Nat.pos_of_ne_zero (mt utf8Len_eq_zero.1 (h.stands t ht).2)
  omega

/-- The place of a token tells which one it is. -/
theorem Cut.split_eq {n : Nat} {cs : List Char} {before before' after after' : List Token}
    {t t' : Token} (h : Cut n cs (before ++ t :: after))
    (hsplit : before ++ t :: after = before' ++ t' :: after') (hposition : t.position = t'.position) :
    before = before' ∧ t = t' := by
  have hlt {front middle after : List Token} {t u : Token}
      (h : Cut n cs ((front ++ t :: middle) ++ u :: after)) : t.position < u.position := by
    refine (List.pairwise_append.1 h.pairwise_lt).2.2 t ?_ u List.mem_cons_self
    exact List.mem_append_right _ List.mem_cons_self
  have h' := h
  rw [hsplit] at h'
  rcases List.append_eq_append_iff.1 hsplit with ⟨middle, rfl, hrest⟩ | ⟨middle, rfl, hrest⟩
  all_goals
    cases middle with
    | nil =>
        cases hrest
        exact ⟨by simp, rfl⟩
    | cons u middle =>
        cases hrest
        have := hlt ‹_›
        omega

/-! ### Faults -/

theorem scanRun_eq_error {n : Nat} {p : Char → Bool}
    {judge : List Char → Except ParseError.Reason Token.Kind} {cs : List Char} {e : ParseError}
    (h : scanRun n p judge cs = .error e) :
    e.position = n ∧ e.token.toList = cs.takeWhile p := by
  simp only [scanRun] at h
  split at h
  · cases h
  · cases h
    exact ⟨rfl, String.toList_ofList⟩

/-- A run that starts is not empty, and is told where it starts. -/
theorem scanRun_error_stands {n : Nat} {p : Char → Bool}
    {judge : List Char → Except ParseError.Reason Token.Kind} {c : Char} {cs : List Char}
    {e : ParseError} (hc : p c = true) (h : scanRun n p judge (c :: cs) = .error e) :
    Stands n (c :: cs) e.position e.token.toList ∧ e.token.toList ≠ [] := by
  obtain ⟨rfl, htoken⟩ := scanRun_eq_error h
  rw [htoken]
  refine ⟨⟨[], (c :: cs).dropWhile p, List.takeWhile_append_dropWhile.symm, rfl⟩, ?_⟩
  rw [List.takeWhile_cons, if_pos hc]
  exact List.cons_ne_nil _ _

theorem QuoteError.shift_eq_unknownEscape {m offset : Nat} {error : QuoteError} {e : Char}
    (h : error.shift m = .unknownEscape offset e) :
    ∃ o, error = .unknownEscape o e ∧ offset = m + o := by
  cases error with
  | unclosed => cases h
  | unknownEscape o d => cases h; exact ⟨o, rfl, rfl⟩

/-- An escape that is none stands where the error tells. -/
theorem exists_of_scanQuoted_unknownEscape {q : Char} {cs : List Char} {offset : Nat} {e : Char}
    (h : scanQuoted q cs = .error (.unknownEscape offset e)) :
    ∃ before after, cs = before ++ ('\\' :: e :: after) ∧ offset = utf8Len before := by
  fun_induction scanQuoted q cs generalizing offset with
  | case1 => cases h
  | case2 => cases h
  | case3 => cases h
  | case4 d cs => cases h; exact ⟨[], cs, rfl, rfl⟩
  | case5 => cases h
  | case6 d cs v hv error hscan hquote ih =>
      obtain ⟨o, rfl, rfl⟩ := QuoteError.shift_eq_unknownEscape (Except.error.inj h)
      obtain ⟨before, after, rfl, rfl⟩ := ih hscan
      refine ⟨'\\' :: d :: before, after, rfl, ?_⟩
      simp only [utf8Len_cons]
      omega
  | case7 => cases h
  | case8 c cs hquote hc error hscan ih =>
      obtain ⟨o, rfl, rfl⟩ := QuoteError.shift_eq_unknownEscape (Except.error.inj h)
      obtain ⟨before, after, rfl, rfl⟩ := ih hscan
      exact ⟨c :: before, after, rfl, Nat.add_comm _ _⟩

/-- What starts no lexeme stands where the error tells. -/
theorem scanLexeme_error_stands {n : Nat} {c : Char} {cs : List Char} {e : ParseError}
    (h : scanLexeme n c cs = .error e) :
    Stands n (c :: cs) e.position e.token.toList ∧ e.token.toList ≠ [] := by
  have hsingle (reason : ParseError.Reason) (he : .error ⟨n, String.ofList [c], reason⟩ =
      (.error e : Except ParseError Lexeme)) :
      Stands n (c :: cs) e.position e.token.toList ∧ e.token.toList ≠ [] := by
    cases he
    rw [String.toList_ofList]
    exact ⟨stands_front n [c] cs, List.cons_ne_nil _ _⟩
  -- in the order in which the scanner tries: quotes, numbers, relations, connectives, the rest
  unfold scanLexeme at h
  split at h
  · split at h
    · cases h
    · cases h
      rw [String.toList_ofList]
      exact ⟨stands_self n (c :: cs), List.cons_ne_nil _ _⟩
    · next offset d hscan =>
        cases h
        obtain ⟨before, after, rfl, rfl⟩ := exists_of_scanQuoted_unknownEscape hscan
        rw [String.toList_ofList]
        refine ⟨⟨c :: before, after, rfl, ?_⟩, List.cons_ne_nil _ _⟩
        rw [utf8Len_cons, Nat.add_assoc, Nat.add_comm c.utf8Size]
  · split at h
    · next hstart => exact scanRun_error_stands (isNumberChar_of_isNumberStart hstart) h
    · split at h
      · next hstart => exact scanRun_error_stands hstart h
      · split at h
        · next hstart => exact scanRun_error_stands hstart h
        · split at h
          · exact hsingle _ h
          · split at h
            · next hstart => exact scanRun_error_stands (isNameChar_of_isNameStart hstart) h
            · exact hsingle _ h

/-- **What is no token stands where the error tells**, and there is some of it. -/
theorem tokenize_error_stands {n : Nat} {cs : List Char} {e : ParseError}
    (h : tokenize n cs = .error e) :
    Stands n cs e.position e.token.toList ∧ e.token.toList ≠ [] := by
  fun_induction tokenize n cs with
  | case1 => cases h
  | case2 n c cs hblank ih =>
      obtain ⟨hstands, hne⟩ := ih h
      have hwhole : Stands n ([c] ++ cs) e.position e.token.toList :=
        Stands.append_left (by rwa [utf8Len_singleton])
      exact ⟨hwhole, hne⟩
  | case3 n c cs hblank e' hscan =>
      cases h
      exact scanLexeme_error_stands hscan
  | case4 n c cs hblank l hscan _ e' hrest ih =>
      cases h
      obtain ⟨_, -, hcs, -⟩ := lexical_of_scanLexeme hscan
      obtain ⟨hstands, hne⟩ := ih hrest
      rw [utf8ByteSize_ofList] at hstands
      rw [hcs]
      exact ⟨hstands.append_left, hne⟩
  | case5 => cases h

end Rulebook
