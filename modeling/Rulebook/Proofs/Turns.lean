/-
**Cutting a text turn by turn.**

The lexer goes over a text in turns.  A turn passes over one blank or takes one token, and what it takes
is a piece of the text that is not empty; so there are at most as many turns as characters, and at the end
either a turn has refused the text or nothing of it is left.  Here the turns are told apart, each with what
was found before it, and shown to come to what `Rulebook.tokenize` gives.

What they come to accounts for the whole text: the tokens stand where they say, one after another, and
every other character is a blank.  The blanks themselves mean nothing but a gap, so the texts of the tokens
with any blanks between them have the same tokens again.

Main definitions:

* `Rulebook.Scanning` — how far the cutting of a text has come;
* `Rulebook.Scanning.turn?`, `Rulebook.Scanning.EndsAfter` — one turn, and all that follow;
* `Rulebook.Accounted` — where the tokens of a text stand, and what stands elsewhere;
* `Rulebook.Spaced` — texts with blanks between them.

Main results:

* `Rulebook.Scanning.exists_taken_of_turn?` — a turn takes at least one character;
* `Rulebook.Scanning.exists_endsAfter` — the turns come to an end, and to the tokens of the text;
* `Rulebook.Cut.isBlank_of_not_covers` — what belongs to no token is a blank;
* `Rulebook.Cut.accounted` — the tokens account for the text;
* `Rulebook.Spaced.reads` — lexemes with blanks between them are tokens of their own;
* `Rulebook.cutting_loses_nothing` — **all of it for any text**.
-/

import Mathlib.Data.List.Forall2
import Rulebook.Proofs.Rendering
import Rulebook.Proofs.Slices

set_option autoImplicit false

namespace Rulebook

open String (utf8ByteSize_ofList utf8Len utf8Len_append utf8Len_cons utf8Len_toList)

/-! ### Turns -/

/-- How far the cutting of a text has come. -/
structure Scanning where
  /-- The tokens found so far. -/
  found : List Token
  /-- The byte that comes next. -/
  position : Nat
  /-- The characters that come next. -/
  rest : List Char

namespace Scanning

/-- Nothing of a text is cut yet. -/
def start (text : String) : Scanning := ⟨[], 0, text.toList⟩

/-- A blank is passed over. -/
def pass (s : Scanning) (c : Char) (cs : List Char) : Scanning :=
  { s with position := s.position + c.utf8Size, rest := cs }

/-- A lexeme is taken for a token. -/
def take (s : Scanning) (l : Lexeme) : Scanning :=
  ⟨s.found ++ [⟨l.kind, s.position, String.ofList l.text⟩],
    s.position + (String.ofList l.text).utf8ByteSize, l.rest⟩

/-- One turn: it passes over a blank, takes a token or refuses the text.  There is none at its end. -/
def turn? (s : Scanning) : Option (Except ParseError Scanning) :=
  match s.rest with
  | [] => none
  | c :: cs =>
    if isBlank c then some (.ok (s.pass c cs))
    else some ((scanLexeme s.position c cs).map s.take)

/-- The cutting comes to a result in the given number of turns. -/
inductive EndsAfter : Nat → Scanning → Except ParseError (List Token) → Prop
  | finished {s : Scanning} (h : s.turn? = none) : EndsAfter 0 s (.ok s.found)
  | refused {s : Scanning} {e : ParseError} (h : s.turn? = some (.error e)) :
    EndsAfter 1 s (.error e)
  | turn {s s' : Scanning} {n : Nat} {result : Except ParseError (List Token)}
    (h : s.turn? = some (.ok s')) (hrest : EndsAfter n s' result) : EndsAfter (n + 1) s result

/-- **A turn takes at least one character**, and finds nothing in it or a token that is all of it. -/
theorem exists_taken_of_turn? {s s' : Scanning} (h : s.turn? = some (.ok s')) :
    ∃ taken, taken ≠ [] ∧ s.rest = taken ++ s'.rest ∧
      s'.position = s.position + utf8Len taken ∧
      ((∀ c ∈ taken, isBlank c = true) ∧ s'.found = s.found ∨
        ∃ kind, s'.found = s.found ++ [⟨kind, s.position, String.ofList taken⟩]) := by
  unfold turn? at h
  split at h
  · cases h
  · next c cs hrest =>
      split at h
      · next hblank =>
          cases h
          refine ⟨[c], List.cons_ne_nil _ _, hrest, ?_, .inl ⟨by simpa using hblank, rfl⟩⟩
          rw [utf8Len_singleton]
          rfl
      · cases hscan : scanLexeme s.position c cs with
        | error e => rw [hscan] at h; cases h
        | ok l =>
            rw [hscan] at h
            cases h
            obtain ⟨goesOn, hlexical, htext, -⟩ := lexical_of_scanLexeme hscan
            obtain ⟨d, ds, hcons, -⟩ := hlexical.exists_cons
            refine ⟨l.text, ?_, hrest.trans htext, ?_, .inr ⟨l.kind, rfl⟩⟩
            · rw [hcons]
              exact List.cons_ne_nil _ _
            · rw [← utf8ByteSize_ofList]
              rfl

theorem turn?_blank {s : Scanning} {c : Char} {cs : List Char} (hrest : s.rest = c :: cs)
    (hblank : isBlank c = true) : s.turn? = some (.ok (s.pass c cs)) := by
  rw [turn?, hrest]
  exact if_pos hblank

theorem turn?_scan {s : Scanning} {c : Char} {cs : List Char} (hrest : s.rest = c :: cs)
    (hblank : ¬isBlank c = true) :
    s.turn? = some ((scanLexeme s.position c cs).map s.take) := by
  rw [turn?, hrest]
  exact if_neg hblank

/-- After a token has been taken, no more turns are left than characters before it. -/
theorem turn_lexeme {found : List Token} {n k : Nat} {c : Char} {cs : List Char} {l : Lexeme}
    {result : Except ParseError (List Token)} (hblank : ¬isBlank c = true)
    (hscan : scanLexeme n c cs = .ok l) (hk : k ≤ l.rest.length)
    (hrest : EndsAfter k (take ⟨found, n, c :: cs⟩ l) result) :
    ∃ k ≤ (c :: cs).length, EndsAfter k ⟨found, n, c :: cs⟩ result := by
  have hturn : turn? ⟨found, n, c :: cs⟩ = some (.ok (take ⟨found, n, c :: cs⟩ l)) := by
    rw [turn?_scan rfl hblank, hscan]
    rfl
  exact ⟨k + 1, Nat.lt_of_le_of_lt hk (scanLexeme_rest_length hscan), .turn hturn hrest⟩

/-- **The turns come to an end**, after at most as many as there are characters, and to the tokens of what
was left. -/
theorem exists_endsAfter (found : List Token) (n : Nat) (cs : List Char) :
    ∃ k ≤ cs.length, EndsAfter k ⟨found, n, cs⟩ ((tokenize n cs).map (found ++ ·)) := by
  -- along the cutting itself, with what was found before as a parameter
  fun_induction tokenize n cs generalizing found with
  | case1 n =>
      refine ⟨0, Nat.zero_le _, ?_⟩
      rw [Except.map, List.append_nil]
      exact .finished rfl
  | case2 n c cs hblank ih =>
      obtain ⟨k, hk, hends⟩ := ih found
      exact ⟨k + 1, Nat.succ_le_succ hk, .turn (turn?_blank rfl hblank) hends⟩
  | case3 n c cs hblank e hscan =>
      refine ⟨1, Nat.succ_le_succ (Nat.zero_le _), .refused ?_⟩
      rw [turn?_scan rfl hblank, hscan]
      rfl
  | case4 n c cs hblank l hscan _ e htokens ih =>
      obtain ⟨k, hk, hends⟩ := ih (found ++ [⟨l.kind, n, String.ofList l.text⟩])
      rw [htokens] at hends
      exact turn_lexeme hblank hscan hk hends
  | case5 n c cs hblank l hscan _ ts htokens ih =>
      obtain ⟨k, hk, hends⟩ := ih (found ++ [⟨l.kind, n, String.ofList l.text⟩])
      rw [htokens, Except.map, List.append_assoc] at hends
      exact turn_lexeme hblank hscan hk hends

end Scanning

/-! ### Where the tokens stand -/

/-- The byte belongs to the token. -/
def Token.Covers (t : Token) (m : Nat) : Prop :=
  t.position ≤ m ∧ m < t.position + t.text.utf8ByteSize

/-- The tokens account for the text: they are pieces of it that stand where they say, none is empty, each
ends before the next one starts, and every character that belongs to none of them is a blank. -/
structure Accounted (text : String) (ts : List Token) : Prop where
  found : ∀ t ∈ ts, slice? text t.position (t.position + t.text.utf8ByteSize) = some t.text
  nonempty : ∀ t ∈ ts, t.text ≠ ""
  apart : ts.Pairwise fun t u => t.position + t.text.utf8ByteSize ≤ u.position
  ascending : ts.Pairwise fun t u => t.position < u.position
  blank : ∀ (before : List Char) (c : Char) (after : List Char), text.toList = before ++ c :: after →
    (∀ t ∈ ts, ¬t.Covers (utf8Len before)) → isBlank c = true

theorem Token.covers_of_mem {kind : Token.Kind} {n : Nat} {before after : List Char} {c : Char} :
    Token.Covers ⟨kind, n, String.ofList (before ++ c :: after)⟩ (n + utf8Len before) := by
  have hpos := c.utf8Size_pos
  refine ⟨Nat.le_add_right _ _, ?_⟩
  simp only [utf8ByteSize_ofList, utf8Len_append, utf8Len_cons]
  omega

/-- A character of two texts put together is one of the first or of the second. -/
theorem split_append {front rest before after : List Char} {c : Char}
    (h : front ++ rest = before ++ c :: after) :
    (∃ behind, front = before ++ c :: behind) ∨
      ∃ between, before = front ++ between ∧ rest = between ++ c :: after := by
  rcases List.append_eq_append_iff.1 h with ⟨between, hbefore, hrest⟩ | ⟨behind, hfront, hrest⟩
  · exact .inr ⟨between, hbefore, hrest⟩
  · cases behind with
    | nil => exact .inr ⟨[], by rw [hfront]; simp, hrest.symm⟩
    | cons d behind =>
        obtain ⟨rfl, -⟩ := List.cons.inj hrest
        exact .inl ⟨behind, hfront⟩

/-- **A character of a text that belongs to no token of it is a blank.** -/
theorem Cut.isBlank_of_not_covers {n : Nat} {cs : List Char} {ts : List Token} (h : Cut n cs ts)
    {before after : List Char} {c : Char} (hcs : cs = before ++ c :: after)
    (hout : ∀ t ∈ ts, ¬t.Covers (n + utf8Len before)) : isBlank c = true := by
  induction h generalizing before with
  | blanks hws => exact hws c (hcs ▸ List.mem_append_right _ List.mem_cons_self)
  | @lexeme n ws text rest goesOn kind tokens hws _ _ _ ih =>
      obtain ⟨hfirst, hothers⟩ := List.forall_mem_cons.1 hout
      -- it stands among the blanks, in the lexeme or after it
      rcases split_append hcs with ⟨behind, rfl⟩ | ⟨between, rfl, htext⟩
      · exact hws c (List.mem_append_right _ List.mem_cons_self)
      · rw [utf8Len_append, ← Nat.add_assoc] at hfirst hothers
        rcases split_append htext with ⟨behind, rfl⟩ | ⟨between, rfl, hrest⟩
        · exact absurd Token.covers_of_mem hfirst
        · rw [utf8Len_append, ← Nat.add_assoc] at hothers
          exact ih hrest hothers

/-- **The tokens of a text account for it.** -/
theorem Cut.accounted {text : String} {ts : List Token} (h : Cut 0 text.toList ts) :
    Accounted text ts where
  found t ht := by
    obtain ⟨before, after, htext, hplace⟩ := (h.stands t ht).1
    rw [Nat.zero_add] at hplace
    have hpiece := slice?_of_toList htext hplace rfl
    rwa [utf8Len_toList, String.ofList_toList] at hpiece
  nonempty t ht hempty := (h.stands t ht).2 (String.toList_eq_nil_iff.2 hempty)
  apart := h.pairwise_positions
  ascending := h.pairwise_lt
  blank before c after htext hout := h.isBlank_of_not_covers htext (by simpa using hout)

/-! ### Blanks between tokens -/

/-- Texts one after another with at least one blank between two of them. -/
inductive Spaced : List (List Char) → List Char → Prop
  | nil : Spaced [] []
  | single (text : List Char) : Spaced [text] text
  | cons {text next ws whole : List Char} {texts : List (List Char)} (hne : ws ≠ [])
    (hws : ∀ c ∈ ws, isBlank c = true) (h : Spaced (next :: texts) whole) :
    Spaced (text :: next :: texts) (text ++ (ws ++ whole))

/-- The same blanks may stand everywhere. -/
theorem spaced_intercalate {ws : List Char} (hne : ws ≠ []) (hws : ∀ c ∈ ws, isBlank c = true)
    (texts : List (List Char)) : Spaced texts (ws.intercalate texts) := by
  induction texts with
  | nil => exact .nil
  | cons text texts ih =>
      cases texts with
      | nil =>
          rw [List.intercalate_singleton]
          exact .single text
      | cons next texts =>
          rw [List.intercalate_cons_cons, List.append_assoc]
          exact .cons hne hws ih

/-- Blanks may stand before a text. -/
theorem Reads.append_left {ws cs : List Char} {kinds : List Token.Kind}
    (hws : ∀ c ∈ ws, isBlank c = true) (h : Reads cs kinds) : Reads (ws ++ cs) kinds := by
  induction ws with
  | nil => exact h
  | cons c ws ih =>
      obtain ⟨hc, hws⟩ := List.forall_mem_cons.1 hws
      intro n
      obtain ⟨ts, hts, hkinds⟩ := ih hws (n + c.utf8Size)
      exact ⟨ts, hts.cons_blank hc, hkinds⟩

/-- **Lexemes with blanks between them are tokens of their own.** -/
theorem Spaced.reads {texts : List (List Char)} {whole : List Char} (h : Spaced texts whole)
    {kinds : List Token.Kind}
    (hkinds : List.Forall₂ (fun text kind => ∃ goesOn, Lexical goesOn text kind) texts kinds) :
    Reads whole kinds := by
  induction h generalizing kinds with
  | nil =>
      cases hkinds
      exact fun n => ⟨[], .blanks (List.forall_mem_nil _), rfl⟩
  | single text =>
      obtain ⟨kind, rest, ⟨goesOn, hlexical⟩, hrest, rfl⟩ := List.forall₂_cons_left_iff.1 hkinds
      cases hrest
      exact hlexical.reads
  | @cons text next ws whole texts hne hws _ ih =>
      obtain ⟨kind, rest, ⟨goesOn, hlexical⟩, hrest, rfl⟩ := List.forall₂_cons_left_iff.1 hkinds
      obtain ⟨c, ws, rfl⟩ := List.exists_cons_of_ne_nil hne
      have hblank : isBlank c = true := hws c List.mem_cons_self
      exact hlexical.reads.append ((ih hrest).append_left hws) (separates_of_isBlank hblank _)

theorem Cut.lexical {n : Nat} {cs : List Char} {ts : List Token} (h : Cut n cs ts) :
    ∀ t ∈ ts, ∃ goesOn, Lexical goesOn t.text.toList t.kind := by
  induction h with
  | blanks _ => exact List.forall_mem_nil _
  | @lexeme _ _ text _ goesOn kind _ _ htext _ _ ih =>
      refine List.forall_mem_cons.2 ⟨⟨goesOn, ?_⟩, ih⟩
      rw [String.toList_ofList]
      exact htext

/-- The texts of the tokens of a text, with blanks between them, have tokens of the same kinds. -/
theorem Cut.tokenize_spaced {n : Nat} {cs whole : List Char} {ts : List Token} (h : Cut n cs ts)
    (hspaced : Spaced (ts.map fun t => t.text.toList) whole) :
    ∃ ts', tokenize 0 whole = .ok ts' ∧ ts'.map Token.kind = ts.map Token.kind := by
  have hkinds : List.Forall₂ (fun text kind => ∃ goesOn, Lexical goesOn text kind)
      (ts.map fun t => t.text.toList) (ts.map Token.kind) :=
    List.forall₂_map_left_iff.2 (List.forall₂_map_right_iff.2 (List.forall₂_same.2 h.lexical))
  obtain ⟨ts', hts', hsame⟩ := hspaced.reads hkinds 0
  exact ⟨ts', tokenize_eq_ok_iff.2 hts', hsame⟩

/-- **Cutting a text loses nothing and always comes to an end.**  Whatever has been found, a turn takes at
least one character, which are blanks or the text of a token; so after at most as many turns as there are
characters the cutting has come to the tokens of the text, or to what stands against it.  The tokens account
for the text; and their texts with blanks between them, of any kind and number, have tokens of the same
kinds. -/
theorem cutting_loses_nothing (text : String) :
    (∀ s s' : Scanning, s.turn? = some (.ok s') →
      ∃ taken, taken ≠ [] ∧ s.rest = taken ++ s'.rest ∧
        s'.position = s.position + utf8Len taken ∧
        ((∀ c ∈ taken, isBlank c = true) ∧ s'.found = s.found ∨
          ∃ kind, s'.found = s.found ++ [⟨kind, s.position, String.ofList taken⟩])) ∧
    (∃ n ≤ text.length, (Scanning.start text).EndsAfter n (tokenize 0 text.toList)) ∧
    ∀ ts, tokenize 0 text.toList = .ok ts →
      Accounted text ts ∧
      ∀ whole, Spaced (ts.map fun t => t.text.toList) whole →
        ∃ ts', tokenize 0 whole = .ok ts' ∧ ts'.map Token.kind = ts.map Token.kind := by
  refine ⟨fun s s' => Scanning.exists_taken_of_turn?, ?_, fun ts h => ?_⟩
  · obtain ⟨n, hn, hends⟩ := Scanning.exists_endsAfter [] 0 text.toList
    rw [String.length_toList] at hn
    refine ⟨n, hn, ?_⟩
    cases htokens : tokenize 0 text.toList <;> rw [htokens] at hends <;> exact hends
  · have hcut := tokenize_eq_ok_iff.1 h
    exact ⟨hcut.accounted, fun whole => hcut.tokenize_spaced⟩

/-- A text with a blank before its tokens and none between them: the first turn passes over the blank, and
with a blank and a line break in every gap the tokens are the same. -/
theorem touching_tokens_are_cut :
    let text := " größe>=10&&team=='a b'"
    (∃ taken, taken ≠ [] ∧ text.toList = taken ++ "größe>=10&&team=='a b'".toList) ∧
    ∃ ts ts', tokenize 0 text.toList = .ok ts ∧ Accounted text ts ∧
      ts.map Token.position = [1, 8, 10, 12, 14, 18, 20] ∧
      tokenize 0 "größe \n>= \n10 \n&& \nteam \n== \n'a b'".toList = .ok ts' ∧
      ts'.map Token.kind = ts.map Token.kind := by
  intro text
  obtain ⟨hturn, -, htokens⟩ := cutting_loses_nothing text
  have hfirst : (Scanning.start text).rest = ' ' :: "größe>=10&&team=='a b'".toList := by decide
  obtain ⟨taken, hne, hrest, -⟩ := hturn _ _ (Scanning.turn?_blank hfirst (by decide))
  refine ⟨⟨taken, hne, hrest⟩, ?_⟩
  have hcut : ∃ ts ∈ (tokenize 0 text.toList).toOption,
      ts.map Token.position = [1, 8, 10, 12, 14, 18, 20] ∧
      ts.map (fun t => t.text.toList) =
        ["größe".toList, ">=".toList, "10".toList, "&&".toList, "team".toList, "==".toList,
          "'a b'".toList] := by
    decide +kernel
  obtain ⟨ts, hts, hpositions, htexts⟩ := hcut
  have hok : tokenize 0 text.toList = .ok ts := toOption_eq_some_iff.1 hts
  obtain ⟨haccounted, hspaced⟩ := htokens ts hok
  have hgaps : Spaced (ts.map fun t => t.text.toList)
      "größe \n>= \n10 \n&& \nteam \n== \n'a b'".toList := by
    have hws : ∀ c ∈ [' ', '\n'], isBlank c = true := List.all_eq_true.1 (by decide)
    rw [htexts]
    exact spaced_intercalate (List.cons_ne_nil _ _) hws _
  obtain ⟨ts', hts', hkinds⟩ := hspaced _ hgaps
  exact ⟨ts, ts', hok, haccounted, hpositions, hts', hkinds⟩

end Rulebook
