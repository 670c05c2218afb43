/-
**Attributes of a form and words of rule text.**

A row of a form becomes rule text with its attribute as it stands, so the attribute must be what the
lexer takes for a name.  The check of an attribute does not ask the lexer: it tells connectives from
names by itself, and looks at the first character and at the others.  Here the two are compared.  A text
that is one token as a whole is a lexeme, and of lexemes the words are what the check accepts, the
connectives what it refuses as such.

Main definitions:

* `Rulebook.IsOneToken` — a text that is one token as a whole.

Main results:

* `Rulebook.isOneToken_iff` — such a text is a lexeme;
* `Rulebook.Form.attribute_is_one_word` — **the check of an attribute is the lexer's notion of a name**.
-/

import Rulebook.Proofs.Concatenation
import Rulebook.Proofs.FormRows

set_option autoImplicit false

namespace Rulebook

/-! ### Texts that are one token -/

/-- The text is cut into a single token, which is the whole of it and of such a kind. -/
def IsOneToken (P : Token.Kind → Prop) (text : String) : Prop :=
  ∃ t, tokenize 0 text.toList = .ok [t] ∧ P t.kind ∧ t.text = text

theorem isOneToken_or {P Q : Token.Kind → Prop} {text : String} :
    IsOneToken (fun kind => P kind ∨ Q kind) text ↔ IsOneToken P text ∨ IsOneToken Q text := by
  simp only [IsOneToken, or_and_right, and_or_left, exists_or]

/-- **A text that is one token as a whole is a lexeme.** -/
theorem isOneToken_iff {P : Token.Kind → Prop} {text : String} :
    IsOneToken P text ↔ ∃ goesOn kind, Lexical goesOn text.toList kind ∧ P kind := by
  constructor
  · rintro ⟨t, htokens, hkind, htext⟩
    obtain ⟨goesOn, h⟩ :=
      (tokenize_eq_ok_iff.1 htokens).exists_lexical_of_whole (congrArg String.toList htext)
    exact ⟨goesOn, t.kind, h, hkind⟩
  · rintro ⟨goesOn, kind, h, hkind⟩
    exact ⟨_, tokenize_eq_ok_iff.2 (h.cut 0), hkind, String.ofList_toList⟩

/-- It is a word exactly if it has the form of one. -/
theorem isOneToken_word_iff {text : String} :
    IsOneToken (∃ word, · = .word word) text ↔ IsWord text.toList := by
  rw [isOneToken_iff]
  constructor
  · rintro ⟨goesOn, kind, h, word, rfl⟩
    generalize text.toList = cs at h
    cases h with
    | word hstart hgo hkeyword => exact ⟨⟨_, _, rfl, hstart, hgo⟩, hkeyword⟩
  · intro h
    exact ⟨_, _, h.lexical, text, rfl⟩

/-- It is a connective exactly if it is one of its texts. -/
theorem isOneToken_connective_iff {text : String} :
    IsOneToken (∃ c, · = .connective c) text ↔
      (Connective.ofKeyword? text).isSome = true := by
  rw [isOneToken_iff, Option.isSome_iff_exists]
  constructor
  · rintro ⟨goesOn, kind, h, c, rfl⟩
    refine ⟨c, ?_⟩
    rw [← String.ofList_toList (s := text), Connective.ofKeyword?_ofList_eq_some_iff]
    generalize text.toList = cs at h
    cases h with
    | symbol _ => exact .inl rfl
    | keyword h => exact .inr h
  · rintro ⟨c, h⟩
    rw [← String.ofList_toList (s := text), Connective.ofKeyword?_ofList_eq_some_iff] at h
    obtain ⟨goesOn, hlexical⟩ := exists_lexical_connective (h.imp_left String.toList_inj.1)
    exact ⟨goesOn, _, hlexical, c, rfl⟩

/-! ### The check -/

namespace Form

theorem nameFault?_eq_keyword_iff {name : String} :
    nameFault? name = some (.keyword name) ↔ (Connective.ofKeyword? name).isSome = true := by
  rw [nameFault?]
  split
  · next h => exact iff_of_true rfl h
  · next h =>
      refine iff_of_false ?_ h
      split <;> simp

/-- **The check of an attribute is the lexer's notion of a name.**  A text has nothing against it as an
attribute exactly if it is one token as a whole and this is a word; it is refused for being a connective
exactly if that token is a connective; and any other text is refused for its characters. -/
theorem attribute_is_one_word (name : String) :
    (nameFault? name = none ↔ IsOneToken (∃ word, · = .word word) name) ∧
    (nameFault? name = some (.keyword name) ↔
      IsOneToken (∃ c, · = .connective c) name) ∧
    (nameFault? name = some .characters ↔
      ¬IsOneToken (fun kind => (∃ word, kind = .word word) ∨ ∃ c, kind = .connective c) name) := by
  have hword : nameFault? name = none ↔ IsOneToken (∃ word, · = .word word) name :=
    nameFault?_eq_none_iff.trans isOneToken_word_iff.symm
  have hconnective : nameFault? name = some (.keyword name) ↔
      IsOneToken (∃ c, · = .connective c) name :=
    nameFault?_eq_keyword_iff.trans isOneToken_connective_iff.symm
  refine ⟨hword, hconnective, ?_⟩
  rw [isOneToken_or, ← hword, ← hconnective, nameFault?]
  split
  · simp
  · split <;> simp

end Form

end Rulebook
