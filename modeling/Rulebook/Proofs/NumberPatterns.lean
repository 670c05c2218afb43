/-
**The two languages of numbers.**

A number of rule text has the form `-?[0-9]+(\.[0-9]+)?([eE][+-]?[0-9]+)?`.  The general reader of doubles
knows more: either sign, a point at either end of the digits, and words for infinity and not-a-number in any
case.  Here both are written down as regular expressions.  The recogniser of rule text accepts exactly the
first language and the reader of doubles exactly the second, which has the first in it.

Main definitions:

* `Rulebook.Pattern.numeral` — the numbers of rule text;
* `Rulebook.Pattern.float` — the texts of doubles;
* `Rulebook.IsMantissa` — digits with a point among, before or after them.

Main results:

* `Rulebook.isNumeral_iff_mem` — **the recogniser accepts the numbers of rule text**;
* `Rulebook.isSome_readFloat?_iff_mem` — **the reader of doubles accepts the texts of doubles**;
* `Rulebook.Pattern.mem_float_of_mem_numeral` — every number of rule text is a text of a double.
-/

import Mathlib.Computability.RegularExpressions
import Mathlib.Tactic.IntervalCases
import Rulebook.Proofs.Numeral

set_option autoImplicit false

namespace Rulebook

/-- The decimal digits. -/
def digitChars : List Char := "0123456789".toList

namespace Pattern

/-! ### Patterns -/

/-- One of the given characters. -/
def oneOf (chars : List Char) : RegularExpression Char := chars.foldr (fun c p => .char c + p) 0

/-- What may be absent. -/
def optional (p : RegularExpression Char) : RegularExpression Char := 1 + p

/-- A word of lower-case letters, in any case. -/
def caseless (word : List Char) : RegularExpression Char :=
  word.foldr (fun d p => oneOf [d, d.toUpper] * p) 1

/-- One decimal digit, `[0-9]`. -/
def digit : RegularExpression Char := oneOf digitChars

/-- A row of digits, `[0-9]+`. -/
def digits : RegularExpression Char := digit * digit.star

/-- A fraction, `(\.[0-9]+)?`. -/
def fraction : RegularExpression Char := optional (.char '.' * digits)

/-- Either sign, `[+-]?`. -/
def sign : RegularExpression Char := optional (oneOf ['+', '-'])

/-- An exponent, `([eE][+-]?[0-9]+)?`. -/
def exponent : RegularExpression Char := optional (oneOf ['e', 'E'] * (sign * digits))

/-- **A number of rule text**, `-?[0-9]+(\.[0-9]+)?([eE][+-]?[0-9]+)?`. -/
def numeral : RegularExpression Char :=
  optional (.char '-') * (digits * (fraction * exponent))

/-- Digits with a point that has digits on one side of it at least, `[0-9]+|[0-9]+\.[0-9]*|[0-9]*\.[0-9]+`. -/
def mantissa : RegularExpression Char :=
  digits + (digits * (.char '.' * digit.star) + digit.star * (.char '.' * digits))

/-- A word for infinity or not-a-number, `inf|infinity|nan` in any case. -/
def nonFinite : RegularExpression Char :=
  caseless "inf".toList + (caseless "infinity".toList + caseless "nan".toList)

/-- **The text of a double**: after either sign, digits with an exponent or a word. -/
def float : RegularExpression Char := sign * (mantissa * exponent + nonFinite)

/-! ### What patterns match -/

variable {p q : RegularExpression Char} {cs : List Char}

theorem mem_add : cs ∈ (p + q).matches' ↔ cs ∈ p.matches' ∨ cs ∈ q.matches' :=
  Language.mem_add _ _ _

theorem mem_mul : cs ∈ (p * q).matches' ↔ ∃ a ∈ p.matches', ∃ b ∈ q.matches', a ++ b = cs :=
  Language.mem_mul

theorem mem_char {c : Char} : cs ∈ (RegularExpression.char c).matches' ↔ cs = [c] := Iff.rfl

theorem mem_oneOf {chars : List Char} : cs ∈ (oneOf chars).matches' ↔ ∃ c ∈ chars, cs = [c] := by
  induction chars with
  | nil => exact iff_of_false (Language.notMem_zero cs) (by simp)
  | cons d chars ih =>
      rw [oneOf, List.foldr_cons, mem_add, mem_char, ← oneOf, ih, List.exists_mem_cons_iff]

theorem mem_optional : cs ∈ (optional p).matches' ↔ cs = [] ∨ cs ∈ p.matches' := mem_add

/-- Characters of a class one after another. -/
theorem mem_star_oneOf {chars : List Char} :
    cs ∈ (oneOf chars).star.matches' ↔ ∀ c ∈ cs, c ∈ chars := by
  rw [RegularExpression.matches'_star, Language.mem_kstar]
  constructor
  · rintro ⟨words, rfl, hwords⟩ c hc
    obtain ⟨word, hword, hcword⟩ := List.mem_flatten.1 hc
    obtain ⟨d, hd, rfl⟩ := mem_oneOf.1 (hwords word hword)
    rwa [List.mem_singleton.1 hcword]
  · intro h
    refine ⟨cs.map fun c => [c], (List.flatMap_singleton' cs).symm, fun word hword => ?_⟩
    obtain ⟨c, hc, rfl⟩ := List.mem_map.1 hword
    exact mem_oneOf.2 ⟨c, h c hc, rfl⟩

/-! ### Digits -/

theorem isDigit_iff_mem {c : Char} : c.isDigit = true ↔ c ∈ digitChars := by
  constructor
  · intro h
    have hrange : 48 ≤ c.toNat ∧ c.toNat ≤ 57 := by
      simp only [Char.isDigit, ge_iff_le, Bool.and_eq_true, decide_eq_true_eq] at h
      exact h
    obtain ⟨hlow, hhigh⟩ := hrange
    rw [← Char.ofNat_toNat c]
    interval_cases c.toNat <;> decide
  · exact fun h => List.all_eq_true.1 (by decide : digitChars.all Char.isDigit = true) c h

theorem mem_star_digit : cs ∈ digit.star.matches' ↔ ∀ c ∈ cs, c.isDigit = true := by
  simp only [digit, mem_star_oneOf, isDigit_iff_mem]

theorem mem_digits : cs ∈ digits.matches' ↔ IsDigits cs := by
  rw [digits, mem_mul]
  constructor
  · rintro ⟨first, hfirst, rest, hrest, rfl⟩
    obtain ⟨d, hd, rfl⟩ := mem_oneOf.1 hfirst
    exact ⟨List.cons_ne_nil d rest,
      List.forall_mem_cons.2 ⟨isDigit_iff_mem.2 hd, mem_star_digit.1 hrest⟩⟩
  · intro h
    obtain ⟨d, rest, rfl, hd⟩ := h.exists_cons
    exact ⟨[d], mem_oneOf.2 ⟨d, isDigit_iff_mem.1 hd, rfl⟩, rest,
      mem_star_digit.2 (List.forall_mem_cons.1 h.2).2, rfl⟩

/-! ### The parts of a number -/

theorem mem_minus : cs ∈ (optional (.char '-')).matches' ↔ ∃ negative, IsSign cs negative := by
  rw [mem_optional, mem_char]
  constructor
  · rintro (rfl | rfl)
    · exact ⟨false, .absent⟩
    · exact ⟨true, .minus⟩
  · rintro ⟨negative, h⟩
    cases h with
    | absent => exact .inl rfl
    | minus => exact .inr rfl

theorem mem_fraction : cs ∈ fraction.matches' ↔ ∃ ds, IsFraction cs ds := by
  rw [fraction, mem_optional, mem_mul]
  constructor
  · rintro (rfl | ⟨point, rfl, ds, hds, rfl⟩)
    · exact ⟨[], .absent⟩
    · exact ⟨ds, .point (mem_digits.1 hds)⟩
  · rintro ⟨ds, h⟩
    cases h with
    | absent => exact .inl rfl
    | point hds => exact .inr ⟨['.'], rfl, ds, mem_digits.2 hds, rfl⟩

theorem mem_sign : cs ∈ sign.matches' ↔ cs = [] ∨ cs = ['+'] ∨ cs = ['-'] := by
  simp [sign, mem_optional, mem_oneOf]

theorem mem_exponent : cs ∈ exponent.matches' ↔ ∃ e, IsExponent cs e := by
  have hletter {c : Char} : [c] ∈ (oneOf ['e', 'E']).matches' ↔ c = 'e' ∨ c = 'E' := by
    simp [mem_oneOf]
  rw [exponent, mem_optional, mem_mul]
  constructor
  · rintro (rfl | ⟨letter, hc, signed, hsigned, rfl⟩)
    · exact ⟨0, .absent⟩
    · obtain ⟨c, -, rfl⟩ := mem_oneOf.1 hc
      obtain ⟨s, hs, ds, hds, rfl⟩ := mem_mul.1 hsigned
      have hds := mem_digits.1 hds
      rcases mem_sign.1 hs with rfl | rfl | rfl
      · exact ⟨_, .unsigned (hletter.1 hc) hds⟩
      · exact ⟨_, .plus (hletter.1 hc) hds⟩
      · exact ⟨_, .minus (hletter.1 hc) hds⟩
  · rintro ⟨e, h⟩
    have hpart {c : Char} {s ds : List Char} (hc : c = 'e' ∨ c = 'E') (hs : s ∈ sign.matches')
        (hds : IsDigits ds) :
        ∃ a ∈ (oneOf ['e', 'E']).matches', ∃ b ∈ (sign * digits).matches', a ++ b = c :: (s ++ ds) :=
      ⟨[c], hletter.2 hc, s ++ ds, mem_mul.2 ⟨s, hs, ds, mem_digits.2 hds, rfl⟩, rfl⟩
    cases h with
    | absent => exact .inl rfl
    | unsigned hc hds => exact .inr (hpart hc (mem_sign.2 (.inl rfl)) hds)
    | plus hc hds => exact .inr (hpart hc (mem_sign.2 (.inr (.inl rfl))) hds)
    | minus hc hds => exact .inr (hpart hc (mem_sign.2 (.inr (.inr rfl))) hds)

theorem mem_numeral : cs ∈ numeral.matches' ↔ ∃ d, IsNumeral cs d := by
  simp only [numeral, mem_mul]
  constructor
  · rintro ⟨minus, hminus, -, ⟨whole, hwhole, -, ⟨frac, hfrac, ex, hex, rfl⟩, rfl⟩, rfl⟩
    obtain ⟨negative, hsign⟩ := mem_minus.1 hminus
    obtain ⟨ds, hfrac⟩ := mem_fraction.1 hfrac
    obtain ⟨e, hex⟩ := mem_exponent.1 hex
    exact ⟨_, .parts hsign (mem_digits.1 hwhole) hfrac hex⟩
  · rintro ⟨d, h⟩
    cases h with
    | parts hsign hwhole hfrac hex =>
        exact ⟨_, mem_minus.2 ⟨_, hsign⟩, _, ⟨_, mem_digits.2 hwhole, _,
          ⟨_, mem_fraction.2 ⟨_, hfrac⟩, _, mem_exponent.2 ⟨_, hex⟩, rfl⟩, rfl⟩, rfl⟩

end Pattern

/-- **The recogniser accepts exactly the numbers of rule text.** -/
theorem isNumeral_iff_mem {cs : List Char} : isNumeral cs = true ↔ cs ∈ Pattern.numeral.matches' :=
  isNumeral_iff.trans Pattern.mem_numeral.symm

/-! ### The parts of a double -/

/-- Digits with a point among, before or after them. -/
inductive IsMantissa : List Char → Prop
  | whole {ds : List Char} (h : IsDigits ds) : IsMantissa ds
  | pointed {ws fs : List Char} (hws : ∀ c ∈ ws, c.isDigit = true) (hfs : ∀ c ∈ fs, c.isDigit = true)
      (hne : ¬(ws = [] ∧ fs = [])) : IsMantissa (ws ++ '.' :: fs)

theorem IsMantissa.exists_cons {m : List Char} (h : IsMantissa m) :
    ∃ c cs, m = c :: cs ∧ (c.isDigit = true ∨ c = '.') := by
  cases h with
  | whole h =>
      obtain ⟨c, cs, rfl, hc⟩ := h.exists_cons
      exact ⟨c, cs, rfl, .inl hc⟩
  | @pointed ws fs hws _ _ =>
      cases ws with
      | nil => exact ⟨'.', fs, rfl, .inr rfl⟩
      | cons c ws => exact ⟨c, _, rfl, .inl (hws c List.mem_cons_self)⟩

theorem Pattern.mem_mantissa {cs : List Char} : cs ∈ mantissa.matches' ↔ IsMantissa cs := by
  simp only [mantissa, mem_add, mem_mul, mem_char, mem_digits, mem_star_digit]
  constructor
  · rintro (h | ⟨ws, hws, -, ⟨-, rfl, fs, hfs, rfl⟩, rfl⟩ | ⟨ws, hws, -, ⟨-, rfl, fs, hfs, rfl⟩, rfl⟩)
    · exact .whole h
    · exact .pointed hws.2 hfs fun h => hws.1 h.1
    · exact .pointed hws hfs.2 fun h => hfs.1 h.2
  · intro h
    cases h with
    | whole h => exact .inl h
    | @pointed ws fs hws hfs hne =>
        by_cases hnil : ws = []
        · have hdigits : IsDigits fs := ⟨fun h => hne ⟨hnil, h⟩, hfs⟩
          exact .inr (.inr ⟨ws, hws, _, ⟨_, rfl, fs, hdigits, rfl⟩, rfl⟩)
        · exact .inr (.inl ⟨ws, ⟨hnil, hws⟩, _, ⟨_, rfl, fs, hfs, rfl⟩, rfl⟩)

theorem isSome_readExponent?_iff {cs : List Char} :
    (Decimal.readExponent? cs).isSome = true ↔ ∃ e, IsExponent cs e := by
  constructor
  · intro h
    obtain ⟨e, he⟩ := Option.isSome_iff_exists.1 h
    cases cs with
    | nil => exact ⟨0, .absent⟩
    | cons c cs =>
        simp only [Decimal.readExponent?, Option.ite_none_right_eq_some] at he
        obtain ⟨hc, ⟨hne, hall⟩, -⟩ := he
        have hdigits : IsDigits (splitSign cs).2 := ⟨hne, List.all_eq_true.1 hall⟩
        rw [splitSign.eq_def] at hdigits
        split at hdigits
        · exact ⟨_, .minus hc hdigits⟩
        · exact ⟨_, .plus hc hdigits⟩
        · exact ⟨_, .unsigned hc hdigits⟩
  · rintro ⟨e, h⟩
    rw [h.readExponent?_eq]
    rfl

/-- What is taken apart at the first character that is no digit, and at the point if it is one, is a
mantissa and what follows it. -/
theorem exists_isMantissa {body : List Char}
    (h : ¬(body.takeWhile Char.isDigit = [] ∧
      (Decimal.splitFraction (body.dropWhile Char.isDigit)).1 = [])) :
    ∃ m, IsMantissa m ∧ m ++ (Decimal.splitFraction (body.dropWhile Char.isDigit)).2 = body := by
  have hbody : body.takeWhile Char.isDigit ++ body.dropWhile Char.isDigit = body :=
    List.takeWhile_append_dropWhile
  rw [Decimal.splitFraction.eq_def] at h ⊢
  split at h
  · next cs hpoint =>
      refine ⟨body.takeWhile Char.isDigit ++ '.' :: cs.takeWhile Char.isDigit,
        .pointed (fun c => List.mem_takeWhile_imp) (fun c => List.mem_takeWhile_imp) h, ?_⟩
      rw [List.append_assoc, List.cons_append, List.takeWhile_append_dropWhile, ← hpoint, hbody]
  · exact ⟨body.takeWhile Char.isDigit,
      .whole ⟨fun hnil => h ⟨hnil, rfl⟩, fun c => List.mem_takeWhile_imp⟩, hbody⟩

/-- A mantissa before an exponent is taken apart as it was put together. -/
theorem IsMantissa.splitFraction_eq {m x : List Char} {e : Int} (h : IsMantissa m)
    (hx : IsExponent x e) :
    ¬((m ++ x).takeWhile Char.isDigit = [] ∧
      (Decimal.splitFraction ((m ++ x).dropWhile Char.isDigit)).1 = []) ∧
    (Decimal.splitFraction ((m ++ x).dropWhile Char.isDigit)).2 = x := by
  cases h with
  | whole h =>
      rw [hx.stops.takeWhile_append, hx.stops.dropWhile_append, List.takeWhile_eq_self_iff.2 h.2,
        List.dropWhile_eq_nil_iff.2 h.2]
      rw [IsFraction.absent.splitFraction_eq hx]
      exact ⟨fun hnil => h.1 hnil.1, rfl⟩
  | @pointed ws fs hws hfs hne =>
      have hstops : Stops Char.isDigit ('.' :: (fs ++ x)) := stops_cons.2 rfl
      rw [List.append_assoc, List.cons_append, hstops.takeWhile_append, hstops.dropWhile_append,
        List.takeWhile_eq_self_iff.2 hws, List.dropWhile_eq_nil_iff.2 hws, List.nil_append,
        Decimal.splitFraction, hx.stops.takeWhile_append, hx.stops.dropWhile_append,
        List.takeWhile_eq_self_iff.2 hfs, List.dropWhile_eq_nil_iff.2 hfs]
      exact ⟨hne, rfl⟩

/-- Decimal numbers are read off a mantissa with an exponent, after either sign. -/
theorem isSome_read?_iff {cs : List Char} :
    (Decimal.read? cs).isSome = true ↔
      (splitSign cs).2 ∈ (Pattern.mantissa * Pattern.exponent).matches' := by
  generalize hbody : (splitSign cs).2 = body
  have hread : (Decimal.read? cs).isSome = true ↔
      ¬(body.takeWhile Char.isDigit = [] ∧
        (Decimal.splitFraction (body.dropWhile Char.isDigit)).1 = []) ∧
      (Decimal.readExponent? (Decimal.splitFraction (body.dropWhile Char.isDigit)).2).isSome = true := by
    subst hbody
    simp only [Decimal.read?]
    split
    · next hnil => exact iff_of_false Bool.false_ne_true fun h => h.1 hnil
    · next hne => rw [Option.isSome_map, and_iff_right hne]
  rw [hread, isSome_readExponent?_iff, Pattern.mem_mul]
  constructor
  · rintro ⟨hne, e, he⟩
    obtain ⟨m, hm, hparts⟩ := exists_isMantissa hne
    exact ⟨m, Pattern.mem_mantissa.2 hm, _, Pattern.mem_exponent.2 ⟨e, he⟩, hparts⟩
  · rintro ⟨m, hm, x, hx, rfl⟩
    obtain ⟨e, he⟩ := Pattern.mem_exponent.1 hx
    obtain ⟨hne, hrest⟩ := (Pattern.mem_mantissa.1 hm).splitFraction_eq he
    exact ⟨hne, e, hrest.symm ▸ he⟩

/-! ### Words -/

theorem toNat_toLower (c : Char) :
    c.toLower.toNat = if 65 ≤ c.toNat ∧ c.toNat ≤ 90 then c.toNat + 32 else c.toNat := by
  by_cases h : c.val ≥ 'A'.val ∧ c.val ≤ 'Z'.val
  · have hrange : 65 ≤ c.toNat ∧ c.toNat ≤ 90 := h
    have hlower : c.toLower.toNat = (c.toNat + 32) % 2 ^ 32 := congrArg Char.toNat (dif_pos h)
    rw [if_pos hrange, hlower]
    omega
  · exact (congrArg Char.toNat (dif_neg h)).trans (if_neg h).symm

theorem toNat_toUpper {d : Char} (h : 97 ≤ d.toNat ∧ d.toNat ≤ 122) :
    d.toUpper.toNat + 32 = d.toNat := by
  have hletter : 'a'.val ≤ d.val ∧ d.val ≤ 'z'.val := h
  -- the difference of the letters is added in words of 32 bits, so that it wraps around
  have hshift : ('A'.val - 'a'.val).toNat = 4294967264 := by decide +kernel
  have hsum : d.toUpper.toNat = (d.val + ('A'.val - 'a'.val)).toNat := by
    delta Char.toUpper
    rw [dif_pos hletter]
    rfl
  rw [hsum, UInt32.toNat_add, hshift, show d.val.toNat = d.toNat from rfl]
  omega

/-- A lower-case letter is the lower-case form of itself and of its upper-case form. -/
theorem toLower_eq_iff {c d : Char} (hd : d.isLower = true) :
    c.toLower = d ↔ c = d ∨ c = d.toUpper := by
  have hrange : 97 ≤ d.toNat ∧ d.toNat ≤ 122 := by
    have hletter : decide (d.val ≥ 'a'.val) = true ∧ decide (d.val ≤ 'z'.val) = true :=
      Bool.and_eq_true_iff.1 hd
    exact ⟨of_decide_eq_true hletter.1, of_decide_eq_true hletter.2⟩
  have hupper := toNat_toUpper hrange
  rw [← Char.toNat_inj, ← Char.toNat_inj, ← Char.toNat_inj, toNat_toLower]
  split <;> omega

/-- A word in any case is what has the word for its lower-case form. -/
theorem Pattern.mem_caseless {word cs : List Char} (h : word.all Char.isLower = true) :
    cs ∈ (caseless word).matches' ↔ cs.map Char.toLower = word := by
  induction word generalizing cs with
  | nil => rw [List.map_eq_nil_iff]; exact Iff.rfl
  | cons d word ih =>
      obtain ⟨hd, hword⟩ := Bool.and_eq_true_iff.1 h
      have hletter {c : Char} : [c] ∈ (oneOf [d, d.toUpper]).matches' ↔ c.toLower = d := by
        rw [toLower_eq_iff hd, mem_oneOf]
        simp
      rw [caseless, List.foldr_cons, mem_mul, ← caseless]
      constructor
      · rintro ⟨letter, hc, rest, hrest, rfl⟩
        obtain ⟨c, -, rfl⟩ := mem_oneOf.1 hc
        rw [List.singleton_append, List.map_cons, hletter.1 hc, (ih hword).1 hrest]
      · intro hmap
        obtain ⟨c, rest, rfl, hc, hrest⟩ := List.map_eq_cons_iff.1 hmap
        exact ⟨[c], hletter.2 hc, rest, (ih hword).2 hrest, rfl⟩

/-! ### Texts of doubles -/

/-- What a pattern matches after either sign, when nothing that it matches has a sign of its own. -/
theorem Pattern.mem_signed {p : RegularExpression Char} {cs : List Char}
    (hp : ∀ ds ∈ p.matches', ∀ c ∈ ds.head?, c ≠ '-' ∧ c ≠ '+') :
    cs ∈ (sign * p).matches' ↔ (splitSign cs).2 ∈ p.matches' := by
  rw [mem_mul]
  constructor
  · rintro ⟨s, hs, ds, hds, rfl⟩
    rcases mem_sign.1 hs with rfl | rfl | rfl
    · rw [List.nil_append, splitSign_of_head (hp ds hds)]
      exact hds
    · exact hds
    · exact hds
  · intro h
    rw [splitSign.eq_def] at h
    split at h
    · exact ⟨['-'], mem_sign.2 (.inr (.inr rfl)), _, h, rfl⟩
    · exact ⟨['+'], mem_sign.2 (.inr (.inl rfl)), _, h, rfl⟩
    · exact ⟨[], mem_sign.2 (.inl rfl), _, h, rfl⟩

/-- What follows the sign of a double has no sign of its own. -/
theorem Pattern.head_ne_sign {cs : List Char} (h : cs ∈ (mantissa * exponent + nonFinite).matches') :
    ∀ c ∈ cs.head?, c ≠ '-' ∧ c ≠ '+' := by
  have hdigits {m x : List Char} (hm : IsMantissa m) : ∀ c ∈ (m ++ x).head?, c ≠ '-' ∧ c ≠ '+' := by
    obtain ⟨c, m, rfl, hc⟩ := hm.exists_cons
    rintro _ ⟨⟩
    constructor <;> rintro rfl <;> simp at hc
  have hword {d : Char} {word : List Char} (hd : d.isLower = true)
      (hmap : cs.map Char.toLower = d :: word) : ∀ c ∈ cs.head?, c ≠ '-' ∧ c ≠ '+' := by
    obtain ⟨c, rest, rfl, rfl, -⟩ := List.map_eq_cons_iff.1 hmap
    rintro _ ⟨⟩
    constructor <;> rintro rfl <;> simp at hd
  rcases mem_add.1 h with h | h
  · obtain ⟨m, hm, x, -, rfl⟩ := mem_mul.1 h
    exact hdigits (mem_mantissa.1 hm)
  · rw [nonFinite, mem_add, mem_add, mem_caseless (by decide), mem_caseless (by decide),
      mem_caseless (by decide)] at h
    rcases h with h | h | h <;> exact hword (by decide) h

theorem isSome_readNonFinite?_iff {cs : List Char} :
    (readNonFinite? cs).isSome = true ↔ (splitSign cs).2 ∈ Pattern.nonFinite.matches' := by
  rw [Pattern.nonFinite, Pattern.mem_add, Pattern.mem_add, Pattern.mem_caseless (by decide),
    Pattern.mem_caseless (by decide), Pattern.mem_caseless (by decide), ← or_assoc]
  simp only [readNonFinite?]
  split
  · next hinf => exact iff_of_true rfl (.inl hinf)
  · next hinf =>
      rw [or_iff_right hinf]
      split
      · next hnan => exact iff_of_true rfl hnan
      · next hnan => exact iff_of_false Bool.false_ne_true hnan

/-- **The reader of doubles accepts exactly the texts of doubles.** -/
theorem isSome_readFloat?_iff_mem {cs : List Char} :
    (readFloat? cs).isSome = true ↔ cs ∈ Pattern.float.matches' := by
  have hread : (readFloat? cs).isSome = true ↔
      (Decimal.read? cs).isSome = true ∨ (readNonFinite? cs).isSome = true := by
    rw [readFloat?]
    cases Decimal.read? cs <;> simp
  rw [hread, isSome_read?_iff, isSome_readNonFinite?_iff, Pattern.float,
    Pattern.mem_signed fun _ => Pattern.head_ne_sign, Pattern.mem_add]

/-- **Every number of rule text is a text of a double.** -/
theorem Pattern.mem_float_of_mem_numeral {cs : List Char} (h : cs ∈ numeral.matches') :
    cs ∈ float.matches' := by
  obtain ⟨d, hd⟩ := mem_numeral.1 h
  have hread : (readFloat? cs).isSome = true := by
    rw [readFloat?, hd.read?_eq]
    rfl
  exact isSome_readFloat?_iff_mem.1 hread

end Rulebook
