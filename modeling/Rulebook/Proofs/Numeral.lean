/-
**The numbers of rule text as a language.**

`Rulebook.isNumeral` recognises a number by walking over it; here the same numbers are put together
from their parts: a minus sign, digits, a fraction and an exponent, all but the digits optional.  The
parts also say which decimal number is meant, so the relation fixes the value of a number together
with its form.

Main definitions:

* `Rulebook.Stops` — a text does not go on with a class of characters;
* `Rulebook.IsDigits`, `Rulebook.IsFraction`, `Rulebook.IsExponent`, `Rulebook.IsNumeral` — the parts
  of a number and the whole of it, with what they stand for.

Main results:

* `Rulebook.isNumeral_iff` — the recogniser accepts exactly the language;
* `Rulebook.IsNumeral.read?_eq` — the general reader of numerals gives the decimal that is meant;
* `Rulebook.readNumber_eq_ok_iff` — what the lexer takes for a number, and which one.
-/

import Mathlib.Data.List.TakeWhile
import Rulebook.Rule.Token

set_option autoImplicit false

namespace Rulebook

/-! ### Classes of characters -/

/-- A character of a class differs from any that is not in it. -/
theorem ne_of_class {p : Char → Bool} {c d : Char} (hc : p c = true) (hd : p d = false) : c ≠ d := by
  rintro rfl
  rw [hc] at hd
  exact Bool.noConfusion hd

/-- A class of a few listed characters has none of a class that none of them is in. -/
theorem eq_false_of_listed {p q : Char → Bool} (listed : List Char) (hp : ∀ c, p c = true → c ∈ listed)
    (hq : listed.any q = false) {c : Char} (h : q c = true) : p c = false :=
  Bool.eq_false_iff.2 fun hc => List.any_eq_false.1 hq c (hp c hc) h

/-! ### Longest runs -/

/-- The text does not start with a character of the class. -/
def Stops (p : Char → Bool) (cs : List Char) : Prop := ∀ c ∈ cs.head?, p c = false

@[simp] theorem stops_nil (p : Char → Bool) : Stops p [] := by simp [Stops]

@[simp] theorem stops_cons {p : Char → Bool} {c : Char} {cs : List Char} :
    Stops p (c :: cs) ↔ p c = false := by simp [Stops]

theorem stops_dropWhile (p : Char → Bool) (cs : List Char) : Stops p (cs.dropWhile p) := by
  intro c hc
  have h := List.head?_dropWhile_not p cs
  rw [Option.mem_def.1 hc] at h
  exact h

theorem Stops.takeWhile_eq_nil {p : Char → Bool} {cs : List Char} (h : Stops p cs) :
    cs.takeWhile p = [] := by
  cases cs with
  | nil => rfl
  | cons c cs => rw [List.takeWhile_cons, stops_cons.1 h]; rfl

theorem Stops.dropWhile_eq {p : Char → Bool} {cs : List Char} (h : Stops p cs) :
    cs.dropWhile p = cs := by
  cases cs with
  | nil => rfl
  | cons c cs => rw [List.dropWhile_cons, stops_cons.1 h]; rfl

/-- A run that ends before `t` at the latest does not depend on it. -/
theorem Stops.takeWhile_append {p : Char → Bool} {t : List Char} (h : Stops p t) (cs : List Char) :
    (cs ++ t).takeWhile p = cs.takeWhile p := by
  induction cs with
  | nil => exact h.takeWhile_eq_nil
  | cons c cs ih => rw [List.cons_append, List.takeWhile_cons, List.takeWhile_cons, ih]

theorem Stops.dropWhile_append {p : Char → Bool} {t : List Char} (h : Stops p t) (cs : List Char) :
    (cs ++ t).dropWhile p = cs.dropWhile p ++ t := by
  induction cs with
  | nil => exact h.dropWhile_eq
  | cons c cs ih =>
      rw [List.cons_append, List.dropWhile_cons, List.dropWhile_cons, ih]
      split <;> rfl

/-! ### The parts of a number -/

/-- A row of ASCII digits that is not empty. -/
def IsDigits (cs : List Char) : Prop := cs ≠ [] ∧ ∀ c ∈ cs, c.isDigit = true

/-- A minus sign, which may be absent. -/
inductive IsSign : List Char → Bool → Prop
  | absent : IsSign [] false
  | minus : IsSign ['-'] true

/-- A fraction with its digits; it may be absent. -/
inductive IsFraction : List Char → List Char → Prop
  | absent : IsFraction [] []
  | point {ds : List Char} (h : IsDigits ds) : IsFraction ('.' :: ds) ds

/-- An exponent with its value; it may be absent. -/
inductive IsExponent : List Char → Int → Prop
  | absent : IsExponent [] 0
  | unsigned {c : Char} {ds : List Char} (hc : c = 'e' ∨ c = 'E') (h : IsDigits ds) :
      IsExponent (c :: ds) (natOfDigits ds)
  | plus {c : Char} {ds : List Char} (hc : c = 'e' ∨ c = 'E') (h : IsDigits ds) :
      IsExponent (c :: '+' :: ds) (natOfDigits ds)
  | minus {c : Char} {ds : List Char} (hc : c = 'e' ∨ c = 'E') (h : IsDigits ds) :
      IsExponent (c :: '-' :: ds) (-(natOfDigits ds : Int))

/-- **The numbers of rule text**, `-?digits(.digits)?([eE][+-]?digits)?`, with the decimal number that
each stands for. -/
inductive IsNumeral : List Char → Decimal → Prop
  | parts {sign whole fraction fractionDigits exponent : List Char} {negative : Bool} {e : Int}
      (hsign : IsSign sign negative) (hwhole : IsDigits whole)
      (hfraction : IsFraction fraction fractionDigits) (hexponent : IsExponent exponent e) :
      IsNumeral (sign ++ (whole ++ (fraction ++ exponent)))
        ⟨negative, natOfDigits (whole ++ fractionDigits), e - fractionDigits.length⟩

/-! ### How the parts are told apart -/

theorem isDigit_exponentLetter {c : Char} (h : c = 'e' ∨ c = 'E') : c.isDigit = false := by
  rcases h with rfl | rfl <;> rfl

theorem IsExponent.stops {cs : List Char} {e : Int} (h : IsExponent cs e) :
    Stops Char.isDigit cs := by
  cases h with
  | absent => exact stops_nil _
  | unsigned hc _ => exact stops_cons.2 (isDigit_exponentLetter hc)
  | plus hc _ => exact stops_cons.2 (isDigit_exponentLetter hc)
  | minus hc _ => exact stops_cons.2 (isDigit_exponentLetter hc)

theorem IsFraction.stops_append {fraction ds exponent : List Char} {e : Int}
    (h : IsFraction fraction ds) (he : IsExponent exponent e) :
    Stops Char.isDigit (fraction ++ exponent) := by
  cases h with
  | absent => exact he.stops
  | point _ => exact stops_cons.2 rfl

theorem IsExponent.head_ne_point {cs : List Char} {e : Int} (h : IsExponent cs e) :
    '.' ∉ cs.head? := by
  have letter_ne {c : Char} (hc : c = 'e' ∨ c = 'E') : '.' ≠ c := by
    rcases hc with rfl | rfl <;> decide
  cases h with
  | absent => simp
  | unsigned hc _ => simpa using (letter_ne hc).symm
  | plus hc _ => simpa using (letter_ne hc).symm
  | minus hc _ => simpa using (letter_ne hc).symm

theorem IsDigits.exists_cons {ds : List Char} (h : IsDigits ds) :
    ∃ d rest, ds = d :: rest ∧ d.isDigit = true := by
  obtain ⟨hne, hall⟩ := h
  cases ds with
  | nil => exact absurd rfl hne
  | cons d rest => exact ⟨d, rest, rfl, hall d List.mem_cons_self⟩

/-- What the walk over a row of digits finds. -/
theorem afterDigits?_eq_some_iff {cs rest : List Char} :
    afterDigits? cs = some rest ↔
      ∃ ds, IsDigits ds ∧ cs = ds ++ rest ∧ Stops Char.isDigit rest := by
  constructor
  · intro h
    simp only [afterDigits?, Option.ite_none_left_eq_some, Option.some.injEq] at h
    obtain ⟨hne, rfl⟩ := h
    exact ⟨cs.takeWhile Char.isDigit, ⟨hne, fun c => List.mem_takeWhile_imp⟩,
      List.takeWhile_append_dropWhile.symm, stops_dropWhile _ _⟩
  · rintro ⟨ds, ⟨hne, hall⟩, rfl, hrest⟩
    rw [afterDigits?, hrest.takeWhile_append, hrest.dropWhile_append,
      List.takeWhile_eq_self_iff.2 hall, List.dropWhile_eq_nil_iff.2 hall, if_neg hne]
    rfl

theorem afterFraction?_of_point {ds rest : List Char} (h : IsDigits ds)
    (hrest : Stops Char.isDigit rest) : afterFraction? ('.' :: (ds ++ rest)) = some rest :=
  afterDigits?_eq_some_iff.2 ⟨ds, h, rfl, hrest⟩

theorem afterFraction?_of_head_ne {cs : List Char} (h : '.' ∉ cs.head?) :
    afterFraction? cs = some cs := by
  unfold afterFraction?
  split
  · exact absurd rfl h
  · rfl

/-- What the walk over a fraction finds. -/
theorem exists_isFraction_of_afterFraction? {cs rest : List Char}
    (h : afterFraction? cs = some rest) :
    ∃ fraction ds, IsFraction fraction ds ∧ cs = fraction ++ rest := by
  unfold afterFraction? at h
  split at h
  · obtain ⟨ds, hds, rfl, -⟩ := afterDigits?_eq_some_iff.1 h
    exact ⟨'.' :: ds, ds, .point hds, rfl⟩
  · cases h
    exact ⟨[], [], .absent, rfl⟩

/-- What the walk over an exponent finds when nothing follows it. -/
theorem exists_isExponent_of_afterExponent? {cs : List Char} (h : afterExponent? cs = some []) :
    ∃ e, IsExponent cs e := by
  unfold afterExponent? at h
  split at h
  · next c cs =>
      split at h
      · next hc =>
          obtain ⟨ds, hds, hcs, -⟩ := afterDigits?_eq_some_iff.1 h
          rw [List.append_nil] at hcs
          unfold splitSign at hcs
          split at hcs
          · subst hcs; exact ⟨_, .minus hc hds⟩
          · subst hcs; exact ⟨_, .plus hc hds⟩
          · subst hcs; exact ⟨_, .unsigned hc hds⟩
      · cases h
  · exact ⟨0, .absent⟩

/-- A text that starts with no sign has none. -/
theorem splitSign_of_head {cs : List Char} (h : ∀ c ∈ cs.head?, c ≠ '-' ∧ c ≠ '+') :
    splitSign cs = (false, cs) := by
  rw [splitSign.eq_def]
  split
  · exact absurd rfl (h '-' rfl).1
  · exact absurd rfl (h '+' rfl).2
  · rfl

theorem IsDigits.splitSign_eq {ds : List Char} (h : IsDigits ds) (rest : List Char) :
    splitSign (ds ++ rest) = (false, ds ++ rest) := by
  obtain ⟨d, ds, rfl, hd⟩ := h.exists_cons
  refine splitSign_of_head ?_
  rintro _ ⟨⟩
  exact ⟨ne_of_class hd rfl, ne_of_class hd rfl⟩

theorem IsDigits.dropMinus_eq {ds : List Char} (h : IsDigits ds) (rest : List Char) :
    dropMinus (ds ++ rest) = ds ++ rest := by
  obtain ⟨d, ds, rfl, hd⟩ := h.exists_cons
  have hminus : d ≠ '-' := ne_of_class hd rfl
  rw [List.cons_append, dropMinus]
  exact fun _ heq => hminus (List.cons.inj heq).1

theorem IsDigits.afterDigits?_eq {ds : List Char} (h : IsDigits ds) : afterDigits? ds = some [] :=
  afterDigits?_eq_some_iff.2 ⟨ds, h, (List.append_nil ds).symm, stops_nil _⟩

theorem IsExponent.afterExponent?_eq {cs : List Char} {e : Int} (h : IsExponent cs e) :
    afterExponent? cs = some [] := by
  cases h with
  | absent => rfl
  | unsigned hc hds =>
      have hsplit := hds.splitSign_eq []
      rw [List.append_nil] at hsplit
      rw [afterExponent?, if_pos hc, hsplit]
      exact hds.afterDigits?_eq
  | plus hc hds => rw [afterExponent?, if_pos hc]; exact hds.afterDigits?_eq
  | minus hc hds => rw [afterExponent?, if_pos hc]; exact hds.afterDigits?_eq

/-! ### The recogniser -/

theorem exists_isSign_dropMinus (cs : List Char) :
    ∃ sign negative, IsSign sign negative ∧ cs = sign ++ dropMinus cs := by
  unfold dropMinus
  split
  · exact ⟨['-'], true, .minus, rfl⟩
  · exact ⟨[], false, .absent, rfl⟩

theorem IsFraction.afterFraction?_eq {fraction ds exponent : List Char} {e : Int}
    (h : IsFraction fraction ds) (he : IsExponent exponent e) :
    afterFraction? (fraction ++ exponent) = some exponent := by
  cases h with
  | absent => exact afterFraction?_of_head_ne he.head_ne_point
  | point hds => exact afterFraction?_of_point hds he.stops

/-- **The recogniser accepts exactly the numbers of rule text.** -/
theorem isNumeral_iff {cs : List Char} : isNumeral cs = true ↔ ∃ d, IsNumeral cs d := by
  rw [isNumeral, beq_iff_eq]
  constructor
  · intro h
    obtain ⟨exponent, hfraction, hexponent⟩ := Option.bind_eq_some_iff.1 h
    obtain ⟨rest, hwhole, hfraction⟩ := Option.bind_eq_some_iff.1 hfraction
    obtain ⟨sign, negative, hsign, hcs⟩ := exists_isSign_dropMinus cs
    obtain ⟨whole, hdigits, hbody, -⟩ := afterDigits?_eq_some_iff.1 hwhole
    obtain ⟨fraction, ds, hds, rfl⟩ := exists_isFraction_of_afterFraction? hfraction
    obtain ⟨e, he⟩ := exists_isExponent_of_afterExponent? hexponent
    rw [hcs, hbody]
    exact ⟨_, .parts hsign hdigits hds he⟩
  · rintro ⟨d, hd⟩
    cases hd with
    | @parts sign whole fraction ds exponent negative e hsign hwhole hfraction hexponent =>
        have hdrop : dropMinus (sign ++ (whole ++ (fraction ++ exponent))) =
            whole ++ (fraction ++ exponent) := by
          cases hsign with
          | absent => exact hwhole.dropMinus_eq _
          | minus => rfl
        have hdigits : afterDigits? (whole ++ (fraction ++ exponent)) =
            some (fraction ++ exponent) :=
          afterDigits?_eq_some_iff.2 ⟨whole, hwhole, rfl, hfraction.stops_append hexponent⟩
        rw [hdrop, hdigits, Option.bind_some, hfraction.afterFraction?_eq hexponent,
          Option.bind_some, hexponent.afterExponent?_eq]

/-! ### The value -/

theorem IsExponent.readExponent?_eq {cs : List Char} {e : Int} (h : IsExponent cs e) :
    Decimal.readExponent? cs = some e := by
  have hgood {ds : List Char} (hds : IsDigits ds) : ds ≠ [] ∧ ds.all Char.isDigit = true :=
    ⟨hds.1, List.all_eq_true.2 hds.2⟩
  cases h with
  | absent => rfl
  | @unsigned c ds hc hds =>
      have hsplit := hds.splitSign_eq []
      rw [List.append_nil] at hsplit
      rw [Decimal.readExponent?, if_pos hc, hsplit]
      exact if_pos (hgood hds)
  | plus hc hds => rw [Decimal.readExponent?, if_pos hc]; exact if_pos (hgood hds)
  | minus hc hds => rw [Decimal.readExponent?, if_pos hc]; exact if_pos (hgood hds)

theorem IsFraction.splitFraction_eq {fraction ds exponent : List Char} {e : Int}
    (h : IsFraction fraction ds) (he : IsExponent exponent e) :
    Decimal.splitFraction (fraction ++ exponent) = (ds, exponent) := by
  cases h with
  | absent =>
      rw [List.nil_append]
      unfold Decimal.splitFraction
      split
      · exact absurd rfl he.head_ne_point
      · rfl
  | point hds =>
      rw [List.cons_append, Decimal.splitFraction, he.stops.takeWhile_append,
        he.stops.dropWhile_append, List.takeWhile_eq_self_iff.2 hds.2,
        List.dropWhile_eq_nil_iff.2 hds.2]
      rfl

theorem IsSign.splitSign_eq {sign whole : List Char} {negative : Bool} (h : IsSign sign negative)
    (hwhole : IsDigits whole) (rest : List Char) :
    splitSign (sign ++ (whole ++ rest)) = (negative, whole ++ rest) := by
  cases h with
  | absent => exact hwhole.splitSign_eq rest
  | minus => rfl

/-- The general reader of numerals takes a number of rule text for the decimal that it stands for. -/
theorem IsNumeral.read?_eq {cs : List Char} {d : Decimal} (h : IsNumeral cs d) :
    Decimal.read? cs = some d := by
  cases h with
  | @parts sign whole fraction ds exponent negative e hsign hwhole hfraction hexponent =>
      have hstops := hfraction.stops_append hexponent
      rw [Decimal.read?, hsign.splitSign_eq hwhole]
      simp only [hstops.takeWhile_append, hstops.dropWhile_append,
        List.takeWhile_eq_self_iff.2 hwhole.2, List.dropWhile_eq_nil_iff.2 hwhole.2, List.nil_append,
        hfraction.splitFraction_eq hexponent, hexponent.readExponent?_eq, hwhole.1, false_and, if_false,
        Option.map_some]

/-- The lexer takes a text for a number exactly when it has the form of one and its value is finite. -/
theorem readNumber_eq_ok_iff {cs : List Char} {x : Float} :
    readNumber cs = .ok x ↔ ∃ d, IsNumeral cs d ∧ d.toFloat = x ∧ x.isFinite = true := by
  constructor
  · intro h
    simp only [readNumber] at h
    split at h
    · next d hread =>
        split at h
        · next hform =>
            obtain ⟨d', hd'⟩ := isNumeral_iff.1 hform
            obtain rfl : d' = d := Option.some_inj.1 (hd'.read?_eq.symm.trans hread)
            split at h
            · next hfinite => cases h; exact ⟨d', hd', rfl, hfinite⟩
            · cases h
        · cases h
    · cases h
  · rintro ⟨d, hd, rfl, hfinite⟩
    simp only [readNumber, hd.read?_eq, isNumeral_iff.2 ⟨d, hd⟩, if_true, hfinite]

end Rulebook
