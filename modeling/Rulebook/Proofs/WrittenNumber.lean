/-
**The form of written numbers.**

`Rulebook.decimalText` puts a number together from its shortest digits and the place of the point.
Whatever the digits are, the text of a finite double is a number of rule text: the digits before and
after the point never run out.

Main results:

* `Rulebook.exists_parts_positional` — digits with a point are a whole part and a fraction;
* `Rulebook.exists_isNumeral_decimalText` — **the text of a finite double is a number of rule text**.
-/

import Rulebook.Decimal.Layout
import Rulebook.Proofs.Numeral

set_option autoImplicit false

namespace Rulebook

theorem isDigits_toDigits (n : Nat) : IsDigits (Nat.toDigits 10 n) :=
  ⟨Nat.toDigits_ne_nil, fun _ hc => Nat.isDigit_of_mem_toDigits (by decide) (by decide) hc⟩

theorem IsDigits.append_all {ds es : List Char} (hds : IsDigits ds)
    (hes : ∀ c ∈ es, c.isDigit = true) : IsDigits (ds ++ es) :=
  ⟨List.append_ne_nil_of_left_ne_nil hds.1 es, List.forall_mem_append.2 ⟨hds.2, hes⟩⟩

theorem isDigit_of_mem_replicate {n : Nat} {c : Char} (h : c ∈ List.replicate n '0') :
    c.isDigit = true := by
  rw [List.eq_of_mem_replicate h]
  rfl

/-- Digits with a point among, before or after them are a whole part and a fraction. -/
theorem exists_parts_positional {digits : List Char} (h : IsDigits digits) (point : Int) :
    ∃ whole fraction ds, IsDigits whole ∧ IsFraction fraction ds ∧
      positional digits point = whole ++ fraction := by
  rw [positional]
  split
  · refine ⟨['0'], _, List.replicate point.natAbs '0' ++ digits, ⟨by simp, by simp⟩, .point ?_, rfl⟩
    exact ⟨List.append_ne_nil_of_right_ne_nil _ h.1,
      List.forall_mem_append.2 ⟨fun _ => isDigit_of_mem_replicate, h.2⟩⟩
  · next hpoint =>
      split
      · exact ⟨digits ++ List.replicate (point.toNat - digits.length) '0', [], [],
          h.append_all fun _ => isDigit_of_mem_replicate, .absent, (List.append_nil _).symm⟩
      · next hlength =>
          refine ⟨digits.take point.toNat, _, digits.drop point.toNat, ⟨?_, ?_⟩, .point ⟨?_, ?_⟩, rfl⟩
          · rw [Ne, List.take_eq_nil_iff]
            rintro (hzero | hnil)
            · omega
            · exact h.1 hnil
          · exact fun c hc => h.2 c (List.mem_of_mem_take hc)
          · rw [Ne, List.drop_eq_nil_iff]
            exact hlength
          · exact fun c hc => h.2 c (List.mem_of_mem_drop hc)

theorem isDigits_digitsAndPoint (tie : TieRule) (x : Float) :
    IsDigits (digitsAndPoint tie x).1 := by
  rw [digitsAndPoint]
  split
  · exact ⟨by simp, by simp⟩
  · exact isDigits_toDigits _

theorem isSign_signText (x : Float) : IsSign (signText x) (isNegative x) := by
  rw [signText]
  cases isNegative x with
  | false => exact .absent
  | true => exact .minus

/-- A finite double is neither an infinity nor no number. -/
theorem isNaN_isInf_of_isFinite {x : Float} (h : x.isFinite = true) :
    x.isNaN = false ∧ x.isInf = false := by
  change x.toModel.unpack.isFinite = true at h
  change x.toModel.unpack.isNaN = false ∧ x.toModel.unpack.isInf = false
  cases hx : x.toModel.unpack <;> rw [hx] at h <;> first | exact ⟨rfl, rfl⟩ | cases h

theorem toList_decimalText {x : Float} (h : x.isFinite = true) :
    (decimalText x).toList =
      signText x ++ positional (digitsAndPoint .upper x).1 (digitsAndPoint .upper x).2 := by
  obtain ⟨hnan, hinf⟩ := isNaN_isInf_of_isFinite h
  rw [decimalText, hnan, hinf]
  simp

/-- **The text of a finite double is a number of rule text.** -/
theorem exists_isNumeral_decimalText {x : Float} (h : x.isFinite = true) :
    ∃ d, IsNumeral (decimalText x).toList d := by
  obtain ⟨whole, fraction, ds, hwhole, hfraction, hparts⟩ :=
    exists_parts_positional (isDigits_digitsAndPoint .upper x) (digitsAndPoint .upper x).2
  rw [toList_decimalText h, hparts]
  have hnumeral := IsNumeral.parts (isSign_signText x) hwhole hfraction .absent
  rw [List.append_nil] at hnumeral
  exact ⟨_, hnumeral⟩

/-- The text of a finite double that reads back is a number of rule text and stands for the double. -/
theorem exists_isNumeral_of_readsBack {x : Float} (h : x.isFinite = true)
    (hread : readFloat? (decimalText x).toList = some x) :
    ∃ d, IsNumeral (decimalText x).toList d ∧ d.toFloat = x := by
  obtain ⟨d, hd⟩ := exists_isNumeral_decimalText h
  rw [readFloat?, hd.read?_eq] at hread
  exact ⟨d, hd, Option.some_inj.1 hread⟩

end Rulebook
