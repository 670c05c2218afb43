/-
**How large doubles are.**

A double is zero, or a mantissa with an exponent, or it is no number.  The weight of its leading bit
bounds it on either side, and what an operation does to these weights is enough to tell that a result
is finite: rounding keeps the exponent within the weight of what is rounded, and a value whose
exponent fits is packed as a finite double.

Main definitions:

* `Rulebook.Magnitude.Written` — a value whose exponent is bounded;
* `Rulebook.Magnitude.Below` — a finite value whose weight is bounded;
* `Rulebook.Magnitude.AtLeast` — a value whose weight is bounded from below.

Main results:

* `Rulebook.Magnitude.written_round` — what rounding does to the exponent;
* `Rulebook.Magnitude.Written.below` — what is written with a small exponent is finite;
* `Rulebook.Magnitude.below_div`, `Rulebook.Magnitude.below_mul` — bounds of quotients and products;
* `Rulebook.Magnitude.below_ofNat`, `Rulebook.Magnitude.atLeast_power` — bounds of whole numbers and
  of powers of ten.
-/

import Mathlib

set_option autoImplicit false

namespace Rulebook.Magnitude
open Float.Model (Format UnpackedFloat totalExponent)
open Float.Model.UnpackedFloat

/-! ### Leading bits -/

theorem log2_div_two_pow (m k : Nat) : (m / 2 ^ k).log2 = m.log2 - k := by
  simp only [Nat.log2_eq_log_two, Nat.log_div_base_pow]

theorem log2_le_of_lt {m k : Nat} (h : m < 2 ^ (k + 1)) : m.log2 ≤ k := by
  by_cases hm : m = 0
  · simp [hm]
  · exact Nat.lt_succ_iff.1 ((Nat.log2_lt hm).2 h)

theorem log2_succ_le {m r : Nat} (h : r ≤ m + 1) : r.log2 ≤ m.log2 + 1 := by
  have hm : m < 2 ^ (m.log2 + 1) := Nat.lt_log2_self
  refine log2_le_of_lt ?_
  rw [Nat.pow_succ]
  omega

theorem log2_mul_le (a b : Nat) : (a * b).log2 ≤ a.log2 + b.log2 + 1 := by
  refine log2_le_of_lt ?_
  calc a * b < 2 ^ (a.log2 + 1) * 2 ^ (b.log2 + 1) :=
        Nat.mul_lt_mul'' Nat.lt_log2_self Nat.lt_log2_self
    _ = 2 ^ (a.log2 + b.log2 + 1 + 1) := by rw [← Nat.pow_add]; congr 1; omega

theorem log2_div_le (a b : Nat) : (a / b).log2 ≤ a.log2 - b.log2 := by
  by_cases hb : b = 0
  · simp [hb]
  have ha : a < 2 ^ (a.log2 + 1) := Nat.lt_log2_self
  refine log2_le_of_lt ((Nat.div_lt_iff_lt_mul (Nat.pos_of_ne_zero hb)).2 (ha.trans_le ?_))
  calc 2 ^ (a.log2 + 1) ≤ 2 ^ (a.log2 - b.log2 + 1) * 2 ^ b.log2 := by
        rw [← Nat.pow_add]
        exact Nat.pow_le_pow_right (by omega) (by omega)
    _ ≤ 2 ^ (a.log2 - b.log2 + 1) * b := Nat.mul_le_mul_left _ (Nat.log2_self_le hb)

theorem log2_shiftLeft {m : Nat} (hm : 0 < m) (k : Nat) : (m <<< k).log2 = m.log2 + k := by
  have hm0 : m ≠ 0 := by omega
  rw [Nat.shiftLeft_eq, Nat.log2_eq_iff (by positivity), Nat.pow_add, Nat.add_right_comm, Nat.pow_add]
  exact ⟨Nat.mul_le_mul_right _ (Nat.log2_self_le hm0),
    Nat.mul_lt_mul_of_pos_right Nat.lt_log2_self (Nat.two_pow_pos k)⟩

/-! ### Rounding -/

theorem mantissa_shiftRight (em : ExtendedMantissa) (k : Nat) :
    (em >>> k).mantissa = em.mantissa / 2 ^ k := by
  show (Nat.repeat ExtendedMantissa.shiftRightOne k em).mantissa = _
  induction k with
  | zero => exact (Nat.div_one _).symm
  | succ k ih =>
      rw [Nat.repeat, ExtendedMantissa.shiftRightOne, ih, Nat.div_div_eq_div_mul, Nat.pow_succ]

theorem mantissa_ofMantissaAndAccuracy (m : Nat) (accuracy : Accuracy) :
    (ExtendedMantissa.ofMantissaAndAccuracy m accuracy).mantissa = m := by
  cases accuracy with
  | exact => rfl
  | inexact o => cases o <;> rfl

/-- Rounding takes a mantissa as it is or adds one. -/
theorem roundedMantissa_bounds (em : ExtendedMantissa) :
    em.mantissa ≤ em.roundedMantissa ∧ em.roundedMantissa ≤ em.mantissa + 1 := by
  obtain ⟨m, r, s⟩ := em
  cases r <;> cases s <;>
    simp only [ExtendedMantissa.roundedMantissa, ExtendedMantissa.accuracy,
      Accuracy.roundToNearestEven] <;> omega

/-- The exponent of a double whose leading bit has the given weight. -/
theorem targetExponent_eq (total : Int) :
    Format.binary64.targetExponent total = max (total - 53) (-1074) := rfl

/-- By how many bits a mantissa is cut to that of a double. -/
def cut (m : Nat) (e : Int) : Nat := (max (totalExponent m e - 53) (-1074) - e).toNat

/-- A value is rounded by cutting its mantissa, going to one of the two next mantissas, and cutting that
once more. -/
theorem exists_rounded (sign : Sign) (m : Nat) (e : Int) (accuracy : Accuracy) :
    ∃ r e', e' = e + cut m e ∧ m / 2 ^ cut m e ≤ r ∧ r ≤ m / 2 ^ cut m e + 1 ∧
      roundWithAccuracy Format.binary64 sign m e accuracy =
        if h : r / 2 ^ cut r e' = 0 then .zero sign
        else .finite sign (r / 2 ^ cut r e') (e' + cut r e') (Nat.pos_of_ne_zero h) := by
  obtain ⟨hle, hge⟩ := roundedMantissa_bounds
    (ExtendedMantissa.ofMantissaAndAccuracy m accuracy >>> cut m e)
  rw [mantissa_shiftRight, mantissa_ofMantissaAndAccuracy] at hle hge
  refine ⟨_, _, rfl, hle, hge, ?_⟩
  simp only [roundWithAccuracy, shiftToTargetExponent, shiftToExponent, targetExponent_eq,
    mantissa_shiftRight, mantissa_ofMantissaAndAccuracy]
  rfl

/-- A value that is zero or written with an exponent of at most `top`. -/
inductive Written (top : Int) : UnpackedFloat → Prop
  | zero (sign : Sign) : Written top (.zero sign)
  | finite (sign : Sign) (m : Nat) {e : Int} (h : 0 < m) (he : e ≤ top) :
      Written top (.finite sign m e h)

/-- Rounding keeps the exponent within the weight of the leading bit. -/
theorem written_round {sign : Sign} {m : Nat} {e : Int} {accuracy : Accuracy} {top : Int}
    (htop : totalExponent m e ≤ top) (hpos : 0 ≤ top) :
    Written top (roundWithAccuracy Format.binary64 sign m e accuracy) := by
  obtain ⟨r, e', he', -, hr, hround⟩ := exists_rounded sign m e accuracy
  have hlog := log2_succ_le hr
  rw [log2_div_two_pow] at hlog
  rw [hround]
  split
  · exact .zero sign
  · refine .finite sign _ _ ?_
    simp only [cut, totalExponent] at *
    omega

/-- A mantissa with all the bits of a double is rounded to one, and the value does not fall below the
weight of its leading bit. -/
theorem exists_normal_round {sign : Sign} {m : Nat} {e : Int} {accuracy : Accuracy}
    (hm : 52 ≤ m.log2) (he : -1021 ≤ totalExponent m e) :
    ∃ m' e' h, roundWithAccuracy Format.binary64 sign m e accuracy = .finite sign m' e' h ∧
      m'.log2 = 52 ∧ totalExponent m e - 53 ≤ e' := by
  obtain ⟨r, e', he', hle, hr, hround⟩ := exists_rounded sign m e accuracy
  have hcut : cut m e = m.log2 - 52 := by
    simp only [cut, totalExponent] at he ⊢
    omega
  have hlog : (m / 2 ^ cut m e).log2 = 52 := by
    rw [log2_div_two_pow]
    omega
  have hpos : m / 2 ^ cut m e ≠ 0 := by
    intro h
    rw [h] at hlog
    simp at hlog
  have hlow : 52 ≤ r.log2 :=
    (Nat.le_log2 (Nat.ne_of_gt ((Nat.pos_of_ne_zero hpos).trans_le hle))).2
      (((Nat.le_log2 hpos).1 hlog.ge).trans hle)
  have hcut' : cut r e' = r.log2 - 52 := by
    simp only [cut, totalExponent] at he he' ⊢
    omega
  have hlog' : (r / 2 ^ cut r e').log2 = 52 := by
    rw [log2_div_two_pow]
    omega
  have hpos' : r / 2 ^ cut r e' ≠ 0 := by
    intro h
    rw [h] at hlog'
    simp at hlog'
  rw [dif_neg hpos'] at hround
  refine ⟨_, _, _, hround, hlog', ?_⟩
  simp only [totalExponent] at he ⊢
  omega

/-! ### Packing -/

/-- A value that is finite and below `2 ^ top`. -/
inductive Below (top : Int) : UnpackedFloat → Prop
  | zero (sign : Sign) : Below top (.zero sign)
  | finite (sign : Sign) {m : Nat} {e : Int} (h : 0 < m) (hm : totalExponent m e ≤ top) :
      Below top (.finite sign m e h)

/-- A value that is infinite, or not below `2 ^ (bottom - 1)`. -/
inductive AtLeast (bottom : Int) : UnpackedFloat → Prop
  | infinity (sign : Sign) : AtLeast bottom (.infinity sign)
  | finite (sign : Sign) {m : Nat} {e : Int} (h : 0 < m) (hm : bottom ≤ totalExponent m e) :
      AtLeast bottom (.finite sign m e h)

instance (top : Int) (u : UnpackedFloat) : Decidable (Below top u) :=
  match u with
  | .zero sign => isTrue (.zero sign)
  | .finite sign m e h =>
    if hm : totalExponent m e ≤ top then isTrue (.finite sign h hm)
    else isFalse fun | .finite _ _ hm' => hm hm'
  | .infinity _ => isFalse nofun
  | .notANumber => isFalse nofun

instance (bottom : Int) (u : UnpackedFloat) : Decidable (AtLeast bottom u) :=
  match u with
  | .infinity sign => isTrue (.infinity sign)
  | .finite sign m e h =>
    if hm : bottom ≤ totalExponent m e then isTrue (.finite sign h hm)
    else isFalse fun | .finite _ _ hm' => hm hm'
  | .zero _ => isFalse nofun
  | .notANumber => isFalse nofun

/-- The leading bit of a normal double is the one that is not stored. -/
theorem log2_append (mantissa : BitVec 52) : (1#1 ++ mantissa).toNat.log2 = 52 := by
  have hlt := mantissa.isLt
  rw [BitVec.toNat_append, ← Nat.shiftLeft_add_eq_or_of_lt hlt, Nat.log2_eq_iff (by simp)]
  simp only [BitVec.toNat_ofNat, Nat.shiftLeft_eq]
  omega

/-- The bits of a normal double are read with the exponent they store. -/
theorem exists_unpack_normal (sign : Sign) {exponent : BitVec 11} (mantissa : BitVec 52)
    (hzero : exponent ≠ 0#11) (hones : exponent ≠ -1#11) :
    ∃ m h, unpack Format.binary64 (packComponents Format.binary64 sign exponent mantissa) =
      .finite sign m (exponent.toNat - 1075) h ∧ m.log2 = 52 := by
  have hpos : 0 < (1#1 ++ mantissa).toNat := by
    rw [Nat.pos_iff_ne_zero]
    intro h
    have := log2_append mantissa
    rw [h] at this
    simp at this
  refine ⟨(1#1 ++ mantissa).toNat, hpos, ?_, log2_append mantissa⟩
  simp only [unpack, unpackExponent_packComponents, unpackMantissa_packComponents,
    unpackSign_packComponents, Sign.ofBitVec_toBitVec, if_neg hones, if_neg hzero]
  rfl

/-- Bits whose exponent is not the greatest are those of a finite number. -/
theorem below_unpack (sign : Sign) {exponent : BitVec 11} (mantissa : BitVec 52)
    (hones : exponent ≠ -1#11) :
    Below (exponent.toNat - 1022)
      (unpack Format.binary64 (packComponents Format.binary64 sign exponent mantissa)) := by
  by_cases hzero : exponent = 0#11
  · have hlt := mantissa.isLt
    have hlog : mantissa.toNat.log2 ≤ 51 := log2_le_of_lt hlt
    simp only [unpack, unpackExponent_packComponents, unpackMantissa_packComponents, if_neg hones,
      if_pos hzero]
    split
    · exact .zero _
    · refine .finite _ _ ?_
      simp only [totalExponent, hzero]
      show (mantissa.toNat.log2 : Int) + 1 + (0 - 1075 + 1) ≤ 0 - 1022
      omega
  · obtain ⟨m, h, hunpack, hlog⟩ := exists_unpack_normal sign mantissa hzero hones
    rw [hunpack]
    refine .finite sign h ?_
    simp only [totalExponent, hlog]
    omega

/-- The exponent that is stored for a value. -/
theorem pack_finite (sign : Sign) (m : Nat) (e : Int) (h : 0 < m) :
    UnpackedFloat.pack Format.binary64 (.finite sign m e h) =
      if 2047 ≤ (e + 1075).toNat then packedInfinity Format.binary64 sign
      else packComponents Format.binary64 sign
        (if m.log2 = 52 then BitVec.ofNat 11 (e + 1075).toNat else 0#11) (BitVec.ofNat 52 m) := by
  have hbias : (e + Format.binary64.exponentBias + (52 : Nat)).toNat = (e + 1075).toNat := by
    show (e + 1023 + 52).toNat = _
    omega
  have hpow : (2 ^ 11 ≤ (e + 1075).toNat + 1) = (2047 ≤ (e + 1075).toNat) := by
    simp only [Nat.reducePow, eq_iff_iff]
    omega
  have hbits : (m.log2 + 1 = Format.binary64.mantissaBits) = (m.log2 = 52) := by
    show (m.log2 + 1 = 1 + 52) = _
    simp only [eq_iff_iff]
    omega
  simp only [pack, hbias, hpow, hbits]
  split
  · rfl
  · split <;> rfl

theorem Below.mono {top top' : Int} {u : UnpackedFloat} (hu : Below top u) (hle : top ≤ top') :
    Below top' u := by
  cases hu with
  | zero sign => exact .zero sign
  | finite sign h hm => exact .finite sign h (hm.trans hle)

theorem AtLeast.mono {bottom bottom' : Int} {u : UnpackedFloat} (hu : AtLeast bottom u)
    (hle : bottom' ≤ bottom) : AtLeast bottom' u := by
  cases hu with
  | infinity sign => exact .infinity sign
  | finite sign h hm => exact .finite sign h (hle.trans hm)

theorem unpack_packedInfinity (sign : Sign) :
    unpack Format.binary64 (packedInfinity Format.binary64 sign) = .infinity sign := by
  simp [unpack, packedInfinity]

/-- A value whose exponent fits a double is packed as a finite double. -/
theorem Written.below {top : Int} {u : UnpackedFloat} (hu : Written top u) (hpos : 0 ≤ top)
    (htop : top ≤ 971) : Below (top + 53) (unpack Format.binary64 (pack Format.binary64 u)) := by
  cases hu with
  | zero sign =>
      rw [pack, unpack_packedZero]
      exact .zero sign
  | @finite sign m e h he =>
      rw [pack_finite, if_neg (by omega)]
      have hstored : (if m.log2 = 52 then BitVec.ofNat 11 (e + 1075).toNat else 0#11).toNat ≤
          (e + 1075).toNat := by
        split
        · exact Nat.mod_le _ _
        · exact Nat.zero_le _
      refine (below_unpack sign _ ?_).mono ?_
      · intro hones
        rw [hones] at hstored
        simp at hstored
        omega
      · omega

/-- A value with all the bits of a double keeps its weight, unless it is out of range. -/
theorem atLeast_unpack_pack {sign : Sign} {m : Nat} {e : Int} {h : 0 < m} (hm : m.log2 = 52)
    (he : -1074 ≤ e) :
    AtLeast (e + 53) (unpack Format.binary64 (pack Format.binary64 (.finite sign m e h))) := by
  rw [pack_finite]
  split
  · rw [unpack_packedInfinity]
    exact .infinity sign
  · have hstored : (BitVec.ofNat 11 (e + 1075).toNat).toNat = (e + 1075).toNat :=
      Nat.mod_eq_of_lt (by omega)
    have hzero : BitVec.ofNat 11 (e + 1075).toNat ≠ 0#11 := by
      refine ne_of_apply_ne BitVec.toNat ?_
      rw [hstored, BitVec.toNat_ofNat]
      omega
    have hones : BitVec.ofNat 11 (e + 1075).toNat ≠ -1#11 := by
      refine ne_of_apply_ne BitVec.toNat ?_
      rw [hstored]
      show (e + 1075).toNat ≠ 2047
      omega
    obtain ⟨m', h', hunpack, hlog⟩ := exists_unpack_normal sign (BitVec.ofNat 52 m) hzero hones
    rw [hunpack]
    refine .finite sign h' ?_
    simp only [totalExponent, hlog, hstored]
    omega

/-! ### Arithmetic -/

theorem Below.isFinite {top : Int} {u : UnpackedFloat} (hu : Below top u) : u.isFinite = true := by
  cases hu <;> rfl

theorem Written.neg {top : Int} {u : UnpackedFloat} (hu : Written top u) :
    Written top (UnpackedFloat.neg u) := by
  cases hu with
  | zero sign => exact .zero (-sign)
  | finite sign m h he => exact .finite (-sign) m h he

/-- The weight of a quotient is at most one more than the weights say. -/
theorem totalExponent_divCore (m₁ : Nat) (e₁ : Int) (m₂ : Nat) (e₂ : Int) (hm₁ : 0 < m₁) :
    totalExponent (divCore Format.binary64 m₁ e₁ m₂ e₂).1
        (divCore Format.binary64 m₁ e₁ m₂ e₂).2.1 ≤
      max (totalExponent m₁ e₁ - totalExponent m₂ e₂ + 1) 0 := by
  have hlog := log2_div_le (m₁ <<< (e₁ - e₂ - min (e₁ - e₂) (Format.binary64.targetExponent
    (totalExponent m₁ e₁ - totalExponent m₂ e₂))).toNat) m₂
  rw [log2_shiftLeft hm₁] at hlog
  simp only [divCore, targetExponent_eq, totalExponent] at hlog ⊢
  omega

theorem Below.div {top bottom : Int} {u v : UnpackedFloat} (hu : Below top u)
    (hv : AtLeast bottom v) :
    Written (max (top - bottom + 1) 0) (UnpackedFloat.div Format.binary64 u v) := by
  cases hu with
  | zero sign => cases hv <;> exact .zero _
  | finite sign h hm =>
      cases hv with
      | infinity => exact .zero _
      | finite sign' h' hm' =>
          refine written_round ((totalExponent_divCore _ _ _ _ h).trans ?_) (by omega)
          omega

theorem Below.mul {top top' : Int} {u v : UnpackedFloat} (hu : Below top u) (hv : Below top' v)
    (hpos : 0 ≤ top + top') : Written (top + top') (UnpackedFloat.mul Format.binary64 u v) := by
  cases hu with
  | zero sign => cases hv <;> exact .zero _
  | @finite sign m e h hm =>
      cases hv with
      | zero => exact .zero _
      | @finite sign' m' e' h' hm' =>
          have hlog := log2_mul_le m m'
          refine written_round ?_ hpos
          simp only [totalExponent] at hm hm' ⊢
          omega

/-! ### Doubles -/

/-- The value of a double, read off its bits. -/
def value (x : Float) : UnpackedFloat := x.toModel.unpack

/-- The exponent of a finite double is below that of infinity. -/
theorem written_value {x : Float} (hx : x.isFinite = true) : Written 971 (value x) := by
  replace hx : (unpack Format.binary64 x.toModel.toBits.toBitVec).isFinite = true := hx
  revert hx
  simp only [value, Float.Model.unpack, unpack]
  split
  · split <;> exact nofun
  · rename_i hones
    split
    · split
      · exact fun _ => .zero _
      · rename_i hzero _
        refine fun _ => .finite _ _ _ ?_
        rw [hzero]
        decide
    · refine fun _ => .finite _ _ _ ?_
      have hlt : (@unpackExponent Format.binary64 x.toModel.toBits.toBitVec).toNat < 2 ^ 11 :=
        BitVec.isLt _
      have hne : (@unpackExponent Format.binary64 x.toModel.toBits.toBitVec).toNat ≠ 2047 :=
        fun h => hones (BitVec.eq_of_toNat_eq h)
      show ((@unpackExponent Format.binary64 x.toModel.toBits.toBitVec).toNat : Int) - (1023 + 52) ≤
        971
      omega

theorem isFinite_of_below {top : Int} {x : Float} (hx : Below top (value x)) :
    x.isFinite = true := hx.isFinite

theorem isFinite_neg {x : Float} (hx : x.isFinite = true) : (-x).isFinite = true :=
  ((written_value hx).neg.below (by decide) (by decide)).isFinite

/-- A quotient of a bounded and a large double is bounded. -/
theorem below_div {top bottom : Int} {x y : Float} (hx : Below top (value x))
    (hy : AtLeast bottom (value y)) (htop : max (top - bottom + 1) 0 ≤ 971) :
    Below (max (top - bottom + 1) 0 + 53) (value (x / y)) :=
  (hx.div hy).below (by omega) htop

/-- A product of bounded doubles is bounded. -/
theorem below_mul {top top' : Int} {x y : Float} (hx : Below top (value x))
    (hy : Below top' (value y)) (hpos : 0 ≤ top + top') (htop : top + top' ≤ 971) :
    Below (top + top' + 53) (value (x * y)) :=
  (hx.mul hy hpos).below hpos htop

/-! ### Whole numbers and powers of ten -/

/-- A whole number is rounded to a double of about its weight. -/
theorem written_round_nat {n k : Nat} (hn : n < 2 ^ (k + 1)) :
    Written (k + 1) (ofNat Format.binary64 n) := by
  by_cases h0 : n = 0
  · subst h0
    exact .zero _
  have hpos : 0 < n := Nat.pos_of_ne_zero h0
  have hcompare : compare (n : Int) 0 = .gt := Int.compare_eq_gt.2 (by omega)
  have hlog := log2_le_of_lt hn
  simp only [UnpackedFloat.ofNat, ofInt, UnpackedFloat.normalize, hcompare, Int.toNat_natCast,
    UnpackedFloat.round, decreaseExponent]
  refine written_round ?_ (by omega)
  simp only [totalExponent, log2_shiftLeft hpos]
  omega

/-- A whole number times a power of ten is rounded once, from a mantissa with enough bits. -/
theorem exists_ofScientific {m k : Nat} (hm : 0 < m) (hk : k ≤ 2048) :
    ∃ m', ofScientific Format.binary64 m k =
        roundWithAccuracy Format.binary64 .positive m' (-53) .exact ∧
      m'.log2 = (m * 10 ^ k).log2 + 53 := by
  have hbig : ¬ (k : Int) > 2 ^ 11 := by omega
  have hlow : ¬ (k : Int) < -((2 ^ 11 : Int) + m.log2) := by omega
  refine ⟨(m <<< 53) * 10 ^ k, ?_, ?_⟩
  · rw [ofScientific, dif_neg (by omega), if_neg hbig, if_neg hlow, if_pos (by omega)]
    rfl
  · rw [← log2_shiftLeft (by positivity), Nat.shiftLeft_eq, Nat.shiftLeft_eq, Nat.mul_right_comm]

theorem ofNat_eq_mul_one {n : Nat} (hn : n < 2 ^ 53) :
    Float.ofNat n = n.toUInt64.toFloat * Float.ofBits 0x3FF0000000000000 := by
  show Float.ofScientific n false 0 = _
  rw [Float.ofScientific, dif_pos ⟨hn, by decide⟩]
  rfl

theorem value_ofNat_of_ge {n : Nat} (hn : ¬ n < 2 ^ 53) :
    value (Float.ofNat n) =
      unpack Format.binary64 (pack Format.binary64 (ofScientific Format.binary64 n (0 : Nat))) := by
  show value (Float.ofScientific n false 0) = _
  rw [Float.ofScientific, dif_neg (fun h => hn h.1)]
  rfl

theorem value_toFloat (n : UInt64) :
    value n.toFloat =
      unpack Format.binary64 (pack Format.binary64 (ofNat Format.binary64 n.toNat)) := rfl

/-- A whole number of 64 bits stays far below the range of doubles. -/
theorem below_ofNat {n : Nat} (hn : n < 2 ^ 64) : Below 300 (value (Float.ofNat n)) := by
  by_cases hsmall : n < 2 ^ 53
  · have hword : n.toUInt64.toNat = n := Nat.mod_eq_of_lt hn
    have hfloat : Below 117 (value n.toUInt64.toFloat) := by
      rw [value_toFloat, hword]
      exact (written_round_nat hn).below (by decide) (by decide)
    have hone : Below 1 (value (Float.ofBits 0x3FF0000000000000)) := by decide +kernel
    rw [ofNat_eq_mul_one hsmall]
    exact (below_mul hfloat hone (by decide) (by decide)).mono (by decide)
  · obtain ⟨m, hround, hm⟩ := exists_ofScientific (show 0 < n by omega) (show 0 ≤ 2048 by decide)
    have hweight : totalExponent m (-53) ≤ 64 := by
      have := log2_le_of_lt hn
      rw [Nat.pow_zero, Nat.mul_one] at hm
      rw [totalExponent]
      omega
    rw [value_ofNat_of_ge hsmall, hround]
    exact ((written_round hweight (by decide)).below (by decide) (by decide)).mono (by decide)

/-- A power of ten is at least one. -/
theorem atLeast_power {n : Nat} (hn : n ≤ 308) : AtLeast 1 (value (Float.ofScientific 1 false n)) := by
  by_cases hsmall : n ≤ 22
  · have : ∀ n ≤ 22, AtLeast 1 (value (Float.ofScientific 1 false n)) := by decide +kernel
    exact this n hsmall
  · have hvalue : value (Float.ofScientific 1 false n) =
        unpack Format.binary64 (pack Format.binary64 (ofScientific Format.binary64 1 n)) := by
      rw [Float.ofScientific, dif_neg (fun h => hsmall h.2)]
      rfl
    obtain ⟨m, hround, hm⟩ := exists_ofScientific Nat.one_pos (show n ≤ 2048 by omega)
    have hbits : 52 ≤ m.log2 := by omega
    have hweight : 1 ≤ totalExponent m (-53) := by
      rw [totalExponent]
      omega
    have hnormal : -1021 ≤ totalExponent m (-53) := by omega
    obtain ⟨m', e, h, hnormal, hm', he⟩ := exists_normal_round hbits hnormal
    rw [hvalue, hround, hnormal]
    exact (atLeast_unpack_pack hm' (by omega)).mono (by omega)

/-- The greatest power of ten that a double holds. -/
theorem atLeast_greatest_power : AtLeast 1024 (value (Float.ofScientific 1 false 308)) := by
  decide +kernel

end Rulebook.Magnitude
