/-
**The order of doubles.**

Doubles that are numbers are ordered: the order tells of any two which is less, or that neither is, and
read backwards it tells the opposite.  What is not a number has no place in it.  Two finite doubles
neither of which is less may still be different, being the two zeros, but their difference is zero; and
the difference of finite doubles is always a number, though it may be infinite.

Main definitions:

* `Rulebook.Magnitude.ordering?` — how two doubles are ordered.

Main results:

* `Rulebook.Magnitude.exists_ordering` — numbers are ordered, and backwards the other way round;
* `Rulebook.Magnitude.not_lt_iff_le` — what is not less is at least as large;
* `Rulebook.Magnitude.isNaN_abs_sub` — the distance of finite doubles is a number;
* `Rulebook.Magnitude.abs_sub_eq_zero` — and zero where neither of them is less.
-/

import Rulebook.Proofs.Magnitude
import Rulebook.Proofs.WrittenNumber

set_option autoImplicit false

namespace Rulebook.Magnitude
open Float.Model (Format UnpackedFloat)
open Float.Model.UnpackedFloat

/-! ### The order -/

/-- How two doubles are ordered, if both are numbers. -/
def ordering? (a b : Float) : Option Ordering := (value a).compare (value b)

theorem lt_iff_ordering? {a b : Float} : a < b ↔ ordering? a b = some .lt := by
  show decide (a.toModel < b.toModel) = true ↔ _
  rw [decide_eq_true_iff]
  exact beq_iff_eq

theorem le_iff_ordering? {a b : Float} : a ≤ b ↔ ordering? a b = some .lt ∨ ordering? a b = some .eq := by
  show decide (a.toModel ≤ b.toModel) = true ↔ _
  rw [decide_eq_true_iff]
  show (ordering? a b).any (fun o => o.isLE) = true ↔ _
  cases ordering? a b with
  | none => simp
  | some o => cases o <;> simp [Ordering.isLE]

/-- Read backwards, the order is the other way round. -/
theorem compare_swap (u v : UnpackedFloat) : v.compare u = (u.compare v).map Ordering.swap := by
  cases u with
  | notANumber => cases v <;> rfl
  | infinity s => cases s <;> rcases v with (_ | _) | _ | _ | _ <;> rfl
  | zero s => rcases v with (_ | _) | _ | _ | (_ | _) <;> rfl
  | finite s m e h =>
      cases v with
      | notANumber => cases s <;> rfl
      | infinity t => cases s <;> cases t <;> rfl
      | zero t => cases s <;> rfl
      | finite t n k h' =>
          -- the exponents decide, and where they are equal the mantissas
          have hswap : (compare k e).then (compare n m) =
              ((compare e k).then (compare m n)).swap := by
            rw [Ordering.swap_then, Std.OrientedOrd.eq_swap (a := k),
              Std.OrientedOrd.eq_swap (a := n)]
          cases s <;> cases t
          · simp only [UnpackedFloat.compare, hswap, Option.map_some]
          · rfl
          · rfl
          · exact congrArg some hswap

theorem exists_compare {u v : UnpackedFloat} (hu : u.isNaN = false) (hv : v.isNaN = false) :
    ∃ o, u.compare v = some o := by
  cases v with
  | notANumber => cases hv
  | infinity t =>
      rcases u with _ | _ | _ | _ <;> cases t <;> first | exact ⟨_, rfl⟩ | cases hu
  | zero t =>
      rcases u with (_ | _) | _ | _ | (_ | _) <;> first | exact ⟨_, rfl⟩ | cases hu
  | finite t =>
      rcases u with (_ | _) | _ | _ | (_ | _) <;> cases t <;> first | exact ⟨_, rfl⟩ | cases hu

/-- **Numbers are ordered**, and backwards the other way round. -/
theorem exists_ordering {a b : Float} (ha : a.isNaN = false) (hb : b.isNaN = false) :
    ∃ o, ordering? a b = some o ∧ ordering? b a = some o.swap := by
  obtain ⟨o, ho⟩ : ∃ o, ordering? a b = some o := exists_compare ha hb
  exact ⟨o, ho, (compare_swap _ _).trans (congrArg _ ho)⟩

/-- What is not less is at least as large. -/
theorem not_lt_iff_le {a b : Float} (ha : a.isNaN = false) (hb : b.isNaN = false) :
    ¬a < b ↔ b ≤ a := by
  obtain ⟨o, hab, hba⟩ := exists_ordering ha hb
  rw [lt_iff_ordering?, le_iff_ordering?, hab, hba]
  cases o <;> simp

theorem asymm_of_lt {a b : Float} (h : a < b) : ¬b < a := by
  rw [lt_iff_ordering?] at h ⊢
  have hswap : ordering? b a = some .gt := (compare_swap _ _).trans (congrArg _ h)
  rw [hswap]
  simp

/-! ### Differences -/

theorem isNaN_round (sign : Sign) (m : Nat) (e : Int) :
    (UnpackedFloat.round Format.binary64 sign m e).isNaN = false := by
  simp only [UnpackedFloat.round, decreaseExponent]
  obtain ⟨r, e', -, -, -, hround⟩ := exists_rounded sign _ _ .exact
  rw [hround]
  split <;> rfl

/-- A difference of finite values is a number. -/
theorem Written.isNaN_sub {top : Int} {u v : UnpackedFloat} (hu : Written top u)
    (hv : Written top v) : (sub Format.binary64 u v).isNaN = false := by
  cases hu with
  | zero s =>
      cases hv with
      | zero t =>
          rw [sub]
          split <;> rfl
      | finite t n h he => rfl
  | finite s m h he =>
      cases hv with
      | zero t => rfl
      | finite t n h' he' =>
          simp only [sub, UnpackedFloat.normalize]
          split
          · exact isNaN_round _ _ _
          · rfl
          · exact isNaN_round _ _ _

/-- Values of which neither is less have no difference. -/
theorem Written.exists_sub_eq_zero {top : Int} {u v : UnpackedFloat} (hu : Written top u)
    (hv : Written top v) (h : u.compare v = some .eq) :
    ∃ sign, sub Format.binary64 u v = .zero sign := by
  cases hu with
  | zero s =>
      cases hv with
      | zero t =>
          rw [sub]
          split <;> exact ⟨_, rfl⟩
      | finite t n h' he => cases t <;> cases h
  | @finite s m e hm he =>
      cases hv with
      | zero t => cases s <;> cases h
      | @finite t n k hn hk =>
          obtain ⟨rfl, rfl, rfl⟩ : s = t ∧ e = k ∧ m = n := by
            have hparts : (compare e k).then (compare m n) = .eq → e = k ∧ m = n := by
              intro heq
              rw [Ordering.then_eq_eq] at heq
              exact ⟨Int.compare_eq_eq.1 heq.1, Nat.compare_eq_eq.1 heq.2⟩
            cases s <;> cases t
            · have hswap : ((compare e k).then (compare m n)).swap = Ordering.swap .eq :=
                Option.some_inj.1 h
              exact ⟨rfl, hparts (Ordering.swap_inj.1 hswap)⟩
            · cases h
            · cases h
            · exact ⟨rfl, hparts (Option.some_inj.1 h)⟩
          refine ⟨.positive, ?_⟩
          simp only [sub, Int.sub_self]
          rfl

theorem Below.isNaN_eq_false {top : Int} {u : UnpackedFloat} (hu : Below top u) :
    u.isNaN = false := by
  cases hu <;> rfl

/-- What is packed as a double is a number if it was one. -/
theorem isNaN_unpack_pack {u : UnpackedFloat} (hu : u.isNaN = false) :
    (unpack Format.binary64 (pack Format.binary64 u)).isNaN = false := by
  cases u with
  | notANumber => cases hu
  | infinity s =>
      rw [pack, unpack_packedInfinity]
      rfl
  | zero s =>
      rw [pack, unpack_packedZero]
      rfl
  | finite s m e h =>
      rw [pack_finite]
      split
      · rw [unpack_packedInfinity]
        rfl
      · next hsmall =>
          have hones : (if m.log2 = 52 then BitVec.ofNat 11 (e + 1075).toNat else 0#11) ≠ -1#11 := by
            refine ne_of_apply_ne BitVec.toNat ?_
            split
            · rw [BitVec.toNat_ofNat, Nat.mod_eq_of_lt (by omega)]
              show (e + 1075).toNat ≠ 2047
              omega
            · decide
          exact (below_unpack s (BitVec.ofNat 52 m) hones).isNaN_eq_false

theorem isNaN_abs {x : Float} (hx : x.isNaN = false) : x.abs.isNaN = false := by
  refine isNaN_unpack_pack (show (value x).abs.isNaN = false from ?_)
  replace hx : (value x).isNaN = false := hx
  cases hvalue : value x with
  | notANumber =>
      rw [hvalue] at hx
      cases hx
  | infinity s => rfl
  | zero s => rfl
  | finite s m e h => rfl

/-- **The distance of finite doubles is a number.** -/
theorem isNaN_abs_sub {a b : Float} (ha : a.isFinite = true) (hb : b.isFinite = true) :
    (a - b).abs.isNaN = false :=
  isNaN_abs (isNaN_unpack_pack ((written_value ha).isNaN_sub (written_value hb)))

/-- **The distance of finite doubles of which neither is less is zero.** -/
theorem abs_sub_eq_zero {a b : Float} (ha : a.isFinite = true) (hb : b.isFinite = true)
    (hlt : ¬a < b) (hgt : ¬b < a) : (a - b).abs = 0 := by
  obtain ⟨o, hab, hba⟩ := exists_ordering (isNaN_isInf_of_isFinite ha).1
    (isNaN_isInf_of_isFinite hb).1
  obtain rfl : o = .eq := by
    rw [lt_iff_ordering?, hab] at hlt
    rw [lt_iff_ordering?, hba] at hgt
    cases o <;> simp at hlt hgt ⊢
  obtain ⟨sign, hsub⟩ := (written_value ha).exists_sub_eq_zero (written_value hb) hab
  have hvalue : value (a - b) = .zero sign := by
    show unpack Format.binary64 (pack Format.binary64 (sub Format.binary64 (value a) (value b))) = _
    rw [hsub, pack, unpack_packedZero]
  show Float.ofModel (Float.Model.pack (value (a - b)).abs) = 0
  rw [hvalue]
  show Float.ofModel (Float.Model.pack (.zero .positive)) = 0
  decide +kernel

end Rulebook.Magnitude
