/-
**Numbers of JSON texts are finite.**

A number that would not fit a double is none, so whatever is read off a text holds finite numbers only:
the digits that are gathered make a number of 64 bits, and dividing it by powers of ten keeps it
small.

Main definitions:

* `Rulebook.Json.Document.FiniteNumbers` — a document whose numbers are finite.

Main results:

* `Rulebook.Json.Numeral.isFinite_value?` — **a number that is read is finite**;
* `Rulebook.Json.Document.finiteNumbers_ofText` — **a text is read with finite numbers**.
-/

import Rulebook.Proofs.JsonText
import Rulebook.Proofs.Magnitude

set_option autoImplicit false

namespace Rulebook.Json.Numeral

open Magnitude

/-! ### Numbers -/

theorem isFinite_divideByPower {x : Float} {n : Nat} (hx : Below 300 (value x)) :
    (divideByPower x n).isFinite = true := by
  -- Every step by the greatest power brings the number below one, which is far below the bound.
  fun_induction divideByPower x n with
  | case1 x n hn => exact isFinite_of_below (below_div hx (atLeast_power hn) (by decide))
  | case2 x n hn h0 => exact isFinite_of_below hx
  | case3 x n hn h0 ih =>
      have hstep := below_div hx atLeast_greatest_power (by decide)
      exact ih (hstep.mono (by decide))

theorem isFinite_multiplyByPower? {x y : Float} {n : Nat} (hx : Below 300 (value x))
    (hy : multiplyByPower? x n = some y) : y.isFinite = true := by
  rw [multiplyByPower?] at hy
  split at hy
  · exact (Option.filter_eq_some_iff.1 hy).2
  · split at hy
    · rw [← Option.some_inj.1 hy]
      exact isFinite_of_below hx
    · contradiction

/-- The digits that are gathered make a number of 64 bits. -/
theorem gather_le {n : Nat} (digits : List Char) (hn : n ≤ maxWord) :
    (gather n digits).1 ≤ maxWord := by
  induction digits generalizing n with
  | nil => exact hn
  | cons d ds ih =>
      rw [gather]
      split
      · exact ih ‹_›
      · exact hn

theorem isFinite_double? {l : Numeral} {x : Float} (hx : l.double? = some x) : x.isFinite = true := by
  have hbound : Below 300 (value (Float.ofNat (gather (gather 0 l.whole).1 l.fraction).1)) := by
    have := gather_le l.fraction (gather_le l.whole (Nat.zero_le _))
    exact below_ofNat (Nat.lt_of_le_pred (by decide) this)
  have hsign : ∀ y : Float, y.isFinite = true → (if l.negative then -y else y).isFinite = true := by
    intro y hy
    split
    · exact isFinite_neg hy
    · exact hy
  simp only [double?, Option.bind_eq_bind] at hx
  split at hx
  · rw [Option.bind_some] at hx
    rw [← Option.some_inj.1 hx]
    exact hsign _ (isFinite_divideByPower hbound)
  · obtain ⟨y, hy, hyx⟩ := Option.bind_eq_some_iff.1 hx
    rw [← Option.some_inj.1 hyx]
    exact hsign y (isFinite_multiplyByPower? hbound hy)

/-- **A number that is read off a text is finite.** -/
theorem isFinite_value? {l : Numeral} {n : Number} (hn : l.value? = some n) :
    n.toFloat.isFinite = true := by
  simp only [value?] at hn
  generalize (if l.negative then -(natOfDigits l.whole : Int) else natOfDigits l.whole) = k at hn
  split at hn
  next h =>
    obtain ⟨-, -, -, hfits⟩ := h
    rw [← Option.some_inj.1 hn]
    have hlow : -(Nat.pow 2 63 : Int) ≤ k ∧ k ≤ maxWord := by
      simpa [fitsWord] using hfits
    have hfinite : (Float.ofNat k.natAbs).isFinite = true := by
      refine isFinite_of_below (below_ofNat ?_)
      have hword : (maxWord : Int) = 2 ^ 64 - 1 := rfl
      have hsign : (Nat.pow 2 63 : Int) = 2 ^ 63 := rfl
      omega
    rw [Number.toFloat]
    split
    · exact isFinite_neg hfinite
    · exact hfinite
  next =>
    obtain ⟨x, hx, rfl⟩ := Option.map_eq_some_iff.1 hn
    exact isFinite_double? hx

end Rulebook.Json.Numeral

namespace Rulebook.Json

/-! ### Documents -/

namespace Document

/-- A document whose numbers are finite. -/
inductive FiniteNumbers : Document → Prop
  | broken : FiniteNumbers .broken
  | unreadable : FiniteNumbers .unreadable
  | null : FiniteNumbers .null
  | bool (b : Bool) : FiniteNumbers (.bool b)
  | number {n : Number} (h : n.toFloat.isFinite = true) : FiniteNumbers (.number n)
  | string (s : String) : FiniteNumbers (.string s)
  | array {items : List Document} (h : ∀ d ∈ items, FiniteNumbers d) (closed : Bool) :
      FiniteNumbers (.array items closed)
  | object {members : List (Option String × Document)} (h : ∀ m ∈ members, FiniteNumbers m.2)
      (closed : Bool) : FiniteNumbers (.object members closed)
  | strayKey {d : Document} (h : FiniteNumbers d) : FiniteNumbers (.strayKey d)

theorem FiniteNumbers.within {d : Document} (h : d.FiniteNumbers) (depth : Nat) :
    (within depth d).FiniteNumbers := by
  unfold Document.within
  split
  · split
    · exact .unreadable
    · exact .broken
  · exact h

/-- With the given fuel, values, items and members are read with finite numbers. -/
structure ScanFinite (fuel : Nat) : Prop where
  value : ∀ depth cs, (scan fuel depth cs).1.FiniteNumbers
  items : ∀ depth before cs, (∀ d ∈ before, d.FiniteNumbers) →
    ∀ d ∈ (scanItems fuel depth before cs).1, d.FiniteNumbers
  members : ∀ depth before cs, (∀ m ∈ before, m.2.FiniteNumbers) →
    ∀ m ∈ (scanMembers fuel depth before cs).1, m.2.FiniteNumbers

theorem ScanFinite.value_succ {fuel : Nat} (h : ScanFinite fuel) (depth : Nat) (cs : List Char) :
    (scan (fuel + 1) depth cs).1.FiniteNumbers := by
  rw [scan]
  split
  · split
    · exact (FiniteNumbers.object (List.forall_mem_nil _) true).within depth
    · exact (FiniteNumbers.object (h.members _ _ _ (List.forall_mem_nil _)) _).within depth
    · exact (FiniteNumbers.strayKey (h.value _ _)).within depth
  · split
    · exact (FiniteNumbers.array (List.forall_mem_nil _) true).within depth
    · exact (FiniteNumbers.array (h.items _ _ _ (List.forall_mem_nil _)) _).within depth
  · split
    · exact .string _
    · exact .unreadable
    · exact .broken
  · split
    · exact .null
    · split
      · exact .bool true
      · split
        · exact .bool false
        · split
          · split
            · exact .number (Numeral.isFinite_value? ‹_›)
            · exact .unreadable
          · exact .broken

theorem ScanFinite.items_succ {fuel : Nat} (h : ScanFinite fuel) (depth : Nat)
    (before : List Document) (cs : List Char) (hbefore : ∀ d ∈ before, d.FiniteNumbers) :
    ∀ d ∈ (scanItems (fuel + 1) depth before cs).1, d.FiniteNumbers := by
  have hvalue := h.value depth cs
  rw [scanItems]
  revert hvalue
  obtain ⟨d, rest⟩ := scan fuel depth cs
  intro hvalue
  have hitems : ∀ e ∈ d :: before, e.FiniteNumbers := List.forall_mem_cons.2 ⟨hvalue, hbefore⟩
  have hreverse : ∀ e ∈ (d :: before).reverse, e.FiniteNumbers :=
    fun e he => hitems e (List.mem_reverse.1 he)
  dsimp only
  split
  · split
    · exact hreverse
    · split
      · exact hreverse
      · exact h.items _ _ _ hitems
    · exact hreverse
  · exact hreverse

theorem ScanFinite.members_succ {fuel : Nat} (h : ScanFinite fuel) (depth : Nat)
    (before : List (Option String × Document)) (cs : List Char)
    (hbefore : ∀ m ∈ before, m.2.FiniteNumbers) :
    ∀ m ∈ (scanMembers (fuel + 1) depth before cs).1, m.2.FiniteNumbers := by
  have hreverse : ∀ {ms : List (Option String × Document)}, (∀ m ∈ ms, m.2.FiniteNumbers) →
      ∀ m ∈ ms.reverse, m.2.FiniteNumbers := fun hms m hm => hms m (List.mem_reverse.1 hm)
  rw [scanMembers.eq_def]
  dsimp only
  split
  · split
    · split
      · rename_i key _ _ _ cs _
        have hvalue := h.value depth cs
        revert hvalue
        obtain ⟨d, rest⟩ := scan fuel depth cs
        intro hvalue
        have hmembers : ∀ m ∈ (key, d) :: before, m.2.FiniteNumbers :=
          List.forall_mem_cons.2 ⟨hvalue, hbefore⟩
        dsimp only
        split
        · split
          · exact hreverse hmembers
          · exact h.members _ _ _ hmembers
          · exact hreverse hmembers
        · exact hreverse hmembers
      · exact hreverse (List.forall_mem_cons.2 ⟨.broken, hbefore⟩)
    · exact hreverse hbefore
  · exact hreverse hbefore

theorem scan_finite (fuel : Nat) : ScanFinite fuel := by
  -- on the fuel: each of the three readers calls the others with one less
  induction fuel with
  | zero =>
      refine ⟨fun depth cs => ?_, fun depth before cs h d hd => ?_, fun depth before cs h m hm => ?_⟩
      · rw [scan_zero]
        exact .broken
      · rw [scanItems_zero] at hd
        exact h d (List.mem_reverse.1 hd)
      · rw [scanMembers_zero] at hm
        exact h m (List.mem_reverse.1 hm)
  | succ fuel ih => exact ⟨ih.value_succ, ih.items_succ, ih.members_succ⟩

/-- **A text is read with finite numbers.** -/
theorem finiteNumbers_ofText (s : String) : (ofText s).1.FiniteNumbers :=
  (scan_finite (2 * s.toList.length + 1)).value maxDepth s.toList

/-- A number that a document is read as is finite. -/
theorem FiniteNumbers.isFinite_of_readValue {d : Document} (hd : d.FiniteNumbers) {n : Number}
    (h : d.readValue = .ok (.number n)) : n.toFloat.isFinite = true := by
  rw [readValue] at h
  split at h
  · rename_i v hv
    obtain rfl : v = .number n := by
      cases v <;> first | exact Except.ok.inj h | cases h
    obtain rfl := eq_number_of_toJson? hv
    cases hd with
    | number hfinite => exact hfinite
  · cases h

end Document

end Rulebook.Json
