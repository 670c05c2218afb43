/-
**JSON values do not depend on what follows them.**

A reader that has taken a whole value from the front of a text takes the same value when the text goes
on, as long as it does not go on with what could belong to a number.  So a value can be set into a
larger text, and more fuel never changes what is read.  Nor does the nesting limit decide where a value
ends, only whether it can be read.

Main definitions:

* `Rulebook.Json.Ends` — a text that no number goes on with;
* `Rulebook.Json.Document.scanLeaf` — reading a value that is no text, array or object;
* `Rulebook.Json.parseWithin?` — reading under a nesting limit of one's own;
* `Rulebook.Json.Yields` — a text that is one value wherever it stands;
* `Rulebook.Json.IsObjectText` — the text of an object.

Main results:

* `Rulebook.Json.scanString_append`, `Rulebook.Json.Numeral.scan?_append` — strings and numbers;
* `Rulebook.Json.Document.scan_local` — **where a whole value ends**;
* `Rulebook.Json.Document.scan_append` — a whole value is read the same in a larger text;
* `Rulebook.Json.IsObjectText.exists_yields` — the text of an object is one wherever it stands.
-/

import Rulebook.Json.Reader
import Rulebook.Json.Record
import Rulebook.Proofs.Numeral

set_option autoImplicit false

namespace Rulebook.Json

/-! ### Runs in a larger text -/

/-- What may go on with a number. -/
def isNumberPart (c : Char) : Bool := c.isDigit || c == '.' || c == 'e' || c == 'E'

/-- The text does not go on with a number. -/
def Ends (t : List Char) : Prop := Stops isNumberPart t

theorem Ends.stops_isDigit {t : List Char} (h : Ends t) : Stops Char.isDigit t := by
  intro c hc
  have hpart := h c hc
  simp only [isNumberPart, Bool.or_eq_false_iff] at hpart
  exact hpart.1.1.1

theorem skipSpace_append {cs rest : List Char} {c : Char} (h : skipSpace cs = c :: rest)
    (t : List Char) : skipSpace (cs ++ t) = c :: (rest ++ t) := by
  rw [skipSpace] at h
  rw [skipSpace, List.dropWhile_append, h]
  rfl

/-! ### Words, strings and numbers in a larger text -/

theorem afterWord?_eq_some_iff {w cs rest : List Char} :
    afterWord? w cs = some rest ↔ cs = w ++ rest := by
  induction w generalizing cs with
  | nil => exact ⟨fun h => Option.some_inj.1 h, fun h => congrArg some h⟩
  | cons a w ih =>
      cases cs with
      | nil => simp [afterWord?]
      | cons c cs =>
          rw [afterWord?]
          split
          · next h => rw [ih, h, List.cons_append, List.cons.injEq, and_iff_right rfl]
          · next h =>
              constructor
              · exact fun h' => nomatch h'
              · exact fun h' => absurd (List.cons.inj h').1.symm h

theorem afterWord?_eq_none {a c : Char} (h : a ≠ c) (w cs : List Char) :
    afterWord? (a :: w) (c :: cs) = none := by
  rw [afterWord?, if_neg h]

theorem scanString_quote (s : Spelling) (cs : List Char) :
    scanString s ('"' :: cs) = some (s.settled.map fun t => String.ofList t.reverse, cs) := by
  rw [scanString.eq_def]
  rfl

theorem scanString_code {a b c d : Char} {code : Nat} (h : hexWord? a b c d = some code)
    (s : Spelling) (cs : List Char) :
    scanString s ('\\' :: 'u' :: a :: b :: c :: d :: cs) = scanString (s.pushCode code) cs := by
  rw [scanString.eq_def]
  simp only [Char.reduceEq, if_false, if_true, h]

theorem scanString_escape {e c : Char} (h : unescape? e = some c) (s : Spelling) (cs : List Char) :
    scanString s ('\\' :: e :: cs) = scanString (s.push c) cs := by
  have hu : e ≠ 'u' := by
    rintro rfl
    cases h
  rw [scanString.eq_def]
  simp only [Char.reduceEq, if_false, if_true]
  split
  · next heq => exact absurd (List.cons.inj heq).1 hu
  · next heq =>
      obtain ⟨rfl, rfl⟩ := List.cons.inj heq
      rw [h]
  · next heq => cases heq

theorem scanString_plain {c : Char} (hquote : c ≠ '"') (hbackslash : c ≠ '\\')
    (hcontrol : ¬c.toNat < 0x20) (s : Spelling) (cs : List Char) :
    scanString s (c :: cs) = scanString (s.push c) cs := by
  rw [scanString.eq_def]
  simp only [if_neg hquote, if_neg hbackslash, if_neg hcontrol]

theorem scanString_append {s : Spelling} {cs rest : List Char} {r : Option String}
    (h : scanString s cs = some (r, rest)) (t : List Char) :
    scanString s (cs ++ t) = some (r, rest ++ t) := by
  fun_induction scanString s cs with
  | case1 => cases h
  | case2 s cs =>
      obtain ⟨rfl, rfl⟩ := Prod.mk.inj (Option.some_inj.1 h)
      exact scanString_quote s _
  | case3 s a b c d cs code hcode _ ih =>
      exact (scanString_code hcode s _).trans (ih h)
  | case4 => cases h
  | case5 s e cs _ c he _ ih =>
      exact (scanString_escape he s _).trans (ih h)
  | case6 => cases h
  | case7 => cases h
  | case8 => cases h
  | case9 s c cs hquote hbackslash hcontrol ih =>
      exact (scanString_plain hquote hbackslash hcontrol s _).trans (ih h)

namespace Numeral

theorem scanWhole?_append {cs w rest : List Char} (h : scanWhole? cs = some (w, rest))
    {t : List Char} (ht : Ends t) : scanWhole? (cs ++ t) = some (w, rest ++ t) := by
  rw [scanWhole?] at h ⊢
  rw [ht.stops_isDigit.takeWhile_append, ht.stops_isDigit.dropWhile_append]
  split at h
  · cases h
  · cases h
  · obtain ⟨rfl, rfl⟩ := Prod.mk.inj (Option.some_inj.1 h)
    rfl

theorem scanFraction?_of_ne {cs : List Char} (h : '.' ∉ cs.head?) :
    scanFraction? cs = some ([], cs) := by
  unfold scanFraction?
  split
  · exact absurd rfl h
  · rfl

theorem scanFraction?_append {cs w rest : List Char} (h : scanFraction? cs = some (w, rest))
    {t : List Char} (ht : Ends t) : scanFraction? (cs ++ t) = some (w, rest ++ t) := by
  cases cs with
  | nil =>
      obtain ⟨rfl, rfl⟩ := Prod.mk.inj (Option.some_inj.1 h)
      refine scanFraction?_of_ne fun hpoint => ?_
      cases ht '.' hpoint
  | cons c cs =>
      by_cases hc : c = '.'
      · subst hc
        rw [scanFraction?] at h
        rw [List.cons_append, scanFraction?, ht.stops_isDigit.takeWhile_append,
          ht.stops_isDigit.dropWhile_append]
        simp only [Option.ite_none_left_eq_some, Option.some.injEq, Prod.mk.injEq] at h ⊢
        obtain ⟨hne, rfl, rfl⟩ := h
        exact ⟨hne, rfl, rfl⟩
      · rw [scanFraction?_of_ne (by simpa using hc)] at h
        obtain ⟨rfl, rfl⟩ := Prod.mk.inj (Option.some_inj.1 h)
        exact scanFraction?_of_ne (by simpa using hc)

theorem splitSign_append {cs : List Char} (h : (splitSign cs).2.takeWhile Char.isDigit ≠ [])
    (t : List Char) : splitSign (cs ++ t) = ((splitSign cs).1, (splitSign cs).2 ++ t) := by
  cases cs with
  | nil => exact absurd rfl h
  | cons c cs =>
      by_cases hminus : c = '-'
      · subst hminus
        rfl
      · by_cases hplus : c = '+'
        · subst hplus
          rfl
        · have hhead (ds : List Char) : splitSign (c :: ds) = (false, c :: ds) :=
            splitSign_of_head (by rintro _ ⟨⟩; exact ⟨hminus, hplus⟩)
          rw [List.cons_append, hhead, hhead]
          rfl

theorem scanExponent?_append {cs rest : List Char} {e : Option Int}
    (h : scanExponent? cs = some (e, rest)) {t : List Char} (ht : Ends t) :
    scanExponent? (cs ++ t) = some (e, rest ++ t) := by
  cases cs with
  | nil =>
      obtain ⟨rfl, rfl⟩ := Prod.mk.inj (Option.some_inj.1 h)
      cases t with
      | nil => rfl
      | cons c t =>
          have hc : isNumberPart c = false := stops_cons.1 ht
          have hne : ¬(c = 'e' ∨ c = 'E') := by
            rintro (rfl | rfl) <;> cases hc
          rw [List.nil_append, scanExponent?, if_neg hne]
  | cons c cs =>
      rw [List.cons_append, scanExponent?]
      rw [scanExponent?] at h
      by_cases hc : c = 'e' ∨ c = 'E'
      · rw [if_pos hc] at h ⊢
        have hne : (splitSign cs).2.takeWhile Char.isDigit ≠ [] := by
          intro hnil
          simp [hnil] at h
        rw [splitSign_append hne]
        simp only [ht.stops_isDigit.takeWhile_append,
          ht.stops_isDigit.dropWhile_append, if_neg hne, Option.some.injEq,
          Prod.mk.injEq] at h ⊢
        obtain ⟨rfl, rfl⟩ := h
        exact ⟨rfl, rfl⟩
      · rw [if_neg hc] at h ⊢
        obtain ⟨rfl, rfl⟩ := Prod.mk.inj (Option.some_inj.1 h)
        rfl

/-- The number after its sign. -/
def scanUnsigned? (negative : Bool) (cs : List Char) : Option (Numeral × List Char) := do
  let (whole, cs) ← scanWhole? cs
  let (fraction, cs) ← scanFraction? cs
  let (exponent, cs) ← scanExponent? cs
  return (⟨negative, whole, fraction, exponent⟩, cs)

theorem scan?_minus (cs : List Char) : scan? ('-' :: cs) = scanUnsigned? true cs := rfl

theorem scan?_of_ne {cs : List Char} (h : '-' ∉ cs.head?) :
    scan? cs = scanUnsigned? false cs := by
  unfold scan?
  split
  next heq =>
      split at heq
      · exact absurd rfl h
      · cases heq
        rfl

theorem scanUnsigned?_append {negative : Bool} {cs rest : List Char} {l : Numeral}
    (h : scanUnsigned? negative cs = some (l, rest)) {t : List Char} (ht : Ends t) :
    scanUnsigned? negative (cs ++ t) = some (l, rest ++ t) := by
  simp only [scanUnsigned?, Option.bind_eq_bind, Option.bind_eq_some_iff, Option.pure_def,
    Option.some.injEq] at h ⊢
  obtain ⟨⟨whole, cs₁⟩, hwhole, ⟨fraction, cs₂⟩, hfraction, ⟨exponent, cs₃⟩, hexponent, h⟩ := h
  obtain ⟨rfl, rfl⟩ := Prod.mk.inj h
  exact ⟨_, scanWhole?_append hwhole ht, _, scanFraction?_append hfraction ht, _,
    scanExponent?_append hexponent ht, rfl⟩

theorem exists_cons_of_scanUnsigned? {negative : Bool} {cs rest : List Char} {l : Numeral}
    (h : scanUnsigned? negative cs = some (l, rest)) :
    ∃ c ds, cs = c :: ds ∧ c.isDigit = true := by
  cases cs with
  | nil => cases h
  | cons c ds =>
      refine ⟨c, ds, rfl, ?_⟩
      cases hc : c.isDigit with
      | true => rfl
      | false =>
          simp [scanUnsigned?, scanWhole?, hc] at h

/-- A number starts with a sign or a digit. -/
theorem exists_cons_of_scan? {cs rest : List Char} {l : Numeral} (h : scan? cs = some (l, rest)) :
    ∃ c ds, cs = c :: ds ∧ (c = '-' ∨ c.isDigit = true) := by
  by_cases hminus : '-' ∈ cs.head?
  · obtain ⟨ds, rfl⟩ := List.head?_eq_some_iff.1 hminus
    exact ⟨'-', ds, rfl, .inl rfl⟩
  · rw [scan?_of_ne hminus] at h
    obtain ⟨c, ds, rfl, hc⟩ := exists_cons_of_scanUnsigned? h
    exact ⟨c, ds, rfl, .inr hc⟩

/-- A number is the same in a larger text that does not go on with it. -/
theorem scan?_append {cs rest : List Char} {l : Numeral} (h : scan? cs = some (l, rest))
    {t : List Char} (ht : Ends t) : scan? (cs ++ t) = some (l, rest ++ t) := by
  obtain ⟨c, ds, rfl, hc⟩ := exists_cons_of_scan? h
  by_cases hminus : c = '-'
  · subst hminus
    rw [scan?_minus] at h
    rw [List.cons_append, scan?_minus]
    exact scanUnsigned?_append h ht
  · rw [scan?_of_ne (by simpa using hminus)] at h
    rw [scan?_of_ne (by simpa using hminus)]
    exact scanUnsigned?_append h ht

end Numeral

/-! ### One value at a time -/

namespace Document

/-- The value at the front of a text that starts with no bracket and no quote, and what follows it. -/
def scanLeaf (cs : List Char) : Document × List Char :=
  match afterWord? "null".toList cs with
  | some cs => (.null, cs)
  | none =>
  match afterWord? "true".toList cs with
  | some cs => (.bool true, cs)
  | none =>
  match afterWord? "false".toList cs with
  | some cs => (.bool false, cs)
  | none =>
  match Numeral.scan? cs with
  | some (l, cs) =>
    match l.value? with
    | some n => (.number n, cs)
    | none => (.unreadable, cs)
  | none => (.broken, [])

section Equations

variable {cs ds es : List Char} {c : Char} (fuel depth : Nat)

theorem scan_emptyObject (h : skipSpace cs = '{' :: ds) (hd : skipSpace ds = '}' :: es) :
    scan (fuel + 1) depth cs = (within depth (.object [] true), es) := by
  rw [scan, h]
  simp only [hd]

theorem scan_object (h : skipSpace cs = '{' :: ds) (hd : skipSpace ds = '"' :: es) :
    scan (fuel + 1) depth cs =
      (within depth (.object (scanMembers fuel (depth - 1) [] ('"' :: es)).1
        (scanMembers fuel (depth - 1) [] ('"' :: es)).2.1),
        (scanMembers fuel (depth - 1) [] ('"' :: es)).2.2) := by
  rw [scan, h]
  simp only [hd]

theorem scan_emptyArray (h : skipSpace cs = '[' :: ds) (hd : skipSpace ds = ']' :: es) :
    scan (fuel + 1) depth cs = (within depth (.array [] true), es) := by
  rw [scan, h]
  simp only [hd]

theorem scan_strayKey (h : skipSpace cs = '{' :: ds) (hbrace : '}' ∉ (skipSpace ds).head?)
    (hquote : '"' ∉ (skipSpace ds).head?) :
    scan (fuel + 1) depth cs =
      (within depth (.strayKey (scan fuel (depth - 1) (skipSpace ds)).1), []) := by
  rw [scan, h]
  simp only
  split
  · next heq => exact absurd (by rw [heq]; rfl) hbrace
  · next heq => exact absurd (by rw [heq]; rfl) hquote
  · rfl

theorem scan_array (h : skipSpace cs = '[' :: ds) (hbracket : ']' ∉ (skipSpace ds).head?) :
    scan (fuel + 1) depth cs =
      (within depth (.array (scanItems fuel (depth - 1) [] (skipSpace ds)).1
        (scanItems fuel (depth - 1) [] (skipSpace ds)).2.1),
        (scanItems fuel (depth - 1) [] (skipSpace ds)).2.2) := by
  rw [scan, h]
  simp only
  split
  · next heq => exact absurd (by rw [heq]; rfl) hbracket
  · rfl

theorem scan_openString (h : skipSpace cs = '"' :: ds) (hd : scanString .start ds = none) :
    scan (fuel + 1) depth cs = (.broken, []) := by
  rw [scan, h]
  simp only [hd]

theorem scan_string {r : Option String} (h : skipSpace cs = '"' :: ds)
    (hd : scanString .start ds = some (r, es)) :
    scan (fuel + 1) depth cs = ((r.map Document.string).getD .unreadable, es) := by
  rw [scan, h]
  simp only [hd]
  cases r <;> rfl

theorem scan_leaf (h : skipSpace cs = c :: ds) (hbrace : c ≠ '{') (hbracket : c ≠ '[')
    (hquote : c ≠ '"') : scan (fuel + 1) depth cs = scanLeaf (c :: ds) := by
  rw [scan, h]
  split
  · next heq => exact absurd (List.cons.inj heq).1 hbrace
  · next heq => exact absurd (List.cons.inj heq).1 hbracket
  · next heq => exact absurd (List.cons.inj heq).1 hquote
  · rfl

end Equations

theorem scan_nil (fuel depth : Nat) {cs : List Char} (h : skipSpace cs = []) :
    scan fuel depth cs = (.broken, []) := by
  cases fuel with
  | zero => exact scan_zero depth cs
  | succ fuel =>
      rw [scan, h]
      rfl

theorem scanItems_nil (fuel depth : Nat) (before : List Document) :
    (scanItems fuel depth before []).2.1 = false := by
  cases fuel with
  | zero => rw [scanItems_zero]
  | succ fuel =>
      rw [scanItems, scan_nil fuel depth rfl]
      rfl

/-- An array is closed after its last item, and another item follows after a comma. -/
theorem scanItems_closed_iff {fuel depth : Nat} {before items : List Document}
    {cs rest : List Char} :
    scanItems (fuel + 1) depth before cs = (items, true, rest) ↔
      (scan fuel depth cs).1.isWhole = true ∧
        ((skipSpace (scan fuel depth cs).2 = ']' :: rest ∧
            items = ((scan fuel depth cs).1 :: before).reverse) ∨
          ∃ ds c es, skipSpace (scan fuel depth cs).2 = ',' :: ds ∧ skipSpace ds = c :: es ∧
            c ≠ ']' ∧
            scanItems fuel depth ((scan fuel depth cs).1 :: before) (c :: es) =
              (items, true, rest)) := by
  rw [scanItems]
  obtain ⟨d, cs'⟩ := scan fuel depth cs
  constructor
  · intro h
    simp only at h
    split at h
    · next hwhole =>
        refine ⟨hwhole, ?_⟩
        split at h
        · next hclose => cases h; exact .inl ⟨hclose, rfl⟩
        · next ds hcomma =>
            split at h
            · cases h
            · next hne =>
                cases hds : skipSpace ds with
                | nil =>
                    -- after a comma at the end of the text the array stays open
                    rw [hds] at h
                    have hopen := scanItems_nil fuel depth (d :: before)
                    rw [h] at hopen
                    cases hopen
                | cons c es =>
                    rw [hds] at h
                    refine .inr ⟨ds, c, es, hcomma, hds, ?_, h⟩
                    rintro rfl
                    exact hne es hds
        · cases h
    · cases h
  · rintro ⟨hwhole, ⟨hclose, rfl⟩ | ⟨ds, c, es, hcomma, hds, hne, hitems⟩⟩
    · simp only [hwhole, hclose, if_true]
    · simp only [hwhole, hcomma, hds, if_true]
      split
      · next heq => exact absurd (List.cons.inj heq).1 hne
      · exact hitems

/-- An object is closed after its last member, and another member follows after a comma. -/
theorem scanMembers_closed_iff {fuel depth : Nat} {before members : List (Option String × Document)}
    {cs rest : List Char} :
    scanMembers (fuel + 1) depth before cs = (members, true, rest) ↔
      ∃ ds key es fs, cs = '"' :: ds ∧ scanString .start ds = some (key, es) ∧
        skipSpace es = ':' :: fs ∧ (scan fuel depth fs).1.isWhole = true ∧
        ((skipSpace (scan fuel depth fs).2 = '}' :: rest ∧
            members = ((key, (scan fuel depth fs).1) :: before).reverse) ∨
          ∃ gs, skipSpace (scan fuel depth fs).2 = ',' :: gs ∧
            scanMembers fuel depth ((key, (scan fuel depth fs).1) :: before) (skipSpace gs) =
              (members, true, rest)) := by
  rw [scanMembers.eq_def]
  dsimp only
  constructor
  · intro h
    split at h
    · next ds =>
        split at h
        · next key es hkey =>
            split at h
            · next fs hcolon =>
                refine ⟨ds, key, es, fs, rfl, hkey, hcolon, ?_⟩
                split at h
                · next hwhole =>
                    refine ⟨hwhole, ?_⟩
                    split at h
                    · next hclose => cases h; exact .inl ⟨hclose, rfl⟩
                    · next gs hcomma => exact .inr ⟨gs, hcomma, h⟩
                    · cases h
                · cases h
            · cases h
        · cases h
    · cases h
  · rintro ⟨ds, key, es, fs, rfl, hkey, hcolon, hwhole, ⟨hclose, rfl⟩ | ⟨gs, hcomma, hmembers⟩⟩
    · simp only [hkey, hcolon, hwhole, hclose, if_true]
    · simp only [hkey, hcolon, hwhole, hcomma, if_true]
      exact hmembers

/-! ### Values in a larger text -/

/-- A text that starts with a number starts with none of the words. -/
theorem scanLeaf_number {cs rest : List Char} {l : Numeral}
    (h : Numeral.scan? cs = some (l, rest)) :
    scanLeaf cs = ((l.value?.map Document.number).getD .unreadable, rest) := by
  obtain ⟨c, ds, rfl, hc⟩ := Numeral.exists_cons_of_scan? h
  have hne : ∀ a ∈ ['n', 't', 'f'], a ≠ c := by
    rintro a ha rfl
    rcases hc with rfl | hdigit
    · exact absurd ha (by decide)
    · simp only [List.mem_cons, List.not_mem_nil, or_false] at ha
      rcases ha with rfl | rfl | rfl <;> cases hdigit
  have hnull : afterWord? "null".toList (c :: ds) = none :=
    afterWord?_eq_none (hne 'n' (by simp)) "ull".toList ds
  have htrue : afterWord? "true".toList (c :: ds) = none :=
    afterWord?_eq_none (hne 't' (by simp)) "rue".toList ds
  have hfalse : afterWord? "false".toList (c :: ds) = none :=
    afterWord?_eq_none (hne 'f' (by simp)) "alse".toList ds
  rw [scanLeaf, hnull, htrue, hfalse, h]
  cases hvalue : l.value? <;> simp only [hvalue] <;> rfl

theorem scanLeaf_append {cs rest : List Char} {d : Document} (h : scanLeaf cs = (d, rest))
    (hwhole : d.isWhole = true) {t : List Char} (ht : Ends t) :
    scanLeaf (cs ++ t) = (d, rest ++ t) := by
  cases hnumber : Numeral.scan? cs with
  | some r =>
      rw [scanLeaf_number hnumber] at h
      rw [scanLeaf_number (Numeral.scan?_append hnumber ht)]
      cases h
      rfl
  | none =>
      rw [scanLeaf, hnumber] at h
      split at h
      · next hnull =>
          cases h
          rw [afterWord?_eq_some_iff.1 hnull]
          rfl
      · split at h
        · next htrue =>
            cases h
            rw [afterWord?_eq_some_iff.1 htrue]
            rfl
        · split at h
          · next hfalse =>
              cases h
              rw [afterWord?_eq_some_iff.1 hfalse]
              rfl
          · cases h
            cases hwhole

theorem isWhole_of_within {depth : Nat} {d : Document} (h : (within depth d).isWhole = true) :
    d.isWhole = true := by
  unfold within at h
  split at h
  · split at h
    · assumption
    · cases h
  · exact h

theorem isWhole_within (depth : Nat) {d : Document} (h : d.isWhole = true) :
    (within depth d).isWhole = true := by
  unfold within
  split
  · rfl
  · exact h

/-- With the given fuel, a whole value is whole and ends at one place in any larger text, with more fuel
and under every nesting limit.  Under one limit it is one value. -/
def ScanLocal (fuel : Nat) : Prop :=
  ∀ ⦃fuel' depth cs d rest t⦄, fuel ≤ fuel' → Ends t → scan fuel depth cs = (d, rest) →
    d.isWhole = true → ∀ depth', ∃ d', scan fuel' depth' (cs ++ t) = (d', rest ++ t) ∧
      d'.isWhole = true ∧ (depth' = depth → d' = d)

/-- With the given fuel, items are closed at one place likewise. -/
def ItemsLocal (fuel : Nat) : Prop :=
  ∀ ⦃fuel' depth before cs items rest t⦄, fuel ≤ fuel' → Ends t →
    scanItems fuel depth before cs = (items, true, rest) → ∀ depth' before',
      ∃ items', scanItems fuel' depth' before' (cs ++ t) = (items', true, rest ++ t) ∧
        (depth' = depth → before' = before → items' = items)

/-- With the given fuel, members are closed at one place likewise. -/
def MembersLocal (fuel : Nat) : Prop :=
  ∀ ⦃fuel' depth before cs members rest t⦄, fuel ≤ fuel' → Ends t →
    scanMembers fuel depth before cs = (members, true, rest) → ∀ depth' before',
      ∃ members', scanMembers fuel' depth' before' (cs ++ t) = (members', true, rest ++ t) ∧
        (depth' = depth → before' = before → members' = members)

section Local

variable {fuel fuel' depth : Nat} {cs ds rest t : List Char} {d : Document}

/-- An object that is closed is an object in a larger text, unless the nesting limit hides it. -/
theorem exists_object_of_scan (hle : fuel ≤ fuel') (hmembers : MembersLocal fuel) (ht : Ends t)
    (hcs : skipSpace cs = '{' :: ds) (h : scan (fuel + 1) depth cs = (d, rest))
    (hwhole : d.isWhole = true) (depth' : Nat) :
    ∃ members,
      scan (fuel' + 1) depth' (cs ++ t) = (within depth' (.object members true), rest ++ t) ∧
        (depth' = depth → within depth' (.object members true) = d) := by
  have hcs' := skipSpace_append hcs t
  by_cases hbrace : '}' ∈ (skipSpace ds).head?
  · obtain ⟨es, hds⟩ := List.head?_eq_some_iff.1 hbrace
    rw [scan_emptyObject fuel depth hcs hds] at h
    cases h
    refine ⟨[], scan_emptyObject fuel' depth' hcs' (skipSpace_append hds t), ?_⟩
    rintro rfl
    rfl
  by_cases hquote : '"' ∈ (skipSpace ds).head?
  · obtain ⟨es, hds⟩ := List.head?_eq_some_iff.1 hquote
    rw [scan_object fuel depth hcs hds] at h
    obtain ⟨rfl, rfl⟩ := Prod.mk.inj h
    have hclosed : (scanMembers fuel (depth - 1) [] ('"' :: es)).2.1 = true :=
      isWhole_of_within hwhole
    obtain ⟨members, hread, hsame⟩ :=
      hmembers hle ht (Prod.ext rfl (Prod.ext hclosed rfl)) (depth' - 1) []
    rw [List.cons_append] at hread
    refine ⟨members, ?_, ?_⟩
    · rw [scan_object fuel' depth' hcs' (skipSpace_append hds t), hread]
    · rintro rfl
      rw [hsame rfl rfl, hclosed]
  -- a stray key breaks the object off, which is then not whole
  · rw [scan_strayKey fuel depth hcs hbrace hquote] at h
    obtain ⟨rfl, rfl⟩ := Prod.mk.inj h
    cases isWhole_of_within hwhole

/-- An array that is closed is an array in a larger text, unless the nesting limit hides it. -/
theorem exists_array_of_scan (hle : fuel ≤ fuel') (hitems : ItemsLocal fuel) (ht : Ends t)
    (hcs : skipSpace cs = '[' :: ds) (h : scan (fuel + 1) depth cs = (d, rest))
    (hwhole : d.isWhole = true) (depth' : Nat) :
    ∃ items,
      scan (fuel' + 1) depth' (cs ++ t) = (within depth' (.array items true), rest ++ t) ∧
        (depth' = depth → within depth' (.array items true) = d) := by
  have hcs' := skipSpace_append hcs t
  cases hds : skipSpace ds with
  | nil =>
      -- nothing stands after the bracket, so the array is not closed
      rw [scan_array fuel depth hcs (by rw [hds]; exact fun h => nomatch h), hds] at h
      obtain ⟨rfl, rfl⟩ := Prod.mk.inj h
      have hclosed := isWhole_of_within hwhole
      rw [Document.isWhole, scanItems_nil] at hclosed
      cases hclosed
  | cons c es =>
      have hds' := skipSpace_append hds t
      by_cases hbracket : c = ']'
      · subst hbracket
        rw [scan_emptyArray fuel depth hcs hds] at h
        cases h
        refine ⟨[], scan_emptyArray fuel' depth' hcs' hds', ?_⟩
        rintro rfl
        rfl
      · rw [scan_array fuel depth hcs (by rw [hds]; simpa using hbracket), hds] at h
        obtain ⟨rfl, rfl⟩ := Prod.mk.inj h
        have hclosed : (scanItems fuel (depth - 1) [] (c :: es)).2.1 = true :=
          isWhole_of_within hwhole
        obtain ⟨items, hread, hsame⟩ :=
          hitems hle ht (Prod.ext rfl (Prod.ext hclosed rfl)) (depth' - 1) []
        rw [List.cons_append] at hread
        refine ⟨items, ?_, ?_⟩
        · rw [scan_array fuel' depth' hcs' (by rw [hds']; simpa using hbracket), hds', hread]
        · rintro rfl
          rw [hsame rfl rfl, hclosed]

end Local

theorem scanLocal_succ {fuel : Nat} (hitems : ItemsLocal fuel) (hmembers : MembersLocal fuel) :
    ScanLocal (fuel + 1) := by
  intro fuel' depth cs d rest t hle ht h hwhole depth'
  obtain ⟨fuel', rfl⟩ : ∃ n, fuel' = n + 1 := ⟨fuel' - 1, by omega⟩
  have hle : fuel ≤ fuel' := by omega
  cases hcs : skipSpace cs with
  | nil =>
      rw [scan_nil _ _ hcs] at h
      cases h
      cases hwhole
  | cons c ds =>
      have hcs' := skipSpace_append hcs t
      by_cases hbrace : c = '{'
      · obtain ⟨members, hread, hsame⟩ :=
          exists_object_of_scan hle hmembers ht (hbrace ▸ hcs) h hwhole depth'
        exact ⟨_, hread, isWhole_within depth' rfl, hsame⟩
      by_cases hbracket : c = '['
      · obtain ⟨items, hread, hsame⟩ :=
          exists_array_of_scan hle hitems ht (hbracket ▸ hcs) h hwhole depth'
        exact ⟨_, hread, isWhole_within depth' rfl, hsame⟩
      -- strings and leaves do not look at the nesting limit
      refine ⟨d, ?_, hwhole, fun _ => rfl⟩
      by_cases hquote : c = '"'
      · subst hquote
        cases hstring : scanString .start ds with
        | none =>
            rw [scan_openString fuel depth hcs hstring] at h
            cases h
            cases hwhole
        | some r =>
            rw [scan_string fuel depth hcs hstring] at h
            rw [scan_string fuel' depth' hcs' (scanString_append hstring t)]
            cases h
            rfl
      · rw [scan_leaf fuel depth hcs hbrace hbracket hquote] at h
        rw [scan_leaf fuel' depth' hcs' hbrace hbracket hquote]
        exact scanLeaf_append h hwhole ht

theorem itemsLocal_succ {fuel : Nat} (hscan : ScanLocal fuel) (hitems : ItemsLocal fuel) :
    ItemsLocal (fuel + 1) := by
  intro fuel' depth before cs items rest t hle ht h depth' before'
  obtain ⟨fuel', rfl⟩ : ∃ n, fuel' = n + 1 := ⟨fuel' - 1, by omega⟩
  have hle : fuel ≤ fuel' := by omega
  obtain ⟨hwhole, hend⟩ := scanItems_closed_iff.1 h
  obtain ⟨d', hread, hwhole', hsame⟩ :=
    hscan hle ht (Prod.eta (scan fuel depth cs)).symm hwhole depth'
  rcases hend with ⟨hclose, rfl⟩ | ⟨ds, c, es, hcomma, hds, hne, hrest⟩
  · refine ⟨(d' :: before').reverse, scanItems_closed_iff.2 ?_, ?_⟩
    · rw [hread]
      exact ⟨hwhole', .inl ⟨skipSpace_append hclose t, rfl⟩⟩
    · rintro hdepth rfl
      rw [hsame hdepth]
  · obtain ⟨items', hrest', hsame'⟩ := hitems hle ht hrest depth' (d' :: before')
    refine ⟨items', scanItems_closed_iff.2 ?_, ?_⟩
    · rw [hread]
      exact ⟨hwhole', .inr ⟨ds ++ t, c, es ++ t, skipSpace_append hcomma t, skipSpace_append hds t,
        hne, hrest'⟩⟩
    · rintro hdepth rfl
      exact hsame' hdepth (by rw [hsame hdepth])

theorem membersLocal_succ {fuel : Nat} (hscan : ScanLocal fuel) (hmembers : MembersLocal fuel) :
    MembersLocal (fuel + 1) := by
  intro fuel' depth before cs members rest t hle ht h depth' before'
  obtain ⟨fuel', rfl⟩ : ∃ n, fuel' = n + 1 := ⟨fuel' - 1, by omega⟩
  have hle : fuel ≤ fuel' := by omega
  obtain ⟨ds, key, es, fs, rfl, hkey, hcolon, hwhole, hend⟩ := scanMembers_closed_iff.1 h
  obtain ⟨d', hread, hwhole', hsame⟩ :=
    hscan hle ht (Prod.eta (scan fuel depth fs)).symm hwhole depth'
  have hkey' := scanString_append hkey t
  have hcolon' := skipSpace_append hcolon t
  rcases hend with ⟨hclose, rfl⟩ | ⟨gs, hcomma, hrest⟩
  · refine ⟨((key, d') :: before').reverse,
      scanMembers_closed_iff.2 ⟨ds ++ t, key, es ++ t, fs ++ t, rfl, hkey', hcolon', ?_⟩, ?_⟩
    · rw [hread]
      exact ⟨hwhole', .inl ⟨skipSpace_append hclose t, rfl⟩⟩
    · rintro hdepth rfl
      rw [hsame hdepth]
  · -- a member follows the comma, so the blanks after it end before the text does
    have hgs : skipSpace (gs ++ t) = skipSpace gs ++ t := by
      cases hskip : skipSpace gs with
      | nil =>
          rw [hskip] at hrest
          cases fuel with
          | zero => cases hrest
          | succ fuel => cases hrest
      | cons c hs => exact skipSpace_append hskip t
    obtain ⟨members', hrest', hsame'⟩ := hmembers hle ht hrest depth' ((key, d') :: before')
    rw [← hgs] at hrest'
    refine ⟨members',
      scanMembers_closed_iff.2 ⟨ds ++ t, key, es ++ t, fs ++ t, rfl, hkey', hcolon', ?_⟩, ?_⟩
    · rw [hread]
      exact ⟨hwhole', .inr ⟨gs ++ t, skipSpace_append hcomma t, hrest'⟩⟩
    · rintro hdepth rfl
      exact hsame' hdepth (by rw [hsame hdepth])

/-- **Where a whole value ends** depends neither on what follows it nor on the nesting limit, and more
fuel does not change it. -/
theorem scan_local (fuel : Nat) : ScanLocal fuel ∧ ItemsLocal fuel ∧ MembersLocal fuel := by
  -- on the fuel: each of the three readers calls the others with one less
  induction fuel with
  | zero =>
      refine ⟨?_, ?_, ?_⟩
      · intro fuel' depth cs d rest t _ _ h hwhole
        rw [scan_zero] at h
        cases h
        cases hwhole
      · intro fuel' depth before cs items rest t _ _ h
        rw [scanItems_zero] at h
        cases h
      · intro fuel' depth before cs members rest t _ _ h
        rw [scanMembers_zero] at h
        cases h
  | succ fuel ih =>
      obtain ⟨hscan, hitems, hmembers⟩ := ih
      exact ⟨scanLocal_succ hitems hmembers, itemsLocal_succ hscan hitems,
        membersLocal_succ hscan hmembers⟩

/-- **A whole value is read the same in a larger text and with more fuel.** -/
theorem scan_append {fuel fuel' depth : Nat} {cs rest t : List Char} {d : Document}
    (hle : fuel ≤ fuel') (ht : Ends t) (h : scan fuel depth cs = (d, rest))
    (hwhole : d.isWhole = true) : scan fuel' depth (cs ++ t) = (d, rest ++ t) := by
  obtain ⟨d', hread, -, hsame⟩ := (scan_local fuel).1 hle ht h hwhole depth
  rw [hread, hsame rfl]

/-- The nesting limit makes a document unreadable or broken, but nothing else of it. -/
theorem within_ne {depth : Nat} {d e : Document} (hunreadable : e ≠ .unreadable) (hbroken : e ≠ .broken)
    (h : d ≠ e) : within depth d ≠ e := by
  unfold within
  split
  · split
    · exact hunreadable.symm
    · exact hbroken.symm
  · exact h

/-- A value that is read as an object opens with a brace. -/
theorem exists_brace_of_scan {fuel depth : Nat} {cs rest : List Char}
    {members : List (Option String × Document)} {closed : Bool}
    (h : scan fuel depth cs = (.object members closed, rest)) :
    ∃ ds, skipSpace cs = '{' :: ds := by
  cases fuel with
  | zero =>
      rw [scan_zero] at h
      cases h
  | succ fuel =>
      rw [scan] at h
      split at h
      · next ds hcs => exact ⟨ds, hcs⟩
      · split at h
        all_goals exact absurd (Prod.mk.inj h).1 (within_ne (by simp) (by simp) (by simp))
      · split at h <;> cases h
      · split at h
        · cases h
        · split at h
          · cases h
          · split at h
            · cases h
            · split at h
              · split at h <;> cases h
              · cases h

end Document

/-! ### Texts of one value -/

/-- The value of a text that is one JSON value nested at most `depth` deep, in normal form. -/
def parseWithin? (depth : Nat) (s : String) : Option Json :=
  let (d, rest) := Document.scan (2 * s.toList.length + 1) depth s.toList
  if (skipSpace rest).isEmpty then d.toJson?.map normalize else none

theorem parse?_eq_parseWithin? (s : String) : parse? s = parseWithin? Document.maxDepth s := rfl

/-- A value that is there, or the complaint that a text is not JSON. -/
def orNotJson {α : Type} : Option α → Except ReadError α
  | some a => .ok a
  | none => .error .notJson

/-- A text is one value, which is read as the given document in any larger text that goes on with no
number. -/
def Yields (depth : Nat) (cs : List Char) (d : Document) : Prop :=
  d.isWhole = true ∧ ∃ rest, skipSpace rest = [] ∧ ∀ fuel t, 2 * cs.length + 1 ≤ fuel → Ends t →
    Document.scan fuel depth (cs ++ t) = (d, rest ++ t)

/-- The text of a JSON object, whatever its members hold. -/
def IsObjectText (s : String) : Prop :=
  ∃ members, Document.ofText s = (.object members true, true)

theorem skipSpace_append_of_nil {rest : List Char} (h : skipSpace rest = []) (t : List Char) :
    skipSpace (rest ++ t) = skipSpace t := by
  rw [skipSpace] at h
  rw [skipSpace, List.dropWhile_append, h]
  rfl

/-- **A text that is one value is the same value in a larger text.** -/
theorem yields_of_scan {depth : Nat} {cs rest : List Char} {d : Document}
    (h : Document.scan (2 * cs.length + 1) depth cs = (d, rest)) (hwhole : d.isWhole = true)
    (hrest : skipSpace rest = []) : Yields depth cs d :=
  ⟨hwhole, rest, hrest, fun _ _ hfuel ht => Document.scan_append hfuel ht h hwhole⟩

theorem readValue_eq_orNotJson (d : Document) :
    d.readValue = orNotJson (d.toJson?.map normalize) := by
  rw [Document.readValue]
  cases d.toJson? <;> rfl

/-- By itself a text is read as what it yields. -/
theorem Yields.exists_scan {depth : Nat} {cs : List Char} {d : Document} (h : Yields depth cs d) :
    ∃ rest, skipSpace rest = [] ∧ Document.scan (2 * cs.length + 1) depth cs = (d, rest) := by
  obtain ⟨-, rest, hrest, hscan⟩ := h
  have hends : Ends [] := fun _ hc => nomatch hc
  have hread := hscan _ [] (Nat.le_refl _) hends
  rw [List.append_nil, List.append_nil] at hread
  exact ⟨rest, hrest, hread⟩

theorem Yields.ofText_eq {s : String} {d : Document} (h : Yields Document.maxDepth s.toList d) :
    Document.ofText s = (d, true) := by
  obtain ⟨rest, hrest, hread⟩ := h.exists_scan
  rw [Document.ofText, hread]
  simp only [hrest, List.isEmpty_nil]

/-- The value of a text is the value of what it yields. -/
theorem Yields.parseWithin?_eq {depth : Nat} {s : String} {d : Document}
    (h : Yields depth s.toList d) : parseWithin? depth s = d.toJson?.map normalize := by
  obtain ⟨rest, hrest, hread⟩ := h.exists_scan
  rw [parseWithin?, hread]
  simp only [hrest, List.isEmpty_nil, if_true]

theorem Yields.readValue_eq {depth : Nat} {s : String} {d : Document}
    (h : Yields depth s.toList d) : d.readValue = orNotJson (parseWithin? depth s) := by
  rw [h.parseWithin?_eq, readValue_eq_orNotJson]

/-- The text of an object yields an object under every nesting limit that leaves it readable. -/
theorem IsObjectText.exists_yields {s : String} (h : IsObjectText s) (depth : Nat) :
    ∃ members, Yields (depth + 1) s.toList (.object members true) := by
  obtain ⟨members, h⟩ := h
  rw [Document.ofText] at h
  cases hscan : Document.scan (2 * s.toList.length + 1) Document.maxDepth s.toList with
  | mk d rest =>
      rw [hscan] at h
      obtain ⟨rfl, hended⟩ := Prod.mk.inj h
      obtain ⟨ds, hbrace⟩ := Document.exists_brace_of_scan hscan
      have hends : Ends [] := fun _ hc => nomatch hc
      obtain ⟨members', hread, -⟩ := Document.exists_object_of_scan (Nat.le_refl _)
        (Document.scan_local _).2.2 hends hbrace hscan rfl (depth + 1)
      rw [List.append_nil, List.append_nil] at hread
      exact ⟨members', yields_of_scan hread rfl (List.isEmpty_iff.1 hended)⟩

/-- The value of the text of an object is an object. -/
theorem Yields.isObject {depth : Nat} {s : String} {members : List (Option String × Document)}
    {v : Json} (h : Yields depth s.toList (.object members true)) (hv : parseWithin? depth s = some v) :
    v.isObject = true := by
  rw [h.parseWithin?_eq, Document.toJson?, if_pos rfl] at hv
  simp only [Option.map_map, Option.map_eq_some_iff] at hv
  obtain ⟨ms, -, rfl⟩ := hv
  rfl

end Rulebook.Json
