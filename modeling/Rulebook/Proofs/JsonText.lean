/-
**JSON that is written and read again.**

The text of a JSON value is read as the value, provided that its numbers are and that it is not nested
beyond the limit.  Beyond the limit the text is passed over to its end, but nothing that holds the
part beyond the limit has a value.

Main definitions:

* `Rulebook.Json.Number.ReadsBack` — a number whose text is read as the number;
* `Rulebook.Json.objectText` — the text of an object with texts for its values;
* `Rulebook.Json.numbers` — the numbers in a value;
* `Rulebook.Json.clip` — a value as it is read under a nesting limit.

Main results:

* `Rulebook.Json.scanString_writeString` — strings are read back;
* `Rulebook.Json.yields_objectText` — **an object of texts is read member by member**;
* `Rulebook.Json.yields_text` — **what is read off the text of a value**;
* `Rulebook.Json.clip_eq_toDocument`, `Rulebook.Json.toJson?_clip_eq_none` — within the limit that is the
  value, and beyond it no value at all.
-/

import Mathlib.Data.List.Forall2
import Rulebook.Json.Writer
import Rulebook.Proofs.JsonReading
import Rulebook.Proofs.WrittenNumber

set_option autoImplicit false

namespace Rulebook.Json

/-! ### Strings -/

/-- The character that an escape stands for, by its code. -/
def escapedCode? : List Char → Option Nat
  | ['\\', e] => (unescape? e).map Char.toNat
  | ['\\', 'u', '0', '0', a, b] => hexWord? '0' '0' a b
  | _ => none

/-- How a control character is escaped: a short form, or four hexadecimal digits. -/
theorem escape_control {c : Char} (h : c.toNat < 0x20) :
    (∃ e, escape c = ['\\', e] ∧ unescape? e = some c) ∨
      ∃ a b, escape c = ['\\', 'u', '0', '0', a, b] ∧ hexWord? '0' '0' a b = some c.toNat := by
  have hall : ∀ n < 0x20, escapedCode? (escape (Char.ofNat n)) = some n := by decide
  have hc := hall c.toNat h
  rw [Char.ofNat_toNat] at hc
  unfold escapedCode? at hc
  split at hc
  · next e hescape =>
      obtain ⟨d, hd, hcode⟩ := Option.map_eq_some_iff.1 hc
      exact .inl ⟨e, hescape, hd.trans (congrArg some (Char.toNat_inj.1 hcode))⟩
  · next a b hescape => exact .inr ⟨a, b, hescape, hc⟩
  · cases hc

theorem pushCode_of_lt {s : Spelling} {code : Nat} (h : code < 0xD800) :
    s.pushCode code = s.push (Char.ofNat code) := by
  have hhigh : isHighSurrogate code = false := by simp [isHighSurrogate]; omega
  have hlow : isLowSurrogate code = false := by simp [isLowSurrogate]; omega
  simp [Spelling.pushCode, hhigh, hlow]

theorem escape_plain {c : Char} (hquote : c ≠ '"') (hbackslash : c ≠ '\\')
    (hcontrol : ¬c.toNat < 0x20) : escape c = [c] := by
  unfold escape
  split
  · exact absurd rfl hquote
  · exact absurd rfl hbackslash
  · exact absurd (by decide) hcontrol
  · exact absurd (by decide) hcontrol
  · exact absurd (by decide) hcontrol
  · exact absurd (by decide) hcontrol
  · exact absurd (by decide) hcontrol
  · exact if_neg hcontrol

/-- What is written for a character is read as the character. -/
theorem scanString_escape_append (c : Char) (s : Spelling) (cs : List Char) :
    scanString s (escape c ++ cs) = scanString (s.push c) cs := by
  by_cases hcontrol : c.toNat < 0x20
  · rcases escape_control hcontrol with ⟨e, he, hback⟩ | ⟨a, b, he, hback⟩
    · rw [he]
      exact scanString_escape hback s cs
    · have hcode : s.pushCode c.toNat = s.push c := by
        rw [pushCode_of_lt (by omega), Char.ofNat_toNat]
      rw [he, ← hcode]
      exact scanString_code hback s cs
  · by_cases hquote : c = '"'
    · subst hquote
      exact scanString_escape rfl s cs
    by_cases hbackslash : c = '\\'
    · subst hbackslash
      exact scanString_escape rfl s cs
    · rw [escape_plain hquote hbackslash hcontrol]
      exact scanString_plain hquote hbackslash hcontrol s cs

/-- **A string is read back**, whatever follows it. -/
theorem scanString_writeString (s : String) (rest : List Char) :
    ∃ cs, writeString s rest = '"' :: cs ∧ scanString .start cs = some (some s, rest) := by
  have hread (text : List Char) : ∀ before : List Char,
      scanString ⟨some before, none⟩ (text.foldr (fun c cs => escape c ++ cs) ('"' :: rest)) =
        some (some (String.ofList (before.reverse ++ text)), rest) := by
    induction text with
    | nil =>
        intro before
        rw [List.foldr_nil, scanString_quote, List.append_nil]
        rfl
    | cons c text ih =>
        intro before
        rw [List.foldr_cons, scanString_escape_append]
        refine (ih (c :: before)).trans ?_
        rw [List.reverse_cons, List.append_assoc]
        rfl
  refine ⟨_, rfl, (hread s.toList []).trans ?_⟩
  rw [List.reverse_nil, List.nil_append, String.ofList_toList]

theorem suffix_writeString (s : String) (rest : List Char) :
    '"' :: rest <:+ writeString s rest := by
  have hsuffix (text : List Char) :
      '"' :: rest <:+ text.foldr (fun c cs => escape c ++ cs) ('"' :: rest) := by
    induction text with
    | nil => exact List.suffix_rfl
    | cons c text ih => exact ih.trans (List.suffix_append _ _)
  exact (hsuffix s.toList).trans (List.suffix_cons '"' _)

/-! ### Numbers -/

/-- The text of the number, and nothing less, is read as the number. -/
def Number.ReadsBack (n : Number) : Prop :=
  ∃ l : Numeral, Numeral.scan? n.text.toList = some (l, []) ∧ l.value? = some n

deriving instance DecidableEq for Number

instance (n : Number) : Decidable n.ReadsBack :=
  decidable_of_iff (((Numeral.scan? n.text.toList).bind fun r =>
    if r.2 = [] then r.1.value? else none) = some n) (by
      simp only [Number.ReadsBack, Option.bind_eq_some_iff, Option.ite_none_right_eq_some,
        Prod.exists]
      constructor
      · rintro ⟨l, rest, hscan, rfl, hvalue⟩
        exact ⟨l, hscan, hvalue⟩
      · rintro ⟨l, hscan, hvalue⟩
        exact ⟨l, [], hscan, rfl, hvalue⟩)

/-- A text without white space. -/
def Solid (cs : List Char) : Prop := ∀ c ∈ cs, isSpace c = false

theorem solid_nil : Solid [] := fun _ hc => nomatch hc

theorem solid_append {cs ds : List Char} (hcs : Solid cs) (hds : Solid ds) : Solid (cs ++ ds) :=
  List.forall_mem_append.2 ⟨hcs, hds⟩

theorem solid_cons {c : Char} {cs : List Char} (hc : isSpace c = false) (hcs : Solid cs) :
    Solid (c :: cs) := List.forall_mem_cons.2 ⟨hc, hcs⟩

theorem IsDigits.solid {cs : List Char} (h : IsDigits cs) : Solid cs := by
  have hlisted : ∀ c, isSpace c = true → c ∈ [' ', '\n', '\t', '\r'] := by simp [isSpace, or_assoc]
  exact fun c hc => eq_false_of_listed _ hlisted (by decide) (h.2 c hc)

theorem solid_positional {digits : List Char} (h : IsDigits digits) (point : Int) :
    Solid (positional digits point) := by
  obtain ⟨whole, fraction, ds, hwhole, hfraction, hparts⟩ := exists_parts_positional h point
  rw [hparts]
  refine solid_append (IsDigits.solid hwhole) ?_
  cases hfraction with
  | absent => exact solid_nil
  | point hds => exact solid_cons rfl (IsDigits.solid hds)

theorem solid_scientific {digits : List Char} (h : IsDigits digits) (point : Int) :
    Solid (scientific digits point) := by
  unfold scientific
  refine solid_append ?_ (solid_cons rfl (solid_cons ?_ (IsDigits.solid (isDigits_toDigits _))))
  · split
    · next d e ds =>
        have hall := IsDigits.solid h
        exact solid_cons (hall d (by simp)) (solid_cons rfl fun c hc => hall c (by simp [hc]))
    · exact IsDigits.solid h
  · split <;> rfl

theorem solid_pointedText (x : Float) : Solid (pointedText x).toList := by
  have hdigits := isDigits_digitsAndPoint .even x
  have hsign : Solid (signText x) := by
    rw [signText]
    split
    · exact solid_cons rfl solid_nil
    · exact solid_nil
  simp only [pointedText, String.toList_ofList]
  refine solid_append hsign ?_
  split
  · split
    · exact solid_append (solid_positional hdigits _) (solid_cons rfl (solid_cons rfl solid_nil))
    · exact solid_positional hdigits _
  · exact solid_scientific hdigits _

theorem solid_text (n : Number) : Solid n.text.toList := by
  cases n with
  | integer n =>
      have hnat (m : Nat) : Solid m.repr.toList := by
        rw [Nat.toList_repr]
        exact IsDigits.solid (isDigits_toDigits m)
      rw [Number.text, Int.toString_eq_repr, Int.repr_eq_if]
      split
      · exact hnat _
      · rw [String.toList_append]
        exact solid_append (solid_cons rfl solid_nil) (hnat _)
  | double x =>
      rw [Number.text]
      split
      · exact solid_pointedText x
      · exact solid_cons rfl (solid_cons rfl (solid_cons rfl (solid_cons rfl solid_nil)))

namespace Numeral

theorem scanWhole?_suffix {cs w rest : List Char} (h : scanWhole? cs = some (w, rest)) :
    rest <:+ cs := by
  rw [scanWhole?] at h
  split at h
  · cases h
  · cases h
  · obtain ⟨-, rfl⟩ := Prod.mk.inj (Option.some_inj.1 h)
    exact List.dropWhile_suffix _

theorem scanFraction?_suffix {cs w rest : List Char} (h : scanFraction? cs = some (w, rest)) :
    rest <:+ cs := by
  unfold scanFraction? at h
  split at h
  · simp only [Option.ite_none_left_eq_some, Option.some.injEq, Prod.mk.injEq] at h
    obtain ⟨-, -, rfl⟩ := h
    exact (List.dropWhile_suffix _).trans (List.suffix_cons _ _)
  · obtain ⟨-, rfl⟩ := Prod.mk.inj (Option.some_inj.1 h)
    exact List.suffix_rfl

theorem splitSign_suffix (cs : List Char) : (splitSign cs).2 <:+ cs := by
  unfold splitSign
  split
  · exact List.suffix_cons _ _
  · exact List.suffix_cons _ _
  · exact List.suffix_rfl

theorem scanExponent?_suffix {cs rest : List Char} {e : Option Int}
    (h : scanExponent? cs = some (e, rest)) : rest <:+ cs := by
  unfold scanExponent? at h
  split at h
  · next c cs =>
      split at h
      · simp only [Option.ite_none_left_eq_some, Option.some.injEq, Prod.mk.injEq] at h
        obtain ⟨-, -, rfl⟩ := h
        exact ((List.dropWhile_suffix _).trans (splitSign_suffix cs)).trans (List.suffix_cons _ _)
      · obtain ⟨-, rfl⟩ := Prod.mk.inj (Option.some_inj.1 h)
        exact List.suffix_rfl
  · obtain ⟨-, rfl⟩ := Prod.mk.inj (Option.some_inj.1 h)
    exact List.suffix_rfl

theorem scanUnsigned?_suffix {negative : Bool} {cs rest : List Char} {l : Numeral}
    (h : scanUnsigned? negative cs = some (l, rest)) : rest <:+ cs := by
  simp only [scanUnsigned?, Option.bind_eq_bind, Option.bind_eq_some_iff, Option.pure_def,
    Option.some.injEq] at h
  obtain ⟨_, hwhole, _, hfraction, _, hexponent, h⟩ := h
  obtain ⟨-, rfl⟩ := Prod.mk.inj h
  exact ((scanExponent?_suffix hexponent).trans (scanFraction?_suffix hfraction)).trans
    (scanWhole?_suffix hwhole)

theorem scan?_suffix {cs rest : List Char} {l : Numeral} (h : scan? cs = some (l, rest)) :
    rest <:+ cs := by
  by_cases hminus : '-' ∈ cs.head?
  · obtain ⟨ds, rfl⟩ := List.head?_eq_some_iff.1 hminus
    exact (scanUnsigned?_suffix h).trans (List.suffix_cons _ _)
  · rw [scan?_of_ne hminus] at h
    exact scanUnsigned?_suffix h

end Numeral

theorem skipSpace_cons {c : Char} (h : isSpace c = false) (cs : List Char) :
    skipSpace (c :: cs) = c :: cs := (stops_cons.2 h : Stops isSpace (c :: cs)).dropWhile_eq

theorem Solid.skipSpace_eq {cs : List Char} (h : Solid cs) : skipSpace cs = cs := by
  cases cs with
  | nil => rfl
  | cons c cs => exact skipSpace_cons (h c List.mem_cons_self) cs

/-- A number is read only where one is written. -/
theorem exists_numeral_of_scan {fuel depth : Nat} {cs rest : List Char} {n : Number}
    (h : Document.scan fuel depth cs = (.number n, rest)) :
    ∃ l, Numeral.scan? (skipSpace cs) = some (l, rest) ∧ l.value? = some n := by
  cases fuel with
  | zero => rw [Document.scan] at h; cases h
  | succ fuel =>
      rw [Document.scan] at h
      split at h
      · split at h
        all_goals exact absurd (Prod.mk.inj h).1 (Document.within_ne (by simp) (by simp) (by simp))
      · split at h
        all_goals exact absurd (Prod.mk.inj h).1 (Document.within_ne (by simp) (by simp) (by simp))
      · split at h <;> cases h
      · split at h
        · cases h
        · split at h
          · cases h
          · split at h
            · cases h
            · split at h
              · next l cs' hnumber =>
                  split at h
                  · next hvalue =>
                      cases h
                      exact ⟨l, hnumber, hvalue⟩
                  · cases h
              · cases h

theorem eq_number_of_toJson? {d : Document} {n : Number} (h : d.toJson? = some (.number n)) :
    d = .number n := by
  cases d with
  | number m => rw [Json.number.inj (Option.some_inj.1 h)]
  | array items closed => cases closed <;> simp [Document.toJson?] at h
  | object members closed => cases closed <;> simp [Document.toJson?] at h
  | _ => cases h

/-- A number is read back when its text as a whole is read as it. -/
theorem readsBack_of_parse? {n : Number} (h : parse? n.text = some (.number n)) : n.ReadsBack := by
  rw [parse?_eq_parseWithin?, parseWithin?] at h
  cases hscan : Document.scan (2 * n.text.toList.length + 1) Document.maxDepth n.text.toList with
  | mk d rest =>
      rw [hscan] at h
      simp only [Option.ite_none_right_eq_some, Option.map_eq_some_iff, List.isEmpty_iff] at h
      obtain ⟨hrest, v, hv, hnormal⟩ := h
      obtain rfl : v = .number n := by
        cases v <;> first | exact hnormal | cases hnormal
      obtain rfl := eq_number_of_toJson? hv
      obtain ⟨l, hnumber, hvalue⟩ := exists_numeral_of_scan hscan
      rw [(solid_text n).skipSpace_eq] at hnumber
      have hsolid : Solid rest := fun c hc =>
        solid_text n c ((Numeral.scan?_suffix hnumber).subset hc)
      rw [hsolid.skipSpace_eq] at hrest
      exact ⟨l, hrest ▸ hnumber, hvalue⟩

/-! ### Objects of texts -/

/-- Further members with texts for their values, each after a comma. -/
def writeTexts : List (String × String) → List Char → List Char
  | [], rest => rest
  | (key, s) :: members, rest =>
    ',' :: writeString key (':' :: (s.toList ++ writeTexts members rest))

/-- The text of an object with texts for its values. -/
def objectText : List (String × String) → String
  | [] => "\x7b\x7d"
  | (key, s) :: members =>
    String.ofList ('{' :: writeString key (':' :: (s.toList ++ writeTexts members ['}'])))

example : objectText [("data", "[1]"), ("trace", "true")] = "\x7b\"data\":[1],\"trace\":true\x7d" := by
  decide

theorem ends_cons {c : Char} (h : isNumberPart c = false) (cs : List Char) : Ends (c :: cs) :=
  stops_cons.2 h

theorem ends_writeTexts (members : List (String × String)) (rest : List Char) :
    Ends (writeTexts members ('}' :: rest)) := by
  cases members with
  | nil => exact ends_cons rfl rest
  | cons m members => exact ends_cons rfl _

/-- A member that is read under its key as what its text yields. -/
def ReadsAs (depth : Nat) (m : String × String) (r : Option String × Document) : Prop :=
  r.1 = some m.1 ∧ Yields depth m.2.toList r.2

/-- The members of an object of texts, after the comma or brace before them. -/
theorem scanMembers_writeTexts {depth : Nat} {members : List (String × String)}
    {read : List (Option String × Document)} (h : List.Forall₂ (ReadsAs depth) members read) :
    ∀ (fuel : Nat) (before : List (Option String × Document)) {cs rest : List Char},
      writeTexts members ('}' :: rest) = ',' :: cs → 2 * cs.length ≤ fuel →
      Document.scanMembers fuel depth before cs = (before.reverse ++ read, true, rest) := by
  induction h with
  | nil =>
      intro fuel before cs rest hcs
      cases hcs
  | @cons m r members read hm hrest ih =>
      obtain ⟨key, s⟩ := m
      obtain ⟨name, d⟩ := r
      obtain ⟨hkey, hwhole, after, hafter, hscan⟩ := hm
      obtain rfl : name = some key := hkey
      intro fuel before cs rest hcs hfuel
      rw [writeTexts] at hcs
      obtain rfl := (List.cons.inj hcs).2
      have hlength := (suffix_writeString key
        (':' :: (s.toList ++ writeTexts members ('}' :: rest)))).length_le
      simp only [List.length_cons, List.length_append] at hlength
      obtain ⟨fuel, rfl⟩ : ∃ n, fuel = n + 1 := ⟨fuel - 1, by omega⟩
      obtain ⟨ds, hds, hname⟩ := scanString_writeString key
        (':' :: (s.toList ++ writeTexts members ('}' :: rest)))
      have hread := hscan fuel _ (by simp only; omega) (ends_writeTexts members rest)
      refine Document.scanMembers_closed_iff.2 ⟨ds, some key, _, _, hds, hname, rfl, ?_⟩
      rw [hread]
      refine ⟨hwhole, ?_⟩
      -- blanks that the text of the value ends with do not hide the comma or the brace
      rw [skipSpace_append_of_nil hafter]
      cases hrest with
      | nil =>
          refine .inl ⟨rfl, ?_⟩
          rw [List.reverse_cons]
      | @cons m r members read hm hrest =>
          have hcomma : writeTexts (m :: members) ('}' :: rest) = ',' ::
              writeString m.1 (':' :: (m.2.toList ++ writeTexts members ('}' :: rest))) := rfl
          have hshorter := congrArg List.length hcomma
          rw [List.length_cons] at hshorter
          refine .inr ⟨_, hcomma, ?_⟩
          have hnext := ih fuel ((some key, d) :: before) hcomma (by omega)
          rw [writeString] at hnext ⊢
          refine hnext.trans ?_
          rw [List.reverse_cons, List.append_assoc]
          rfl

/-- **An object of texts is read member by member.** -/
theorem yields_objectText {depth : Nat} {members : List (String × String)}
    {read : List (Option String × Document)}
    (h : List.Forall₂ (ReadsAs (depth - 1)) members read) :
    Yields depth (objectText members).toList (.within depth (.object read true)) := by
  have hwhole := Document.isWhole_within depth (d := .object read true) rfl
  cases h with
  | nil =>
      have hread : Document.scan (2 * (objectText []).toList.length + 1) depth
          (objectText []).toList = (.within depth (.object [] true), []) :=
        Document.scan_emptyObject _ depth rfl rfl
      exact yields_of_scan hread hwhole rfl
  | @cons m r members read hm hrest =>
      obtain ⟨key, s⟩ := m
      have htext : (objectText ((key, s) :: members)).toList =
          '{' :: writeString key (':' :: (s.toList ++ writeTexts members ['}'])) :=
        String.toList_ofList
      have hcomma : writeTexts ((key, s) :: members) ['}'] = ',' ::
          writeString key (':' :: (s.toList ++ writeTexts members ['}'])) := rfl
      have hmembers := scanMembers_writeTexts (.cons hm hrest)
        (2 * (objectText ((key, s) :: members)).toList.length) [] hcomma
        (by rw [htext, List.length_cons]; omega)
      have hread : Document.scan (2 * (objectText ((key, s) :: members)).toList.length + 1) depth
          (objectText ((key, s) :: members)).toList =
            (.within depth (.object (r :: read) true), []) := by
        rw [htext, writeString] at hmembers ⊢
        rw [Document.scan_object _ _ rfl rfl, hmembers]
        rfl
      exact yields_of_scan hread hwhole rfl

/-- A text that is an object of texts is read member by member. -/
theorem ofText_objectText {members : List (String × String)} {read : List (Option String × Document)}
    (h : List.Forall₂ (ReadsAs (Document.maxDepth - 1)) members read) :
    Document.ofText (objectText members) = (.object read true, true) :=
  (yields_objectText h).ofText_eq

/-! ### Values -/

mutual

/-- The numbers in a value. -/
def numbers : Json → List Number
  | .number n => [n]
  | .array items => numbersOfItems items
  | .object members => numbersOfMembers members
  | _ => []

/-- The numbers in items. -/
def numbersOfItems : List Json → List Number
  | [] => []
  | v :: rest => numbers v ++ numbersOfItems rest

/-- The numbers in the values of members. -/
def numbersOfMembers : List (String × Json) → List Number
  | [] => []
  | (_, v) :: rest => numbers v ++ numbersOfMembers rest

end

/-- The numbers of every item are among those of the items. -/
theorem forall_numbers_of_items {items : List Json} {P : Number → Prop}
    (h : ∀ n ∈ numbersOfItems items, P n) : ∀ v ∈ items, ∀ n ∈ v.numbers, P n := by
  induction items with
  | nil => exact fun _ hv => nomatch hv
  | cons v items ih =>
      rw [numbersOfItems, List.forall_mem_append] at h
      exact List.forall_mem_cons.2 ⟨h.1, ih h.2⟩

mutual

/-- A value as it is read under a nesting limit. -/
def clip (depth : Nat) : Json → Document
  | .null => .null
  | .bool b => .bool b
  | .number n => .number n
  | .string s => .string s
  | .array items => .within depth (.array (clipItems (depth - 1) items) true)
  | .object members => .within depth (.object (clipMembers (depth - 1) members) true)

/-- `clip` for every item. -/
def clipItems (depth : Nat) : List Json → List Document
  | [] => []
  | v :: rest => clip depth v :: clipItems depth rest

/-- `clip` for the value of every member. -/
def clipMembers (depth : Nat) : List (String × Json) → List (Option String × Document)
  | [] => []
  | (key, v) :: rest => (some key, clip depth v) :: clipMembers depth rest

end

mutual

/-- Within the limit, nothing is lost. -/
theorem clip_eq_toDocument : ∀ (v : Json) {depth : Nat}, v.depth ≤ depth → clip depth v = toDocument v
  | .null, _, _ | .bool _, _, _ | .number _, _, _ | .string _, _, _ => rfl
  | .array items, depth, h => by
      rw [Json.depth] at h
      rw [clip, toDocument, Document.within, if_neg (by omega),
        clipItems_eq_itemsToDocument items (by omega)]
  | .object members, depth, h => by
      rw [Json.depth] at h
      rw [clip, toDocument, Document.within, if_neg (by omega),
        clipMembers_eq_membersToDocument members (by omega)]

theorem clipItems_eq_itemsToDocument : ∀ (items : List Json) {depth : Nat},
    depthItems items ≤ depth → clipItems depth items = itemsToDocument items
  | [], _, _ => rfl
  | v :: rest, depth, h => by
      rw [depthItems] at h
      rw [clipItems, itemsToDocument, clip_eq_toDocument v (by omega),
        clipItems_eq_itemsToDocument rest (by omega)]

theorem clipMembers_eq_membersToDocument : ∀ (members : List (String × Json)) {depth : Nat},
    depthMembers members ≤ depth → clipMembers depth members = membersToDocument members
  | [], _, _ => rfl
  | (key, v) :: rest, depth, h => by
      rw [depthMembers] at h
      rw [clipMembers, membersToDocument, clip_eq_toDocument v (by omega),
        clipMembers_eq_membersToDocument rest (by omega)]

end

mutual

/-- Beyond the limit, nothing is a value. -/
theorem toJson?_clip_eq_none : ∀ (v : Json) {depth : Nat}, depth < v.depth →
    (clip depth v).toJson? = none
  | .null, _, h | .bool _, _, h | .number _, _, h | .string _, _, h => absurd h (Nat.not_lt_zero _)
  | .array items, depth, h => by
      rw [Json.depth] at h
      rw [clip, Document.within]
      split
      · rfl
      · rw [Document.toJson?, if_pos rfl, itemsToJson?_clipItems_eq_none items (by omega)]
        rfl
  | .object members, depth, h => by
      rw [Json.depth] at h
      rw [clip, Document.within]
      split
      · rfl
      · rw [Document.toJson?, if_pos rfl, membersToJson?_clipMembers_eq_none members (by omega)]
        rfl

theorem itemsToJson?_clipItems_eq_none : ∀ (items : List Json) {depth : Nat},
    depth < depthItems items → Document.itemsToJson? (clipItems depth items) = none
  | [], _, h => absurd h (Nat.not_lt_zero _)
  | v :: rest, depth, h => by
      rw [depthItems] at h
      rw [clipItems, Document.itemsToJson?]
      by_cases hv : depth < v.depth
      · rw [toJson?_clip_eq_none v hv]
      · rw [itemsToJson?_clipItems_eq_none rest (by omega)]
        split <;> rfl

theorem membersToJson?_clipMembers_eq_none : ∀ (members : List (String × Json)) {depth : Nat},
    depth < depthMembers members → Document.membersToJson? (clipMembers depth members) = none
  | [], _, h => absurd h (Nat.not_lt_zero _)
  | (key, v) :: rest, depth, h => by
      rw [depthMembers] at h
      rw [clipMembers, Document.membersToJson?]
      by_cases hv : depth < v.depth
      · rw [toJson?_clip_eq_none v hv]
      · rw [membersToJson?_clipMembers_eq_none rest (by omega)]
        split <;> rfl

end

/-! ### The text of a value -/

theorem writeString_append (s : String) (as bs : List Char) :
    writeString s (as ++ bs) = writeString s as ++ bs := by
  have hfold (text : List Char) :
      text.foldr (fun c cs => escape c ++ cs) ('"' :: (as ++ bs)) =
        text.foldr (fun c cs => escape c ++ cs) ('"' :: as) ++ bs := by
    induction text with
    | nil => rfl
    | cons c text ih => rw [List.foldr_cons, List.foldr_cons, ih, List.append_assoc]
  rw [writeString, writeString, hfold, List.cons_append]

mutual

/-- What follows a value stands behind its text. -/
theorem writeOnto_append : ∀ (v : Json) (as bs : List Char),
    writeOnto v (as ++ bs) = writeOnto v as ++ bs
  | .null, as, bs | .bool true, as, bs | .bool false, as, bs | .number _, as, bs => by
      rw [writeOnto, writeOnto, List.append_assoc]
  | .string s, as, bs => by rw [writeOnto, writeOnto, writeString_append]
  | .array [], as, bs | .object [], as, bs => by
      rw [writeOnto, writeOnto, List.cons_append, List.cons_append]
  | .array (v :: items), as, bs => by
      rw [writeOnto, writeOnto, ← List.cons_append, writeItems_append, writeOnto_append v,
        List.cons_append]
  | .object ((key, v) :: members), as, bs => by
      rw [writeOnto, writeOnto, ← List.cons_append, writeMembers_append, writeOnto_append v,
        ← List.cons_append, writeString_append, List.cons_append]

theorem writeItems_append : ∀ (items : List Json) (as bs : List Char),
    writeItems items (as ++ bs) = writeItems items as ++ bs
  | [], as, bs => by simp only [writeItems]
  | v :: items, as, bs => by
      rw [writeItems, writeItems, writeItems_append, writeOnto_append v, List.cons_append]

theorem writeMembers_append : ∀ (members : List (String × Json)) (as bs : List Char),
    writeMembers members (as ++ bs) = writeMembers members as ++ bs
  | [], as, bs => by simp only [writeMembers]
  | (key, v) :: members, as, bs => by
      rw [writeMembers, writeMembers, writeMembers_append, writeOnto_append v, ← List.cons_append,
        writeString_append, List.cons_append]

end

theorem toList_text (v : Json) : v.text.toList = writeOnto v [] := String.toList_ofList

theorem writeOnto_eq (v : Json) (rest : List Char) : writeOnto v rest = v.text.toList ++ rest := by
  rw [toList_text, ← writeOnto_append, List.nil_append]

theorem writeMembers_eq (members : List (String × Json)) (rest : List Char) :
    writeMembers members rest = writeTexts (members.map fun m => (m.1, m.2.text)) rest := by
  induction members with
  | nil => rw [writeMembers]; rfl
  | cons m members ih => rw [writeMembers, writeOnto_eq, ih]; rfl

/-- The text of an object is that of the object of the texts of its values. -/
theorem text_object (members : List (String × Json)) :
    (Json.object members).text = objectText (members.map fun m => (m.1, m.2.text)) := by
  cases members with
  | nil => rfl
  | cons m members => rw [text, writeOnto, writeOnto_eq, writeMembers_eq]; rfl

theorem clipMembers_eq_map (depth : Nat) (members : List (String × Json)) :
    clipMembers depth members = members.map fun m => (some m.1, clip depth m.2) := by
  induction members with
  | nil => rfl
  | cons m members ih => rw [clipMembers, ih]; rfl

/-- The text of a number that is read back starts with a sign or a digit. -/
theorem Number.ReadsBack.exists_cons {n : Number} (h : n.ReadsBack) :
    ∃ c cs, n.text.toList = c :: cs ∧ (c = '-' ∨ c.isDigit = true) := by
  obtain ⟨l, hscan, -⟩ := h
  exact Numeral.exists_cons_of_scan? hscan

/-- The text of a value starts with a character that is neither white space nor a closing bracket. -/
theorem exists_cons_writeOnto {v : Json} (h : ∀ n ∈ v.numbers, n.ReadsBack) (rest : List Char) :
    ∃ c cs, writeOnto v rest = c :: cs ∧ isSpace c = false ∧ c ≠ ']' := by
  cases v with
  | null => exact ⟨_, _, by rw [writeOnto]; rfl, by decide, by decide⟩
  | bool b => cases b <;> exact ⟨_, _, by rw [writeOnto]; rfl, by decide, by decide⟩
  | number n =>
      obtain ⟨c, cs, htext, hc⟩ := (h n List.mem_cons_self).exists_cons
      refine ⟨c, cs ++ rest, by rw [writeOnto, htext]; rfl, ?_, ?_⟩
      · exact solid_text n c (htext ▸ List.mem_cons_self)
      · rintro rfl
        rcases hc with hc | hc <;> cases hc
  | string s => exact ⟨_, _, by rw [writeOnto]; rfl, by decide, by decide⟩
  | array items => cases items <;> exact ⟨_, _, by rw [writeOnto], by decide, by decide⟩
  | object members => cases members <;> exact ⟨_, _, by rw [writeOnto], by decide, by decide⟩

theorem ends_writeItems (items : List Json) (rest : List Char) :
    Ends (writeItems items (']' :: rest)) := by
  cases items with
  | nil => rw [writeItems]; exact ends_cons rfl _
  | cons v items => rw [writeItems]; exact ends_cons rfl _

/-- A text that starts with no bracket and no quote and is a word or a number to its end. -/
theorem yields_of_scanLeaf {cs ds : List Char} {c : Char} {d : Document} (depth : Nat)
    (hspace : skipSpace cs = c :: ds) (hopens : c ∉ ['{', '[', '"'])
    (hleaf : Document.scanLeaf (c :: ds) = (d, [])) (hwhole : d.isWhole = true) :
    Yields depth cs d := by
  obtain ⟨hbrace, hbracket, hquote⟩ : c ≠ '{' ∧ c ≠ '[' ∧ c ≠ '"' := by simpa using hopens
  have hscan := Document.scan_leaf (2 * cs.length) depth hspace hbrace hbracket hquote
  exact yields_of_scan (hscan.trans hleaf) hwhole rfl

/-- What is read off the text of a number. -/
theorem yields_number {n : Number} (h : n.ReadsBack) (depth : Nat) :
    Yields depth n.text.toList (.number n) := by
  obtain ⟨c, cs, htext, hc⟩ := h.exists_cons
  obtain ⟨l, hscan, hvalue⟩ := h
  have hopens : c ∉ ['{', '[', '"'] := by
    rcases hc with rfl | hdigit
    · decide
    · simp only [List.mem_cons, List.not_mem_nil, or_false]
      rintro (rfl | rfl | rfl) <;> cases hdigit
  refine yields_of_scanLeaf depth ((solid_text n).skipSpace_eq.trans htext) hopens ?_ rfl
  rw [← htext, Document.scanLeaf_number hscan, hvalue]
  rfl

/-- A number is read back exactly when its text as a whole is read as it. -/
theorem parse?_number_iff {n : Number} : parse? n.text = some (.number n) ↔ n.ReadsBack := by
  refine ⟨readsBack_of_parse?, fun h => ?_⟩
  rw [parse?_eq_parseWithin?, (yields_number h Document.maxDepth).parseWithin?_eq]
  rfl

/-- The items of an array, after the comma or bracket before them. -/
theorem scanItems_writeItems {depth : Nat} {items : List Json}
    (hnumbers : ∀ v ∈ items, ∀ n ∈ v.numbers, n.ReadsBack)
    (hitems : ∀ v ∈ items, Yields depth v.text.toList (clip depth v)) :
    ∀ (fuel : Nat) (before : List Document) {cs rest : List Char},
      writeItems items (']' :: rest) = ',' :: cs → 2 * cs.length ≤ fuel →
      Document.scanItems fuel depth before cs =
        (before.reverse ++ clipItems depth items, true, rest) := by
  induction items with
  | nil =>
      intro fuel before cs rest hcs
      rw [writeItems] at hcs
      cases hcs
  | cons v items ih =>
      obtain ⟨⟨hwhole, after, hafter, hscan⟩, hitems⟩ := List.forall_mem_cons.1 hitems
      obtain ⟨-, hnumbers⟩ := List.forall_mem_cons.1 hnumbers
      intro fuel before cs rest hcs hfuel
      rw [writeItems, writeOnto_eq] at hcs
      obtain rfl := (List.cons.inj hcs).2
      have hpos : 0 < (writeItems items (']' :: rest)).length := by
        cases items <;> simp [writeItems]
      rw [List.length_append] at hfuel
      obtain ⟨fuel, rfl⟩ : ∃ n, fuel = n + 1 := ⟨fuel - 1, by omega⟩
      have hread := hscan fuel _ (by omega) (ends_writeItems items rest)
      refine Document.scanItems_closed_iff.2 ?_
      rw [hread]
      refine ⟨hwhole, ?_⟩
      rw [skipSpace_append_of_nil hafter]
      cases items with
      | nil =>
          refine .inl ⟨by rw [writeItems]; rfl, ?_⟩
          rw [List.reverse_cons]
          rfl
      | cons w items =>
          obtain ⟨c, es, hes, hc, hne⟩ :=
            exists_cons_writeOnto (hnumbers w List.mem_cons_self) (writeItems items (']' :: rest))
          have hnext : writeItems (w :: items) (']' :: rest) = ',' :: c :: es := by
            rw [writeItems, hes]
          rw [hnext, List.length_cons] at hfuel
          rw [hnext]
          have hrest := ih hnumbers hitems fuel (clip depth v :: before) hnext (by omega)
          refine .inr ⟨c :: es, c, es, rfl, skipSpace_cons hc es, hne, hrest.trans ?_⟩
          rw [List.reverse_cons, List.append_assoc]
          rfl

/-- An array is read item by item. -/
theorem yields_array {depth : Nat} {items : List Json}
    (hnumbers : ∀ v ∈ items, ∀ n ∈ v.numbers, n.ReadsBack)
    (hitems : ∀ v ∈ items, Yields (depth - 1) v.text.toList (clip (depth - 1) v)) :
    Yields depth (Json.array items).text.toList (clip depth (.array items)) := by
  have hwhole := Document.isWhole_within depth (d := .array (clipItems (depth - 1) items) true) rfl
  rw [toList_text, clip]
  cases items with
  | nil =>
      rw [writeOnto]
      exact yields_of_scan (Document.scan_emptyArray _ depth rfl rfl) hwhole rfl
  | cons v items =>
      obtain ⟨c, cs, hcs, hc, hne⟩ :=
        exists_cons_writeOnto (hnumbers v List.mem_cons_self) (writeItems items [']'])
      rw [writeOnto]
      -- the items are read as if the bracket were the comma before the first of them
      have hskip : skipSpace (writeOnto v (writeItems items [']'])) =
          writeOnto v (writeItems items [']']) := by
        rw [hcs, skipSpace_cons hc]
      have hcomma : writeItems (v :: items) [']'] = ',' :: writeOnto v (writeItems items [']']) := by
        rw [writeItems]
      have hitems := scanItems_writeItems hnumbers hitems
        (2 * ('[' :: writeOnto v (writeItems items [']'])).length) [] hcomma
        (by rw [List.length_cons]; omega)
      have hread : Document.scan (2 * ('[' :: writeOnto v (writeItems items [']'])).length + 1) depth
          ('[' :: writeOnto v (writeItems items [']'])) =
            (.within depth (.array (clipItems (depth - 1) (v :: items)) true), []) := by
        rw [Document.scan_array _ depth rfl (by rw [hskip, hcs]; simpa using hne), hskip, hitems]
        rfl
      exact yields_of_scan hread hwhole rfl

mutual

/-- **What is read off the text of a value** whose numbers are read back: the value, cut off at the
nesting limit. -/
theorem yields_text : ∀ {v : Json}, (∀ n ∈ v.numbers, n.ReadsBack) → ∀ depth : Nat,
    Yields depth v.text.toList (clip depth v)
  | .null, _, depth | .bool true, _, depth | .bool false, _, depth => by
      rw [toList_text, writeOnto]
      exact yields_of_scanLeaf depth rfl (by decide) rfl rfl
  | .number n, h, depth => by
      rw [toList_text, writeOnto, List.append_nil]
      exact yields_number (h n List.mem_cons_self) depth
  | .string s, _, depth => by
      obtain ⟨cs, hcs, hread⟩ := scanString_writeString s []
      rw [toList_text, writeOnto, hcs]
      exact yields_of_scan (Document.scan_string _ depth rfl hread) rfl rfl
  | .array items, h, depth => by
      rw [numbers] at h
      exact yields_array (forall_numbers_of_items h) (yields_items h (depth - 1))
  | .object members, h, depth => by
      rw [numbers] at h
      rw [text_object, clip, clipMembers_eq_map]
      refine yields_objectText ?_
      rw [List.forall₂_map_left_iff, List.forall₂_map_right_iff, List.forall₂_same]
      exact fun m hm => ⟨rfl, yields_members h (depth - 1) m hm⟩

theorem yields_items : ∀ {items : List Json}, (∀ n ∈ numbersOfItems items, n.ReadsBack) →
    ∀ depth : Nat, ∀ v ∈ items, Yields depth v.text.toList (clip depth v)
  | [], _, _ => fun _ hv => nomatch hv
  | v :: items, h, depth => by
      rw [numbersOfItems, List.forall_mem_append] at h
      exact List.forall_mem_cons.2 ⟨yields_text h.1 depth, yields_items h.2 depth⟩

theorem yields_members : ∀ {members : List (String × Json)},
    (∀ n ∈ numbersOfMembers members, n.ReadsBack) →
    ∀ depth : Nat, ∀ m ∈ members, Yields depth m.2.text.toList (clip depth m.2)
  | [], _, _ => fun _ hm => nomatch hm
  | (key, v) :: members, h, depth => by
      rw [numbersOfMembers, List.forall_mem_append] at h
      exact List.forall_mem_cons.2 ⟨yields_text h.1 depth, yields_members h.2 depth⟩

end

/-- The text of an object that is written is the text of an object. -/
theorem isObjectText_text {members : List (String × Json)}
    (h : ∀ n ∈ (Json.object members).numbers, n.ReadsBack) :
    IsObjectText (Json.object members).text :=
  ⟨clipMembers (Document.maxDepth - 1) members, (yields_text h Document.maxDepth).ofText_eq⟩

/-- **The text of a value is read as the value**, in normal form and within the nesting limit. -/
theorem parseWithin?_text {v : Json} (h : ∀ n ∈ v.numbers, n.ReadsBack) (depth : Nat) :
    parseWithin? depth v.text = if v.depth ≤ depth then some v.normalize else none := by
  rw [(yields_text h depth).parseWithin?_eq]
  split
  · next hdepth => rw [clip_eq_toDocument v hdepth, toJson?_toDocument, Option.map_some]
  · next hdepth => rw [toJson?_clip_eq_none v (Nat.lt_of_not_le hdepth), Option.map_none]

end Rulebook.Json
