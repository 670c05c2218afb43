/-
**The walk over the bytes of a number.**

`Rulebook.isNumeral` takes a text apart by its characters.  The same can be done by a walk over its bytes
with one index: a byte is looked at, and the index moves on or stays.  Here the walk is written with reads
that fail beyond the end, and it is shown to keep step with the characters: a byte below 128 is a character,
and a character that takes several bytes starts with none that the walk moves past.  So no read fails, and
the walk comes to the end of the numbers of rule text and of no other text.

A text of a number is then read and its value has to be finite.  Since every number of rule text is a text of
a double, the reading cannot fail, and what is wrong with a number is its form or its size.

Main definitions:

* `Rulebook.NumberFault` — what the checks of a number find;
* `Rulebook.walkNumeral` — the walk;
* `Rulebook.judgeNumber` — the checks one after another;
* `Rulebook.Reaches` — how far into a text an index has come;
* `Rulebook.KeepsStep` — a walk and its image on characters.

Main results:

* `Rulebook.Reaches.byteAt_eq` — the byte at an index tells ASCII characters apart;
* `Rulebook.walkNumeral_eq` — **the walk never reads beyond the text and finds the numbers**;
* `Rulebook.judgeNumber_eq_error_iff` — what is found wrong, and when;
* `Rulebook.readNumber_eq_judgeNumber` — the checks are those of the scanner;
* `Rulebook.number_is_refused_for_form_or_size` — **all of it, for every text**.
-/

import Rulebook.Proofs.Lexeme
import Rulebook.Proofs.NumberPatterns

set_option autoImplicit false

namespace Rulebook

open String (utf8ByteSize_ofList utf8Len utf8Len_append utf8Len_cons utf8Len_nil utf8Len_toList)

/-! ### The walk -/

/-- What the checks of a number find. -/
inductive NumberFault where
  /-- A byte beyond the text was to be read. -/
  | beyond
  /-- The text has not the form of a number. -/
  | form
  /-- It has the form and yet is no double. -/
  | unread
  /-- Its value is not finite. -/
  | overflow
  deriving DecidableEq, Repr

/-- The byte at an index of a text. -/
def byteAt (bytes : ByteArray) (i : Nat) : Except NumberFault UInt8 :=
  if h : i < bytes.size then .ok bytes[i] else .error .beyond

/-- Whether the walk is not at the end, and the byte there is one of the given characters. -/
def comesTo (chars : List Char) (bytes : ByteArray) (i : Nat) : Except NumberFault Bool :=
  if i < bytes.size then (byteAt bytes i).map fun b => chars.any fun c => c.toNat == b.toNat
  else .ok false

/-- The index past one of the given characters, if the walk has come to one. -/
def pastOne (chars : List Char) (bytes : ByteArray) (i : Nat) : Except NumberFault Nat := do
  if ← comesTo chars bytes i then return i + 1 else return i

theorem lt_size_of_comesTo {chars : List Char} {bytes : ByteArray} {i : Nat}
    (h : comesTo chars bytes i = .ok true) : i < bytes.size := by
  rw [comesTo] at h
  split at h
  · assumption
  · cases h

/-- The index at which a row of digits ends. -/
def digitsEnd (bytes : ByteArray) (i : Nat) : Except NumberFault Nat :=
  match h : comesTo digitChars bytes i with
  | .ok true => digitsEnd bytes (i + 1)
  | .ok false => .ok i
  | .error fault => .error fault
termination_by bytes.size - i
decreasing_by
  have := lt_size_of_comesTo h
  omega

theorem digitsEnd_eq {bytes : ByteArray} {i : Nat} {more : Bool}
    (h : comesTo digitChars bytes i = .ok more) :
    digitsEnd bytes i = if more then digitsEnd bytes (i + 1) else .ok i := by
  rw [digitsEnd]
  split
  · next hcomes => cases h.symm.trans hcomes; rfl
  · next hcomes => cases h.symm.trans hcomes; rfl
  · next hcomes => cases h.symm.trans hcomes

/-- The index past a row of at least one digit. -/
def walkDigits (bytes : ByteArray) (i : Nat) : Except NumberFault Nat := do
  let j ← digitsEnd bytes i
  if i < j then return j else throw .form

/-- The index past a fraction, which may be absent. -/
def walkFraction (bytes : ByteArray) (i : Nat) : Except NumberFault Nat := do
  if ← comesTo ['.'] bytes i then walkDigits bytes (i + 1) else return i

/-- The index past an exponent, which may be absent. -/
def walkExponent (bytes : ByteArray) (i : Nat) : Except NumberFault Nat := do
  if ← comesTo ['e', 'E'] bytes i then walkDigits bytes (← pastOne ['+', '-'] bytes (i + 1))
  else return i

/-- Nothing may come after a number. -/
def checkEnd (bytes : ByteArray) (i : Nat) : Except NumberFault Unit :=
  if i = bytes.size then .ok () else .error .form

/-- The walk over a number. -/
def walkNumeral (bytes : ByteArray) : Except NumberFault Unit := do
  let i ← pastOne ['-'] bytes 0
  let i ← walkDigits bytes i
  let i ← walkFraction bytes i
  let i ← walkExponent bytes i
  checkEnd bytes i

/-! ### Bytes and characters -/

/-- The characters of one byte. -/
def isAscii (c : Char) : Bool := c.toNat < 128

/-- The first byte of a character is the code of an ASCII character only if it is the character. -/
theorem exists_head_utf8EncodeChar (c : Char) :
    ∃ b bs, String.utf8EncodeChar c = b :: bs ∧
      ∀ d : Char, isAscii d = true → (d.toNat = b.toNat ↔ d = c) := by
  have hascii {d : Char} {b : UInt8} (hb : b.toNat = c.toNat) : d.toNat = b.toNat ↔ d = c := by
    rw [hb, Char.toNat_inj]
  have hhigh {d : Char} {b : UInt8} (hc : 128 ≤ c.toNat) (hb : 128 ≤ b.toNat)
      (hd : isAscii d = true) : d.toNat = b.toNat ↔ d = c := by
    have hd : d.toNat < 128 := of_decide_eq_true hd
    refine iff_of_false (by omega) ?_
    rintro rfl
    omega
  have hval : c.val.toNat = c.toNat := rfl
  simp only [String.utf8EncodeChar, hval]
  split
  · exact ⟨_, _, rfl, fun d _ => hascii (by rw [UInt8.toNat_ofNat']; omega)⟩
  · have hc : 128 ≤ c.toNat := by omega
    split
    · exact ⟨_, _, rfl, fun d => hhigh hc (by rw [UInt8.toNat_ofNat']; omega)⟩
    · split <;> exact ⟨_, _, rfl, fun d => hhigh hc (by rw [UInt8.toNat_ofNat']; omega)⟩

/-- An index has come to where the given characters are what is left of a text. -/
def Reaches (text : String) (i : Nat) (cs : List Char) : Prop :=
  ∃ before, text.toList = before ++ cs ∧ i = utf8Len before

namespace Reaches

variable {text : String} {i : Nat} {c : Char} {cs : List Char}

theorem start (text : String) : Reaches text 0 text.toList := ⟨[], rfl, rfl⟩

theorem eq_size_iff (h : Reaches text i cs) : i = text.toByteArray.size ↔ cs = [] := by
  obtain ⟨before, htext, rfl⟩ := h
  rw [String.size_toByteArray, ← utf8Len_toList, htext, utf8Len_append]
  cases cs with
  | nil => simp
  | cons c cs =>
      have hpositive := c.utf8Size_pos
      refine iff_of_false ?_ (List.cons_ne_nil c cs)
      rw [utf8Len_cons]
      omega

/-- A character of one byte is passed by one byte. -/
theorem next (h : Reaches text i (c :: cs)) (hc : isAscii c = true) : Reaches text (i + 1) cs := by
  obtain ⟨before, htext, rfl⟩ := h
  have hsize : c.utf8Size = 1 := Char.utf8Size_eq_one_iff.2
    (UInt32.le_iff_toNat_le.2 (Nat.le_of_lt_succ (of_decide_eq_true hc)))
  refine ⟨before ++ [c], by rw [htext, List.append_assoc, List.singleton_append], ?_⟩
  rw [utf8Len_append, utf8Len_cons, hsize, utf8Len_nil]

/-- **The byte at an index tells ASCII characters apart.** -/
theorem byteAt_eq (h : Reaches text i (c :: cs)) :
    ∃ b, byteAt text.toByteArray i = .ok b ∧
      ∀ d : Char, isAscii d = true → (d.toNat = b.toNat ↔ d = c) := by
  obtain ⟨before, htext, rfl⟩ := h
  obtain ⟨b, bs, hbytes, hb⟩ := exists_head_utf8EncodeChar c
  refine ⟨b, ?_, hb⟩
  have hsplit : text.toByteArray =
      before.utf8Encode ++ ((b :: bs).toByteArray ++ cs.utf8Encode) := by
    rw [← String.utf8Encode_toList, htext, List.utf8Encode_append, List.utf8Encode_cons,
      List.utf8Encode_singleton, hbytes]
  have hsize : before.utf8Encode.size = utf8Len before := by
    rw [← String.toByteArray_ofList, String.size_toByteArray, utf8ByteSize_ofList]
  have hpositive : 0 < (b :: bs).toByteArray.size := by simp
  have hinside : utf8Len before < text.toByteArray.size := by
    rw [hsplit, ByteArray.size_append, ByteArray.size_append, hsize]
    omega
  rw [byteAt, dif_pos hinside]
  simp only [hsplit, ByteArray.getElem_append_right (Nat.le_of_eq hsize), hsize, Nat.sub_self,
    ByteArray.getElem_append_left hpositive, List.getElem_toByteArray, List.getElem_cons_zero]

/-- Whether the walk has come to one of some ASCII characters is seen at the byte. -/
theorem comesTo_eq {chars : List Char} (hchars : ∀ d ∈ chars, isAscii d = true)
    (h : Reaches text i cs) :
    comesTo chars text.toByteArray i = .ok (cs.head?.any fun c => chars.contains c) := by
  have hend := h.eq_size_iff
  cases cs with
  | nil =>
      have hnot : ¬i < text.toByteArray.size := by
        rw [hend.2 rfl]
        exact Nat.lt_irrefl _
      rw [comesTo, if_neg hnot]
      rfl
  | cons c cs =>
      obtain ⟨b, hbyte, hb⟩ := h.byteAt_eq
      have hinside : i < text.toByteArray.size := by
        rw [byteAt] at hbyte
        split at hbyte
        · assumption
        · cases hbyte
      rw [comesTo, if_pos hinside, hbyte]
      refine congrArg Except.ok ?_
      rw [Bool.eq_iff_iff]
      simp only [List.any_eq_true, beq_iff_eq, List.head?_cons, Option.any_some, List.contains_iff_mem]
      constructor
      · rintro ⟨d, hd, hsame⟩
        rwa [← (hb d (hchars d hd)).1 hsame]
      · exact fun hc => ⟨c, hc, (hb c (hchars c hc)).2 rfl⟩

end Reaches

/-! ### The walk and its image on characters -/

/-- The characters past one of the given ones, if one is at the front. -/
def pastHead (chars : List Char) : List Char → List Char
  | c :: cs => if chars.contains c then cs else c :: cs
  | [] => []

theorem pastHead_minus (cs : List Char) : pastHead ['-'] cs = dropMinus cs := by
  rw [dropMinus.eq_def]
  split
  · rfl
  · next hne =>
      cases cs with
      | nil => rfl
      | cons c cs =>
          have hc : c ≠ '-' := fun hc => hne cs (by rw [hc])
          simp [pastHead, hc]

theorem pastHead_sign (cs : List Char) : pastHead ['+', '-'] cs = (splitSign cs).2 := by
  rw [splitSign.eq_def]
  split
  · rfl
  · rfl
  · next hminus hplus =>
      cases cs with
      | nil => rfl
      | cons c cs =>
          have hc : c ≠ '-' ∧ c ≠ '+' :=
            ⟨fun hc => hminus cs (by rw [hc]), fun hc => hplus cs (by rw [hc])⟩
          simp [pastHead, hc.1, hc.2]

/-- A walk that keeps step with its image on characters: it comes to what is left, or finds that the form is
not that of a number when the image does. -/
inductive KeepsStep (text : String) : Except NumberFault Nat → Option (List Char) → Prop
  | refused : KeepsStep text (.error .form) none
  | reaches {i : Nat} {cs : List Char} (h : Reaches text i cs) : KeepsStep text (.ok i) (some cs)

theorem KeepsStep.bind {text : String} {walk : Except NumberFault Nat} {image : Option (List Char)}
    {f : Nat → Except NumberFault Nat} {g : List Char → Option (List Char)}
    (h : KeepsStep text walk image)
    (hnext : ∀ {i : Nat} {cs : List Char}, Reaches text i cs → KeepsStep text (f i) (g cs)) :
    KeepsStep text (walk >>= f) (image.bind g) := by
  cases h with
  | refused => exact .refused
  | reaches h => exact hnext h

/-- A walk that keeps step comes to the end when nothing is left of its image. -/
theorem KeepsStep.checkEnd_eq {text : String} {walk : Except NumberFault Nat}
    {image : Option (List Char)} (h : KeepsStep text walk image) :
    walk >>= checkEnd text.toByteArray = if image == some [] then .ok () else .error .form := by
  cases h with
  | refused => rfl
  | @reaches i cs h =>
      show checkEnd text.toByteArray i = _
      rw [checkEnd]
      by_cases hnil : cs = []
      · rw [if_pos (h.eq_size_iff.2 hnil), hnil]
        rfl
      · rw [if_neg (h.eq_size_iff.not.2 hnil), if_neg (by simpa using hnil)]

section Steps

variable {text : String} {i : Nat} {cs : List Char} (h : Reaches text i cs)

include h

theorem exists_pastOne {chars : List Char} (hchars : ∀ d ∈ chars, isAscii d = true) :
    ∃ j, pastOne chars text.toByteArray i = .ok j ∧ Reaches text j (pastHead chars cs) := by
  rw [pastOne, h.comesTo_eq hchars]
  cases cs with
  | nil => exact ⟨i, rfl, h⟩
  | cons c cs =>
      rw [List.head?_cons, Option.any_some, pastHead]
      cases hc : chars.contains c with
      | true => exact ⟨i + 1, rfl, h.next (hchars c (List.contains_iff_mem.1 hc))⟩
      | false => exact ⟨i, rfl, h⟩

/-- A row of digits is passed byte by byte. -/
theorem exists_digitsEnd :
    ∃ j, digitsEnd text.toByteArray i = .ok j ∧ Reaches text j (cs.dropWhile Char.isDigit) ∧
      j = i + (cs.takeWhile Char.isDigit).length := by
  have hascii : ∀ d ∈ digitChars, isAscii d = true := List.all_eq_true.1 (by decide)
  -- on what is left of the text: the walk goes on for as long as there are digits
  induction cs generalizing i with
  | nil =>
      rw [digitsEnd_eq (h.comesTo_eq hascii)]
      exact ⟨i, rfl, h, rfl⟩
  | cons c cs ih =>
      rw [digitsEnd_eq (h.comesTo_eq hascii), List.head?_cons, Option.any_some]
      by_cases hc : c.isDigit = true
      · have hmem := Pattern.isDigit_iff_mem.1 hc
        obtain ⟨j, hwalk, hreaches, hj⟩ := ih (h.next (hascii c hmem))
        rw [if_pos (List.contains_iff_mem.2 hmem), List.dropWhile_cons_of_pos hc,
          List.takeWhile_cons_of_pos hc]
        exact ⟨j, hwalk, hreaches, by rw [hj, List.length_cons]; omega⟩
      · have hmem : ¬digitChars.contains c = true := fun hmem =>
          hc (Pattern.isDigit_iff_mem.2 (List.contains_iff_mem.1 hmem))
        rw [if_neg hmem, List.dropWhile_cons_of_neg hc, List.takeWhile_cons_of_neg hc]
        exact ⟨i, rfl, h, rfl⟩

theorem keepsStep_walkDigits : KeepsStep text (walkDigits text.toByteArray i) (afterDigits? cs) := by
  obtain ⟨j, hwalk, hreaches, hj⟩ := exists_digitsEnd h
  have hmoved : i < j ↔ cs.takeWhile Char.isDigit ≠ [] := by
    rw [hj, ← List.length_pos_iff]
    omega
  simp only [walkDigits, hwalk, afterDigits?]
  show KeepsStep text (if i < j then .ok j else .error .form) _
  by_cases hdigits : cs.takeWhile Char.isDigit = []
  · rw [if_pos hdigits, if_neg fun hlt => hmoved.1 hlt hdigits]
    exact .refused
  · rw [if_neg hdigits, if_pos (hmoved.2 hdigits)]
    exact .reaches hreaches

theorem keepsStep_walkFraction :
    KeepsStep text (walkFraction text.toByteArray i) (afterFraction? cs) := by
  have hascii : ∀ d ∈ ['.'], isAscii d = true := List.all_eq_true.1 (by decide)
  rw [walkFraction, h.comesTo_eq hascii]
  cases cs with
  | nil => exact .reaches h
  | cons c cs =>
      by_cases hc : c = '.'
      · subst hc
        exact keepsStep_walkDigits (h.next (by decide))
      · rw [afterFraction?_of_head_ne (by simpa using hc), List.head?_cons, Option.any_some,
          List.contains_eq_mem, decide_eq_false (by simpa using hc)]
        exact .reaches h

theorem keepsStep_walkExponent :
    KeepsStep text (walkExponent text.toByteArray i) (afterExponent? cs) := by
  have hascii : ∀ d ∈ ['e', 'E'], isAscii d = true := List.all_eq_true.1 (by decide)
  have hsign : ∀ d ∈ ['+', '-'], isAscii d = true := List.all_eq_true.1 (by decide)
  rw [walkExponent, h.comesTo_eq hascii]
  cases cs with
  | nil => exact .reaches h
  | cons c cs =>
      have hletter : ['e', 'E'].contains c = true ↔ c = 'e' ∨ c = 'E' := by simp
      rw [List.head?_cons, Option.any_some, afterExponent?]
      by_cases hc : c = 'e' ∨ c = 'E'
      · have hnext := h.next (hascii c (List.contains_iff_mem.1 (hletter.2 hc)))
        obtain ⟨j, hwalk, hreaches⟩ := exists_pastOne hnext hsign
        rw [pastHead_sign] at hreaches
        rw [if_pos hc, hletter.2 hc]
        show KeepsStep text (pastOne ['+', '-'] text.toByteArray (i + 1) >>= walkDigits _) _
        rw [hwalk]
        exact keepsStep_walkDigits hreaches
      · rw [if_neg hc, Bool.eq_false_iff.2 (hletter.not.2 hc)]
        exact .reaches h

end Steps

/-- **The walk never reads beyond the text and finds the numbers of rule text.** -/
theorem walkNumeral_eq (text : String) :
    walkNumeral text.toByteArray = if isNumeral text.toList then .ok () else .error .form := by
  have hascii : ∀ d ∈ ['-'], isAscii d = true := List.all_eq_true.1 (by decide)
  obtain ⟨i, hminus, hreaches⟩ := exists_pastOne (Reaches.start text) hascii
  rw [pastHead_minus] at hreaches
  have hparts := ((keepsStep_walkDigits hreaches).bind keepsStep_walkFraction).bind
    keepsStep_walkExponent
  rw [isNumeral, ← hparts.checkEnd_eq, bind_assoc, bind_assoc, walkNumeral, hminus]
  rfl

/-! ### The checks of a number -/

/-- The checks of a number one after another: its form, its reading and its size. -/
def judgeNumber (text : String) : Except NumberFault Float := do
  walkNumeral text.toByteArray
  match readFloat? text.toList with
  | none => throw .unread
  | some x => if x.isFinite then return x else throw .overflow

/-- How the scanner tells what is wrong. -/
def NumberFault.reason : NumberFault → ParseError.Reason
  | beyond => .invalidNumber
  | form => .invalidNumber
  | unread => .invalidNumber
  | overflow => .numberOutOfRange

/-- The checks of a number that is no number of rule text, and of one that is. -/
theorem judgeNumber_eq (text : String) :
    (text.toList ∉ Pattern.numeral.matches' ∧ judgeNumber text = .error .form) ∨
    (text.toList ∈ Pattern.numeral.matches' ∧ ∃ x, readFloat? text.toList = some x ∧
      judgeNumber text = if x.isFinite then .ok x else .error .overflow) := by
  rw [judgeNumber, walkNumeral_eq, ← isNumeral_iff_mem]
  by_cases hform : isNumeral text.toList = true
  · refine .inr ⟨hform, ?_⟩
    have hfloat := Pattern.mem_float_of_mem_numeral (isNumeral_iff_mem.1 hform)
    obtain ⟨x, hx⟩ := Option.isSome_iff_exists.1 (isSome_readFloat?_iff_mem.2 hfloat)
    refine ⟨x, hx, ?_⟩
    rw [if_pos hform, hx]
    rfl
  · refine .inl ⟨hform, ?_⟩
    rw [if_neg hform]
    rfl

/-- **What is found wrong, and when.** -/
theorem judgeNumber_eq_error_iff {text : String} {fault : NumberFault} :
    judgeNumber text = .error fault ↔
      (fault = .form ∧ text.toList ∉ Pattern.numeral.matches') ∨
      (fault = .overflow ∧ text.toList ∈ Pattern.numeral.matches' ∧
        ∃ x, readFloat? text.toList = some x ∧ x.isFinite = false) := by
  rcases judgeNumber_eq text with ⟨hform, hjudge⟩ | ⟨hform, x, hx, hjudge⟩
  · rw [hjudge, Except.error.injEq]
    constructor
    · rintro rfl
      exact .inl ⟨rfl, hform⟩
    · rintro (⟨rfl, -⟩ | ⟨-, hmem, -⟩)
      · rfl
      · exact absurd hmem hform
  · rw [hjudge]
    constructor
    · intro h
      split at h
      · cases h
      · next hfinite =>
          cases h
          exact .inr ⟨rfl, hform, x, hx, Bool.eq_false_iff.2 hfinite⟩
    · rintro (⟨-, hno⟩ | ⟨rfl, -, y, hy, hfinite⟩)
      · exact absurd hform hno
      · obtain rfl := Option.some_inj.1 (hx.symm.trans hy)
        rw [hfinite]
        rfl

/-- The scanner makes the same checks, and tells what they find. -/
theorem readNumber_eq_judgeNumber (text : String) :
    readNumber text.toList = (judgeNumber text).mapError NumberFault.reason := by
  rcases judgeNumber_eq text with ⟨hform, hjudge⟩ | ⟨hform, x, hx, hjudge⟩
  · rw [hjudge, readNumber]
    split
    · rw [if_neg fun h => hform (isNumeral_iff_mem.1 h)]
      rfl
    · rfl
  · obtain ⟨d, hd⟩ := Pattern.mem_numeral.1 hform
    rw [readFloat?, hd.read?_eq, Option.some_inj] at hx
    subst hx
    rw [hjudge, readNumber, hd.read?_eq]
    dsimp only
    rw [if_pos (isNumeral_iff_mem.2 hform)]
    split <;> rfl

/-- **A number is refused for its form or for its size.**

The recogniser accepts the texts of the form `-?[0-9]+(\.[0-9]+)?([eE][+-]?[0-9]+)?`, and the walk over the
bytes of a text, which fails if it reads beyond them, accepts the same and never fails.  All of them are
texts of doubles, which are those that the reader of doubles accepts.  So of the checks of a number the
first finds fault with what has another form, the second with nothing, and the third with a value that is not
finite.  A token that starts like a number is what these checks make of the longest run of characters of
numbers. -/
theorem number_is_refused_for_form_or_size :
    (∀ text : String,
      (isNumeral text.toList = true ↔ text.toList ∈ Pattern.numeral.matches') ∧
      walkNumeral text.toByteArray = if isNumeral text.toList then .ok () else .error .form) ∧
    (∀ cs, (cs ∈ Pattern.numeral.matches' → cs ∈ Pattern.float.matches') ∧
      ((readFloat? cs).isSome = true ↔ cs ∈ Pattern.float.matches')) ∧
    (∀ (text : String) (fault : NumberFault), judgeNumber text = .error fault ↔
      (fault = .form ∧ text.toList ∉ Pattern.numeral.matches') ∨
      (fault = .overflow ∧ text.toList ∈ Pattern.numeral.matches' ∧
        ∃ x, readFloat? text.toList = some x ∧ x.isFinite = false)) ∧
    ∀ {n : Nat} {c : Char} {cs : List Char}, (c == '-' || c.isDigit) = true →
      let run := (c :: cs).takeWhile isNumberChar
      scanLexeme n c cs =
        match judgeNumber (String.ofList run) with
        | .ok x => .ok ⟨.number x, run, (c :: cs).dropWhile isNumberChar⟩
        | .error fault => .error ⟨n, String.ofList run, fault.reason⟩ := by
  refine ⟨fun text => ⟨isNumeral_iff_mem, walkNumeral_eq text⟩,
    fun cs => ⟨Pattern.mem_float_of_mem_numeral, isSome_readFloat?_iff_mem⟩,
    fun text fault => judgeNumber_eq_error_iff, ?_⟩
  intro n c cs hstart run
  have hread := readNumber_eq_judgeNumber (String.ofList run)
  rw [String.toList_ofList] at hread
  rw [scanLexeme_of_isNumberStart hstart, scanRun, hread]
  cases judgeNumber (String.ofList run) <;> rfl

/-- A number that goes on like a word has another form, and one of a thousand digits another size. -/
theorem mixed_and_huge_numbers_are_refused :
    scanLexeme 4 '3' "0abc > 1".toList = .error ⟨4, "30abc", .invalidNumber⟩ ∧
    scanLexeme 4 '-' "2.5e+999 ".toList = .error ⟨4, "-2.5e+999", .numberOutOfRange⟩ := by
  obtain ⟨-, -, hfault, hscan⟩ := number_is_refused_for_form_or_size
  have hmixed : judgeNumber "30abc" = .error .form :=
    (hfault _ _).2 (.inl ⟨rfl, fun h => absurd (isNumeral_iff_mem.2 h) (by decide)⟩)
  have hhuge : judgeNumber "-2.5e+999" = .error .overflow := by
    have hvalue : (readFloat? "-2.5e+999".toList).any (fun x => !x.isFinite) = true := by
      decide +kernel
    obtain ⟨x, hx, hfinite⟩ := (Option.any_eq_true _ _).1 hvalue
    exact (hfault _ _).2 (.inr ⟨rfl, isNumeral_iff_mem.1 (by decide), x, hx, by simpa using hfinite⟩)
  constructor
  · have hrun : ('3' :: "0abc > 1".toList).takeWhile isNumberChar = "30abc".toList := by
      decide +kernel
    have hstart : ('3' == '-' || '3'.isDigit) = true := by decide
    have h := @hscan 4 _ "0abc > 1".toList hstart
    simpa only [hrun, String.ofList_toList, hmixed, NumberFault.reason] using h
  · have hrun : ('-' :: "2.5e+999 ".toList).takeWhile isNumberChar = "-2.5e+999".toList := by
      decide +kernel
    have hstart : ('-' == '-' || '-'.isDigit) = true := by decide
    have h := @hscan 4 _ "2.5e+999 ".toList hstart
    simpa only [hrun, String.ofList_toList, hhuge, NumberFault.reason] using h

end Rulebook
