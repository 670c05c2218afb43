/-
**Percent coding.**

In the path of a request a byte may be written as a percent sign with two hexadecimal digits.  Decoding
gives bytes, which are a text only if they are UTF-8.

Main definitions:

* `Rulebook.Http.percentBytes` — the bytes that a row of bytes stands for;
* `Rulebook.Http.percentDecode?` — the text that a text stands for.

Main results:

* `Rulebook.Http.percentBytes_of_notMem` — without a percent sign nothing is decoded.
-/

import Rulebook.Json.Reader

set_option autoImplicit false

namespace Rulebook.Http

/-- The byte of the percent sign. -/
def percentSign : UInt8 := 0x25

/-- The value of a byte that is a hexadecimal digit. -/
def hexByte? (b : UInt8) : Option Nat := Json.hexDigit? (Char.ofNat b.toNat)

/-- The bytes that a row of bytes stands for.  A percent sign without two digits behind it stands for
itself. -/
def percentBytes : List UInt8 → List UInt8
  | b :: hi :: lo :: after =>
    if b = percentSign then
      match hexByte? hi, hexByte? lo with
      | some h, some l => UInt8.ofNat (16 * h + l) :: percentBytes after
      | _, _ => b :: percentBytes (hi :: lo :: after)
    else b :: percentBytes (hi :: lo :: after)
  | bs => bs

/-- The text that a text stands for, unless its bytes are no text. -/
def percentDecode? (s : String) : Option String :=
  String.fromUTF8? ⟨(percentBytes s.toUTF8.toList).toArray⟩

theorem percentBytes_of_notMem {bs : List UInt8} (h : percentSign ∉ bs) : percentBytes bs = bs := by
  fun_induction percentBytes bs with
  | case1 => simp at h
  | case2 => simp at h
  | case3 b hi lo after hb ih => rw [ih fun hm => h (List.mem_cons_of_mem b hm)]
  | case4 => rfl

end Rulebook.Http
