/-
**The character classes of rule text.**

Rule text is Unicode: names may be written in any script, and any white space separates.  This
module fixes which characters are blank, which may start a name and which may go on with it.

Main definitions:

* `Rulebook.isBlank`, `Rulebook.isAlphabetic`, `Rulebook.isAlphanumeric` — the Unicode classes;
* `Rulebook.isNameStart`, `Rulebook.isNameChar` — the characters of a name;
* `Rulebook.trimBlank` — a text without the blanks at its ends.

Main results:

* `Rulebook.isBlank_of_isWhitespace` — the blanks include all that ASCII calls white space.
-/

import Rulebook.Text.Alphabetic
import Rulebook.Text.Numeric

set_option autoImplicit false

namespace Rulebook

/-! ### Classes -/

/-- The characters with the Unicode property `White_Space`. -/
def CharSet.whiteSpace : CharSet :=
  ⟨[(0x9, 0xD), (0x20, 0x20), (0x85, 0x85), (0xA0, 0xA0), (0x1680, 0x1680), (0x2000, 0x200A),
    (0x2028, 0x2029), (0x202F, 0x202F), (0x205F, 0x205F), (0x3000, 0x3000)]⟩

/-- Whether a character separates: Unicode white space. -/
def isBlank (c : Char) : Bool := CharSet.whiteSpace.contains c

/-- Whether a character is a letter in the wide sense of Unicode's `Alphabetic`. -/
def isAlphabetic (c : Char) : Bool := CharSet.alphabetic.contains c

/-- Whether a character is alphabetic or a number character of any script. -/
def isAlphanumeric (c : Char) : Bool := isAlphabetic c || CharSet.numeric.contains c

/-- A name starts with a letter of any script or an underscore. -/
def isNameStart (c : Char) : Bool := isAlphabetic c || c == '_'

/-- A name goes on with letters, numbers, underscores and dots. -/
def isNameChar (c : Char) : Bool := isAlphanumeric c || c == '_' || c == '.'

/-- Every ASCII white space character is blank. -/
theorem isBlank_of_isWhitespace {c : Char} (h : c.isWhitespace = true) : isBlank c = true := by
  simp only [Char.isWhitespace, Bool.or_eq_true, decide_eq_true_eq] at h
  rcases h with ((h | h) | h) | h <;> subst h <;> decide

/-- What starts a name also goes on with it. -/
theorem isNameChar_of_isNameStart {c : Char} (h : isNameStart c = true) : isNameChar c = true := by
  simp only [isNameStart, Bool.or_eq_true] at h
  rcases h with h | h <;> simp [isNameChar, isAlphanumeric, h]

/-! ### Blanks at the ends -/

/-- The text without the blanks at its ends. -/
def trimBlank (cs : List Char) : List Char :=
  ((cs.dropWhile isBlank).reverse.dropWhile isBlank).reverse

@[simp] theorem trimBlank_nil : trimBlank [] = [] := rfl

end Rulebook
