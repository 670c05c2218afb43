/-
**Texts quoted for a reader.**

A message that repeats a piece of input puts it in double quotes and spells out what could not be seen
or would run into its surroundings.

Main definitions:

* `Rulebook.spellOut` — a character as a quotation shows it;
* `Rulebook.quoted` — a text in double quotes.
-/

import Rulebook.Text.Printable

set_option autoImplicit false

namespace Rulebook

/-- A character as a quotation shows it: quotes, backslashes and the usual control characters are
escaped, what leaves no mark of its own is given by its code point. -/
def spellOut (c : Char) : List Char :=
  match c with
  | '\x00' => ['\\', '0']
  | '\t' => ['\\', 't']
  | '\n' => ['\\', 'n']
  | '\r' => ['\\', 'r']
  | '"' => ['\\', '"']
  | '\\' => ['\\', '\\']
  | c =>
    if CharSet.graphemeExtend.contains c || CharSet.unprintable.contains c then
      ['\\', 'u', '\x7b'] ++ Nat.toDigits 16 c.toNat ++ ['\x7d']
    else [c]

/-- A text in double quotes. -/
def quoted (s : String) : String :=
  String.ofList ('"' :: s.toList.flatMap spellOut ++ ['"'])

end Rulebook
