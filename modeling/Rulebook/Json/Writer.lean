/-
**Writing JSON text.**

Every value has one text: no white space, members in their order, strings with the escapes that JSON
demands and no others.

Main definitions:

* `Rulebook.Json.writeOnto` — the text of a value, put before a text that follows it;
* `Rulebook.Json.text` — the text of a value.
-/

import Rulebook.Decimal.Layout
import Rulebook.Json.Basic

set_option autoImplicit false

namespace Rulebook.Json

/-- The hexadecimal digits of a number, in lower case. -/
def hexDigits (n : Nat) : List Char := Nat.toDigits 16 n

/-- A character inside the quotes of a string. -/
def escape (c : Char) : List Char :=
  match c with
  | '"' => ['\\', '"']
  | '\\' => ['\\', '\\']
  | '\n' => ['\\', 'n']
  | '\r' => ['\\', 'r']
  | '\t' => ['\\', 't']
  | '\x08' => ['\\', 'b']
  | '\x0C' => ['\\', 'f']
  | c =>
    if c.toNat < 0x20 then
      '\\' :: 'u' :: '0' :: '0' :: (if c.toNat < 0x10 then ['0'] else []) ++ hexDigits c.toNat
    else [c]

/-- A string in quotes, before the text that follows it. -/
def writeString (s : String) (rest : List Char) : List Char :=
  '"' :: s.toList.foldr (fun c cs => escape c ++ cs) ('"' :: rest)

/-- The text of a number.  A double that is not finite has none and is written as `null`. -/
def Number.text : Number → String
  | .integer n => toString n
  | .double x => if x.isFinite then pointedText x else "null"

mutual

/-- The text of a value, before the text that follows it. -/
def writeOnto : Json → List Char → List Char
  | .null, rest => "null".toList ++ rest
  | .bool true, rest => "true".toList ++ rest
  | .bool false, rest => "false".toList ++ rest
  | .number n, rest => n.text.toList ++ rest
  | .string s, rest => writeString s rest
  | .array [], rest => '[' :: ']' :: rest
  | .array (v :: items), rest => '[' :: writeOnto v (writeItems items (']' :: rest))
  | .object [], rest => '{' :: '}' :: rest
  | .object ((key, v) :: members), rest =>
    '{' :: writeString key (':' :: writeOnto v (writeMembers members ('}' :: rest)))

/-- The further items of an array, each after a comma. -/
def writeItems : List Json → List Char → List Char
  | [], rest => rest
  | v :: items, rest => ',' :: writeOnto v (writeItems items rest)

/-- The further members of an object, each after a comma. -/
def writeMembers : List (String × Json) → List Char → List Char
  | [], rest => rest
  | (key, v) :: members, rest =>
    ',' :: writeString key (':' :: writeOnto v (writeMembers members rest))

end

/-- The text of a value. -/
def text (v : Json) : String := String.ofList (writeOnto v [])

end Rulebook.Json
