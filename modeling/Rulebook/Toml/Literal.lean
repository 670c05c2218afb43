/-
**Numbers and texts of a settings file.**

Numbers are decimal, or whole numbers to base sixteen, eight or two; underscores may stand between
digits.  Texts stand in double quotes, with escapes, or in single quotes, without; three quotes let a
text go over several lines.

Main definitions:

* `Rulebook.Toml.number?` — the number that a word spells;
* `Rulebook.Toml.basicText?`, `Rulebook.Toml.literalText?` — the text after its opening quote;
* `Rulebook.Toml.longBasicText?`, `Rulebook.Toml.longLiteralText?` — the same for three quotes.
-/

import Rulebook.Decimal.Numeral
import Rulebook.Json.Reader
import Rulebook.Toml.Setting

set_option autoImplicit false

namespace Rulebook.Toml

/-! ### Numbers -/

/-- Digits with the underscores between them left out; each underscore must have digits on both
sides. -/
def joinDigits? (isDigit : Char → Bool) (cs : List Char) : Option (List Char) :=
  let groups := cs.splitOn '_'
  if groups.all fun g => !g.isEmpty && g.all isDigit then some groups.flatten else none

/-- The digits of a whole decimal number, which starts with a zero only if it is zero. -/
def decimalDigits? (cs : List Char) : Option (List Char) :=
  (joinDigits? Char.isDigit cs).filter fun ds => ds.head? != some '0' || ds.length == 1

/-- Whether a number fits 64 bits with a sign. -/
def fitsSigned (n : Int) : Bool := -(Nat.pow 2 63 : Int) ≤ n && n < Nat.pow 2 63

/-- The number that digits spell to a base. -/
def natOfBase? (base : Nat) (cs : List Char) : Option Nat := do
  let ds ← joinDigits? (fun c => (Json.hexDigit? c).any (· < base)) cs
  return ds.foldl (fun n d => base * n + (Json.hexDigit? d).getD 0) 0

/-- The whole number that a word spells. -/
def integer? (cs : List Char) : Option Int :=
  let value := match cs with
    | '0' :: 'x' :: ds => (natOfBase? 16 ds).map Int.ofNat
    | '0' :: 'o' :: ds => (natOfBase? 8 ds).map Int.ofNat
    | '0' :: 'b' :: ds => (natOfBase? 2 ds).map Int.ofNat
    | cs =>
      let (negative, body) := splitSign cs
      (decimalDigits? body).map fun ds =>
        if negative then -(natOfDigits ds : Int) else natOfDigits ds
  value.filter fitsSigned

/-- Whether a character belongs to a row of digits. -/
def isDigitOrBar (c : Char) : Bool := c.isDigit || c == '_'

/-- The digits after a point, if there is one. -/
def fraction? : List Char → Option (List Char × List Char)
  | '.' :: cs =>
    (joinDigits? Char.isDigit (cs.takeWhile isDigitOrBar)).map fun ds => (ds, cs.dropWhile isDigitOrBar)
  | cs => some ([], cs)

/-- The exponent at the end of a number, if there is one. -/
def exponent? : List Char → Option Int
  | [] => some 0
  | c :: cs =>
    if c = 'e' ∨ c = 'E' then
      let (negative, body) := splitSign cs
      (joinDigits? Char.isDigit body).map fun ds =>
        if negative then -(natOfDigits ds : Int) else natOfDigits ds
    else none

/-- The number with a fraction or an exponent that a word spells, or one of the words for infinity and
not-a-number. -/
def float? (cs : List Char) : Option Float :=
  let (negative, body) := splitSign cs
  if body = "inf".toList then some (if negative then -1 / 0 else 1 / 0)
  else if body = "nan".toList then some (0 / 0)
  else do
    let whole ← decimalDigits? (body.takeWhile isDigitOrBar)
    let (fraction, rest) ← fraction? (body.dropWhile isDigitOrBar)
    let exponent ← exponent? rest
    let d : Decimal := ⟨negative, natOfDigits (whole ++ fraction), exponent - fraction.length⟩
    if d.toFloat.isFinite then some d.toFloat else none

/-- The number that a word spells. -/
def number? (cs : List Char) : Option Setting :=
  match integer? cs with
  | some n => some (.integer n)
  | none => (float? cs).map .float

/-! ### Texts -/

/-- Whether a character may stand in a text or comment as it is. -/
def isPlain (c : Char) : Bool := c == '\t' || (0x20 ≤ c.toNat && c.toNat ≠ 0x7F)

/-- The character with a given code, if there is one. -/
def charOfCode? (n : Nat) : Option Char :=
  if h : n.isValidChar then some (Char.ofNatAux n h) else none

/-- The character that hexadecimal digits name. -/
def charOfDigits? (ds : List Char) : Option Char :=
  (ds.foldlM (fun n d => (Json.hexDigit? d).map (16 * n + ·)) 0).bind charOfCode?

/-- The character that follows a backslash in its short form. -/
def shortEscape? : Char → Option Char
  | 'b' => some '\x08'
  | 't' => some '\t'
  | 'n' => some '\n'
  | 'f' => some '\x0C'
  | 'r' => some '\r'
  | '"' => some '"'
  | '\\' => some '\\'
  | _ => none

/-- The escape that follows a backslash, and what comes after it. -/
def escape? : List Char → Option (Char × List Char)
  | 'u' :: cs =>
    if cs.length < 4 then none else (charOfDigits? (cs.take 4)).map fun c => (c, cs.drop 4)
  | 'U' :: cs =>
    if cs.length < 8 then none else (charOfDigits? (cs.take 8)).map fun c => (c, cs.drop 8)
  | e :: cs => (shortEscape? e).map fun c => (c, cs)
  | [] => none

/-- The text up to a double quote, and what comes after it.  `fuel` goes down by one at every character
and every escape. -/
def basicText? (fuel : Nat) (cs : List Char) : Option (List Char × List Char) :=
  match fuel with
  | 0 => none
  | fuel + 1 =>
    match cs with
    | '"' :: rest => some ([], rest)
    | '\\' :: rest => do
      let (c, rest) ← escape? rest
      let (text, rest) ← basicText? fuel rest
      return (c :: text, rest)
    | c :: rest =>
      if isPlain c then (basicText? fuel rest).map fun t => (c :: t.1, t.2) else none
    | [] => none

/-- The text up to a single quote, and what comes after it. -/
def literalText? : List Char → Option (List Char × List Char)
  | '\x27' :: rest => some ([], rest)
  | c :: rest => if isPlain c then (literalText? rest).map fun t => (c :: t.1, t.2) else none
  | [] => none

/-- A text without the line end at its front. -/
def skipNewline : List Char → List Char
  | '\n' :: cs => cs
  | '\r' :: '\n' :: cs => cs
  | cs => cs

/-- Whether a character is blank in a settings file, line ends apart. -/
def isSpace (c : Char) : Bool := c == ' ' || c == '\t'

/-- A text without the blanks and line ends at its front. -/
def skipLines (cs : List Char) : List Char :=
  cs.dropWhile fun c => isSpace c || c == '\n' || c == '\r'

/-- What follows a backslash at the end of a line: the next line that is not blank. -/
def afterLineBreak? (cs : List Char) : Option (List Char) :=
  match cs.dropWhile isSpace with
  | '\n' :: rest => some (skipLines rest)
  | '\r' :: '\n' :: rest => some (skipLines rest)
  | _ => none

/-- Three quotes end a text over several lines; up to two more before them belong to it.  The quotes
that belong to the text, and what comes after the end. -/
def closeLong? (quote : Char) (cs : List Char) : Option (List Char × List Char) :=
  let n := (cs.takeWhile (· == quote)).length
  if 3 ≤ n ∧ n ≤ 5 then some (List.replicate (n - 3) quote, cs.drop n) else none

/-- The text up to three double quotes, and what comes after them.  `fuel` goes down by one at every
character and every escape. -/
def longBasicText? (fuel : Nat) (cs : List Char) : Option (List Char × List Char) :=
  match fuel with
  | 0 => none
  | fuel + 1 =>
    match closeLong? '"' cs with
    | some closed => some closed
    | none =>
      match cs with
      | '\\' :: rest =>
        match afterLineBreak? rest with
        | some rest => longBasicText? fuel rest
        | none => do
          let (c, rest) ← escape? rest
          let (text, rest) ← longBasicText? fuel rest
          return (c :: text, rest)
      | '\r' :: '\n' :: rest => (longBasicText? fuel rest).map fun t => ('\n' :: t.1, t.2)
      | c :: rest =>
        if isPlain c ∨ c = '\n' then (longBasicText? fuel rest).map fun t => (c :: t.1, t.2) else none
      | [] => none

/-- The text up to three single quotes, and what comes after them.  `fuel` goes down by one at every
character. -/
def longLiteralText? (fuel : Nat) (cs : List Char) : Option (List Char × List Char) :=
  match fuel with
  | 0 => none
  | fuel + 1 =>
    match closeLong? '\x27' cs with
    | some closed => some closed
    | none =>
      match cs with
      | '\r' :: '\n' :: rest => (longLiteralText? fuel rest).map fun t => ('\n' :: t.1, t.2)
      | c :: rest =>
        if isPlain c ∨ c = '\n' then (longLiteralText? fuel rest).map fun t => (c :: t.1, t.2)
        else none
      | [] => none

end Rulebook.Toml
