/-
**Reading JSON text.**

The reader turns a text into a `Document`: it stops where the text stops being JSON, and leaves it to
whoever wants the value to find out.  Arrays and objects nested deeper than a limit are read but
marked as unreadable.

Main definitions:

* `Rulebook.Json.Document.scan` — the value at the front of a text, and what follows it;
* `Rulebook.Json.Document.ofText` — the value of a whole text, and whether anything follows it;
* `Rulebook.Json.parse?` — the value of a text that is one JSON value, in normal form.
-/

import Rulebook.Json.Number
import Rulebook.Json.Document

set_option autoImplicit false

namespace Rulebook.Json

/-! ### Leaves -/

/-- The white space of JSON. -/
def isSpace (c : Char) : Bool := c == ' ' || c == '\n' || c == '\t' || c == '\r'

/-- A text without the white space at its front. -/
def skipSpace (cs : List Char) : List Char := cs.dropWhile isSpace

/-- The value of a hexadecimal digit. -/
def hexDigit? (c : Char) : Option Nat :=
  if '0' ≤ c ∧ c ≤ '9' then some (c.toNat - '0'.toNat)
  else if 'a' ≤ c ∧ c ≤ 'f' then some (c.toNat - 'a'.toNat + 10)
  else if 'A' ≤ c ∧ c ≤ 'F' then some (c.toNat - 'A'.toNat + 10)
  else none

/-- The number that four hexadecimal digits spell. -/
def hexWord? (a b c d : Char) : Option Nat := do
  let a ← hexDigit? a
  let b ← hexDigit? b
  let c ← hexDigit? c
  let d ← hexDigit? d
  return 4096 * a + 256 * b + 16 * c + d

/-- The character that follows a backslash in its short form. -/
def unescape? : Char → Option Char
  | '"' => some '"'
  | '\\' => some '\\'
  | '/' => some '/'
  | 'b' => some '\x08'
  | 'f' => some '\x0C'
  | 'n' => some '\n'
  | 'r' => some '\r'
  | 't' => some '\t'
  | _ => none

/-- Whether a UTF-16 code is the first half of a surrogate pair. -/
def isHighSurrogate (code : Nat) : Bool := 0xD800 ≤ code && code < 0xDC00

/-- Whether a UTF-16 code is the second half of a surrogate pair. -/
def isLowSurrogate (code : Nat) : Bool := 0xDC00 ≤ code && code < 0xE000

/-- The part of a string that was read so far. -/
structure Spelling where
  /-- Its characters, last first; `none` once half a surrogate pair stood alone. -/
  text : Option (List Char)
  /-- The first half of a surrogate pair, when it came last. -/
  high : Option Nat

namespace Spelling

/-- Nothing read so far. -/
def start : Spelling := ⟨some [], none⟩

/-- The text when nothing completes a pair that has begun. -/
def settled (s : Spelling) : Option (List Char) := if s.high.isSome then none else s.text

/-- One more character. -/
def push (s : Spelling) (c : Char) : Spelling := ⟨s.settled.map (c :: ·), none⟩

/-- One more UTF-16 code. -/
def pushCode (s : Spelling) (code : Nat) : Spelling :=
  if isHighSurrogate code then ⟨s.settled, some code⟩
  else if isLowSurrogate code then
    match s.high with
    | some high =>
      ⟨s.text.map (Char.ofNat (0x10000 + (high - 0xD800) * 0x400 + (code - 0xDC00)) :: ·), none⟩
    | none => ⟨none, none⟩
  else s.push (Char.ofNat code)

end Spelling

/-- The string whose opening quote has been read: its text, unless that holds half a surrogate pair,
and what follows the closing quote.  `none` when the text breaks off or holds a bare control
character or an unknown escape. -/
def scanString (s : Spelling) : List Char → Option (Option String × List Char)
  | [] => none
  | c :: cs =>
    if c = '"' then some (s.settled.map fun t => String.ofList t.reverse, cs)
    else if c = '\\' then
      match cs with
      | 'u' :: a :: b :: c :: d :: cs =>
        match hexWord? a b c d with
        | some code => scanString (s.pushCode code) cs
        | none => none
      | e :: cs =>
        match unescape? e with
        | some c => scanString (s.push c) cs
        | none => none
      | [] => none
    else if c.toNat < 0x20 then none
    else scanString (s.push c) cs

/-- The rest of a text that goes on with the given word. -/
def afterWord? : List Char → List Char → Option (List Char)
  | [], cs => some cs
  | _ :: _, [] => none
  | w :: ws, c :: cs => if w = c then afterWord? ws cs else none

/-! ### Values -/

namespace Document

/-- The document of an array or object: unreadable when it lies beyond the nesting limit. -/
def within (depth : Nat) (d : Document) : Document :=
  if depth = 0 then if d.isWhole then .unreadable else .broken else d

mutual

/-- The value at the front of a text, and what follows it.  `depth` is the number of levels that may
still be opened.  `fuel` goes down by one at every value and every item; since each of them takes a
character, twice the length of the text and one more is enough. -/
def scan (fuel depth : Nat) (cs : List Char) : Document × List Char :=
  match fuel with
  | 0 => (.broken, [])
  | fuel + 1 =>
    match skipSpace cs with
    | '{' :: cs =>
      match skipSpace cs with
      | '}' :: cs => (within depth (.object [] true), cs)
      | '"' :: cs =>
        let (members, closed, cs) := scanMembers fuel (depth - 1) [] ('"' :: cs)
        (within depth (.object members closed), cs)
      | cs => (within depth (.strayKey (scan fuel (depth - 1) cs).1), [])
    | '[' :: cs =>
      match skipSpace cs with
      | ']' :: cs => (within depth (.array [] true), cs)
      | cs =>
        let (items, closed, cs) := scanItems fuel (depth - 1) [] cs
        (within depth (.array items closed), cs)
    | '"' :: cs =>
      match scanString .start cs with
      | some (some s, cs) => (.string s, cs)
      | some (none, cs) => (.unreadable, cs)
      | none => (.broken, [])
    | cs =>
      match afterWord? "null".toList cs with
      | some cs => (.null, cs)
      | none =>
      match afterWord? "true".toList cs with
      | some cs => (.bool true, cs)
      | none =>
      match afterWord? "false".toList cs with
      | some cs => (.bool false, cs)
      | none =>
      match Numeral.scan? cs with
      | some (l, cs) =>
        match l.value? with
        | some n => (.number n, cs)
        | none => (.unreadable, cs)
      | none => (.broken, [])

/-- The items of an array after those in `before`, last first: all of them, whether the closing
bracket was reached, and what follows it. -/
def scanItems (fuel depth : Nat) (before : List Document) (cs : List Char) :
    List Document × Bool × List Char :=
  match fuel with
  | 0 => (before.reverse, false, [])
  | fuel + 1 =>
    let (d, cs) := scan fuel depth cs
    let items := d :: before
    if d.isWhole then
      match skipSpace cs with
      | ']' :: cs => (items.reverse, true, cs)
      | ',' :: cs =>
        match skipSpace cs with
        | ']' :: _ => (items.reverse, false, [])
        | cs => scanItems fuel depth items cs
      | _ => (items.reverse, false, [])
    else (items.reverse, false, [])

/-- The members of an object after those in `before`, last first: all of them, whether the closing
brace was reached, and what follows it.  A key without a colon has a broken value. -/
def scanMembers (fuel depth : Nat) (before : List (Option String × Document)) (cs : List Char) :
    List (Option String × Document) × Bool × List Char :=
  match fuel with
  | 0 => (before.reverse, false, [])
  | fuel + 1 =>
    match cs with
    | '"' :: cs =>
      match scanString .start cs with
      | some (key, cs) =>
        match skipSpace cs with
        | ':' :: cs =>
          let (d, cs) := scan fuel depth cs
          let members := (key, d) :: before
          if d.isWhole then
            match skipSpace cs with
            | '}' :: cs => (members.reverse, true, cs)
            | ',' :: cs => scanMembers fuel depth members (skipSpace cs)
            | _ => (members.reverse, false, [])
          else (members.reverse, false, [])
        | _ => (((key, .broken) :: before).reverse, false, [])
      | none => (before.reverse, false, [])
    | _ => (before.reverse, false, [])

end

theorem scan_zero (depth : Nat) (cs : List Char) : scan 0 depth cs = (.broken, []) := by rw [scan]

theorem scanItems_zero (depth : Nat) (before : List Document) (cs : List Char) :
    scanItems 0 depth before cs = (before.reverse, false, []) := by rw [scanItems]

theorem scanMembers_zero (depth : Nat) (before : List (Option String × Document)) (cs : List Char) :
    scanMembers 0 depth before cs = (before.reverse, false, []) := by rw [scanMembers]

/-- How deep the arrays and objects of a text may be nested. -/
def maxDepth : Nat := 127

/-- The value at the front of a text, and whether nothing but white space follows it. -/
def ofText (s : String) : Document × Bool :=
  let cs := s.toList
  let (d, rest) := scan (2 * cs.length + 1) maxDepth cs
  (d, (skipSpace rest).isEmpty)

end Document

/-- The value of a text that is one JSON value, in normal form. -/
def parse? (s : String) : Option Json :=
  let (d, ended) := Document.ofText s
  if ended then d.toJson?.map normalize else none

end Rulebook.Json
