/-
**Reading a settings file.**

A file is a row of lines: headers, members and blanks, each with a comment if need be.  It is first
read as statements, from which the tables are then built.

Main definitions:

* `Rulebook.Toml.Statement` — a header or a member;
* `Rulebook.Toml.statements?` — the statements of a text;
* `Rulebook.Toml.parse?` — the settings of a text.
-/

import Rulebook.Toml.Literal
import Rulebook.Toml.Tree

set_option autoImplicit false

namespace Rulebook.Toml

/-! ### Blanks and keys -/

/-- A text without the blanks at its front. -/
def skipSpace (cs : List Char) : List Char := cs.dropWhile isSpace

/-- What follows the rest of a line that holds nothing but blanks and a comment. -/
def endLine? (cs : List Char) : Option (List Char) :=
  let rest := match skipSpace cs with
    | '#' :: comment => comment.dropWhile isPlain
    | cs => cs
  match rest with
  | [] => some []
  | '\n' :: after => some after
  | '\r' :: '\n' :: after => some after
  | _ => none

/-- A text without the blanks, comments and line ends at its front.  `fuel` goes down by one at every
line. -/
def skipBlank (fuel : Nat) (cs : List Char) : List Char :=
  match fuel with
  | 0 => cs
  | fuel + 1 =>
    match skipSpace cs with
    | '#' :: comment => skipBlank fuel (comment.dropWhile isPlain)
    | '\n' :: rest => skipBlank fuel rest
    | '\r' :: '\n' :: rest => skipBlank fuel rest
    | cs => cs

/-- Whether a character may stand in a key without quotes. -/
def isBareChar (c : Char) : Bool := c.isAlphanum || c == '_' || c == '-'

/-- A key without dots. -/
def simpleKey? (cs : List Char) : Option (String × List Char) :=
  match cs with
  | '"' :: rest => (basicText? (rest.length + 1) rest).map fun t => (String.ofList t.1, t.2)
  | '\x27' :: rest => (literalText? rest).map fun t => (String.ofList t.1, t.2)
  | cs =>
    let key := cs.takeWhile isBareChar
    if key = [] then none else some (String.ofList key, cs.dropWhile isBareChar)

/-- A key, whose parts are separated by dots.  `fuel` goes down by one at every part. -/
def key? (fuel : Nat) (cs : List Char) : Option (List String × List Char) :=
  match fuel with
  | 0 => none
  | fuel + 1 => do
    let (key, rest) ← simpleKey? (skipSpace cs)
    match skipSpace rest with
    | '.' :: rest => do
      let (path, rest) ← key? fuel rest
      return (key :: path, rest)
    | rest => return ([key], rest)

/-! ### Values -/

/-- Whether a character belongs to a word: a number or a truth value. -/
def isWordChar (c : Char) : Bool := c.isAlphanum || c == '_' || c == '+' || c == '-' || c == '.'

/-- The value that a word spells. -/
def word? (word : List Char) : Option Setting :=
  if word = "true".toList then some (.bool true)
  else if word = "false".toList then some (.bool false)
  else number? word

mutual

/-- The value at the front of a text, and what follows it.  `fuel` goes down by one at every value and
every item. -/
def value? (fuel : Nat) (cs : List Char) : Option (Setting × List Char) :=
  match fuel with
  | 0 => none
  | fuel + 1 =>
    let asText (t : List Char × List Char) : Setting × List Char := (.text (String.ofList t.1), t.2)
    match cs with
    | '"' :: '"' :: '"' :: rest =>
      let rest := skipNewline rest
      (longBasicText? (rest.length + 1) rest).map asText
    | '"' :: rest => (basicText? (rest.length + 1) rest).map asText
    | '\x27' :: '\x27' :: '\x27' :: rest =>
      let rest := skipNewline rest
      (longLiteralText? (rest.length + 1) rest).map asText
    | '\x27' :: rest => (literalText? rest).map asText
    | '[' :: rest => (items? fuel rest).map fun t => (.list t.1, t.2)
    | '{' :: rest =>
      match skipSpace rest with
      | '}' :: rest => some (.table [], rest)
      | rest => (inlineMembers? fuel [] rest).map fun t => (.table (membersToSettings t.1), t.2)
    | cs => (word? (cs.takeWhile isWordChar)).map fun v => (v, cs.dropWhile isWordChar)

/-- The items of a list up to its closing bracket; a comma may follow the last. -/
def items? (fuel : Nat) (cs : List Char) : Option (List Setting × List Char) :=
  match fuel with
  | 0 => none
  | fuel + 1 =>
    match skipBlank (cs.length + 1) cs with
    | ']' :: rest => some ([], rest)
    | cs =>
      match value? fuel cs with
      | none => none
      | some (v, rest) =>
        match skipBlank (rest.length + 1) rest with
        | ',' :: rest => (items? fuel rest).map fun t => (v :: t.1, t.2)
        | ']' :: rest => some ([v], rest)
        | _ => none

/-- The members of a table in braces, after those that were read before. -/
def inlineMembers? (fuel : Nat) (before : Members) (cs : List Char) : Option (Members × List Char) :=
  match fuel with
  | 0 => none
  | fuel + 1 =>
    match key? (cs.length + 1) cs with
    | some (path, '=' :: rest) =>
      match value? fuel (skipSpace rest) with
      | none => none
      | some (v, rest) =>
        match insert? v path before with
        | none => none
        | some ms =>
          match skipSpace rest with
          | ',' :: rest => inlineMembers? fuel ms rest
          | '}' :: rest => some (ms, rest)
          | _ => none
    | _ => none

end

/-! ### Statements -/

/-- A statement of a file. -/
inductive Statement where
  /-- Opens a table. -/
  | table (path : List String)
  /-- Opens one more item of a list of tables. -/
  | item (path : List String)
  /-- Gives a member of the open table. -/
  | member (path : List String) (v : Setting)

/-- The statement at the front of a text, and the text after its line. -/
def statement? (cs : List Char) : Option (Statement × List Char) :=
  match cs with
  | '[' :: '[' :: rest => do
    match ← key? (rest.length + 1) rest with
    | (path, ']' :: ']' :: rest) => return (.item path, ← endLine? rest)
    | _ => none
  | '[' :: rest => do
    match ← key? (rest.length + 1) rest with
    | (path, ']' :: rest) => return (.table path, ← endLine? rest)
    | _ => none
  | cs => do
    match ← key? (cs.length + 1) cs with
    | (path, '=' :: rest) => do
      let (v, rest) ← value? (2 * rest.length + 1) (skipSpace rest)
      return (.member path v, ← endLine? rest)
    | _ => none

/-- The statements of a text.  `fuel` goes down by one at every statement. -/
def statements? (fuel : Nat) (cs : List Char) : Option (List Statement) :=
  match fuel with
  | 0 => none
  | fuel + 1 =>
    match skipBlank (cs.length + 1) cs with
    | [] => some []
    | cs => do
      let (s, rest) ← statement? cs
      let others ← statements? fuel rest
      return s :: others

/-! ### Tables -/

/-- Carries out a statement, given the path of the open table. -/
def execute? (state : List String × Members) : Statement → Option (List String × Members)
  | .table path => (openTable? path state.2).map fun ms => (path, ms)
  | .item path => (openItem? path state.2).map fun ms => (path, ms)
  | .member path v => (within? (insert? v path) state.1 state.2).map fun ms => (state.1, ms)

/-- The settings of a text, unless it is malformed. -/
def parse? (text : String) : Option (List (String × Setting)) := do
  let cs := text.toList
  let statements ← statements? (cs.length + 1) cs
  let (_, ms) ← statements.foldlM execute? ([], [])
  return membersToSettings ms

end Rulebook.Toml
