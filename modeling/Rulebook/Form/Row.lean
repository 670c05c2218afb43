/-
**Conditions from a form.**

A form states conditions as rows of an attribute, a relation and a value.  A row becomes the text of a
rule, which is then read like any other rule.  The attribute is written as it stands, so it is checked
to be a name of rule text; a text value that looks like a number is written as that number, and any
other is quoted.

Main definitions:

* `Rulebook.Form.Row` — a row, its record and its JSON form;
* `Rulebook.Form.Row.attributeFaults` — what is wrong with the attribute of a row;
* `Rulebook.Form.Row.ruleText?` — the rule that a row states;
* `Rulebook.Form.ruleTexts?` — the rules that rows state.
-/

import Rulebook.Json.Record
import Rulebook.Rule.Expr
import Rulebook.Wire.Expr

set_option autoImplicit false

namespace Rulebook.Form

open Json (Fault Field Record Document ReadError)

/-- One condition of a form. -/
structure Row where
  /-- The attribute of the data that is compared. -/
  name : String
  relation : Relation
  /-- What it is compared with; only numbers and texts can be. -/
  value : Json

/-! ### The attribute -/

/-- What can be wrong with the attribute of a row. -/
inductive AttributeFault where
  /-- It is empty or too long. -/
  | length
  /-- A connective cannot be a name. -/
  | keyword (name : String)
  /-- It holds a character that names do not, or starts with one that names do not start with. -/
  | characters
  deriving DecidableEq, Repr

/-- The wording of a fault. -/
def AttributeFault.message : AttributeFault → String
  | length => "属性名长度必须在1-128个字符之间"
  | keyword name => "属性名不能是逻辑连接词: " ++ name
  | characters => "属性名只能包含字母、数字、下划线和点号"

/-- The greatest length of an attribute, in characters. -/
def maxAttributeLength : Nat := 128

/-- Whether a text is made like a name of rule text. -/
def isName : List Char → Bool
  | [] => false
  | c :: cs => isNameStart c && cs.all isNameChar

/-- What stands against a text as a name: it is a connective, or not made like a name. -/
def nameFault? (name : String) : Option AttributeFault :=
  if (Connective.ofKeyword? name).isSome then some (.keyword name)
  else if isName name.toList then none
  else some .characters

/-- All faults of an attribute, its length first. -/
def attributeFaults (name : String) : List AttributeFault :=
  (if 1 ≤ name.length ∧ name.length ≤ maxAttributeLength then [] else [.length]) ++
    (nameFault? name).toList

/-! ### The rule -/

/-- Whether a character can be part of the digits of a number in a form. -/
def isNumeralChar (c : Char) : Bool :=
  c.isDigit || c == '.' || c == '-' || c == '+' || c == 'e' || c == 'E'

/-- The number that a text of a form stands for: blanks at its ends aside, it is a numeral of a finite
number. -/
def numericText? (s : String) : Option Float :=
  let trimmed := trimBlank s.toList
  if trimmed ≠ [] ∧ trimmed.all isNumeralChar then (readFloat? trimmed).filter Float.isFinite
  else none

/-- The literal that a value of a form stands for: numbers and texts alone stand for one. -/
def literal? : Json → Option Scalar
  | .number n => some (.number n.toFloat)
  | .string s =>
    match numericText? s with
    | some x => some (.number x)
    | none => some (.string s)
  | _ => none

/-- A row whose value is no literal. -/
structure ValueFault where
  /-- The attribute of the row. -/
  name : String
  /-- The kind of the value. -/
  found : String
  deriving DecidableEq, Repr

/-- The wording of a fault. -/
def ValueFault.message (f : ValueFault) : String :=
  "条件 " ++ f.name ++ " 的值必须是数字或字符串，实际为 " ++ f.found

namespace Row

/-- The rule that a row states, when its value is a literal. -/
def ruleText? (row : Row) : Except ValueFault String :=
  match literal? row.value with
  | some v =>
    .ok (row.name ++ " " ++ row.relation.symbol ++ " " ++ String.ofList v.write)
  | none => .error ⟨row.name, row.value.kind⟩

/-! ### JSON -/

/-- The JSON form of a row. -/
def toJson (row : Row) : Json :=
  .object [("attribute", .string row.name), ("operator", .string row.relation.symbol),
    ("value", row.value)]

/-- What was read of a row so far. -/
structure Parts where
  name : Option String := none
  relation : Option Relation := none
  value : Option Json := none

/-- A row, given how a text, a relation and any value are read.  The value may be `null` but not
absent. -/
def record {ε α : Type} (readString : α → Except ε String) (readRelation : α → Except ε Relation)
    (readValue : α → Except ε Json) : Record ε α Parts Row where
  name := "ConditionRow"
  fields :=
    [⟨"attribute", false, fun p => p.name.isSome, fun v p => do
        return { p with name := some (← readString v) }⟩,
      ⟨"operator", false, fun p => p.relation.isSome, fun v p => do
        return { p with relation := some (← readRelation v) }⟩,
      ⟨"value", false, fun p => p.value.isSome, fun v p => do
        return { p with value := some (← readValue v) }⟩]
  start := {}
  finish p := do
    let name ← Json.required "attribute" p.name
    let relation ← Json.required "operator" p.relation
    let value ← Json.required "value" p.value
    return ⟨name, relation, value⟩

/-- The row that a value in normal form spells. -/
def ofJson? (v : Json) : Except Fault Row :=
  (record Json.readString (Json.readVariant Json.isNull Relation.wireNames) Except.ok).read
    Json.alone v

/-- The row that a text spells. -/
def ofDocument? (d : Document) : Except ReadError Row :=
  (record Document.readString (Document.readVariant Relation.wireNames) Document.readValue).read
    Json.inText d

end Row

/-- The rules that rows state.  The first whose value is no literal decides the fault. -/
def ruleTexts? (rows : List Row) : Except ValueFault (List String) := rows.mapM Row.ruleText?

end Rulebook.Form
