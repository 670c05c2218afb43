/-
**Expressions as JSON.**

A node is an object that tells its kind under `type` and holds its parts under names of their own.  The
reader is more lenient than the writer: a node may be an array of its kind and its parts, an operand of
a condition may leave its kind to be guessed from its members, and connectives have several names.

Main definitions:

* `Rulebook.Expr.toJson` — the JSON form of an expression;
* `Rulebook.Expr.ofJson?` — the expression that a value in normal form spells;
* `Rulebook.Expr.ofDocument?` — the expression that a text spells;
* `Rulebook.Condition.ofJson?` — a condition on its own, without its kind.
-/

import Rulebook.Json.Record
import Rulebook.Rule.Expr

set_option autoImplicit false

namespace Rulebook

open Json (Fault Field Record Source Document ReadError)

/-! ### Writing -/

/-- The JSON form of a literal: numbers are always doubles. -/
def Scalar.toJson : Scalar → Json
  | number x => .number (.double x)
  | string s => .string s

/-- The JSON form of an expression.  A default that is not there is not written. -/
def Expr.toJson : Expr → Json
  | reference name none => .object [("type", .string "Identifier"), ("name", .string name)]
  | reference name (some d) =>
    .object [("type", .string "Identifier"), ("name", .string name), ("default", d.toJson)]
  | literal value => .object [("type", .string "Literal"), ("value", value.toJson)]
  | comparison r left right =>
    .object [("type", .string "BinaryExpression"), ("operator", .string r.symbol),
      ("left", left.toJson), ("right", right.toJson)]
  | logical c left right =>
    .object [("type", .string "LogicalExpression"), ("operator", .string c.keyword),
      ("left", left.toJson), ("right", right.toJson)]

/-! ### Names -/

/-- The names of relations. -/
def Relation.wireNames : List (String × Relation) := Relation.all.map fun r => (r.symbol, r)

/-- The names of connectives. -/
def Connective.wireNames : List (String × Connective) :=
  [("&&", .and), ("AND", .and), ("and", .and), ("OR", .or), ("or", .or), ("||", .or)]

namespace Expr

/-- The kinds of nodes. -/
inductive Kind where
  | reference
  | literal
  | comparison
  | logical
  deriving DecidableEq, Repr

/-- The names of kinds. -/
def Kind.wireNames : List (String × Kind) :=
  [("Identifier", .reference), ("Literal", .literal), ("BinaryExpression", .comparison),
    ("LogicalExpression", .logical)]

/-- What messages expect where a node should be. -/
def nodeExpectation : String := "internally tagged enum ExpressionNode"

/-! ### Parts of nodes -/

/-- Where the value at hand comes from. -/
inductive Setting where
  /-- It stands on its own. -/
  | alone
  /-- It was set aside as part of a node whose kind had to be found first. -/
  | buffered
  deriving DecidableEq, Repr

namespace Setting

/-- The source of values of a setting. -/
def source : Setting → Source Fault Json
  | alone => Json.alone
  | buffered => Json.buffered

/-- What counts as nothing in a setting. -/
def isNothing : Setting → Json → Bool
  | alone => Json.isNull
  | buffered => Json.isNullOrEmpty

end Setting

/-- Reads the value of a literal. -/
def readScalar : Json → Except Fault Scalar
  | .number n => .ok (.number n.toFloat)
  | .string s => .ok (.string s)
  | _ => .error .noScalar

/-- Reads a default; `null` is no default. -/
def readDefault : Json → Except Fault (Option Scalar)
  | .null => .ok none
  | v => (readScalar v).map some

/-- What was read of a reference so far. -/
structure ReferenceParts where
  name : Option String := none
  default : Option (Option Scalar) := none

/-- A reference: a name, and a default that may be absent. -/
def referenceRecord : Record Fault Json ReferenceParts Expr where
  name := "AttributeReference"
  fields :=
    [⟨"name", false, fun p => p.name.isSome, fun v p => do
        return { p with name := some (← Json.readString v) }⟩,
      ⟨"default", true, fun p => p.default.isSome, fun v p => do
        return { p with default := some (← readDefault v) }⟩]
  start := {}
  finish p := do
    return .reference (← Json.required "name" p.name) (p.default.getD none)

/-- A literal: its value. -/
def literalRecord : Record Fault Json (Option Scalar) Expr where
  name := "Literal"
  fields := [⟨"value", false, Option.isSome, fun v _ => do return some (← readScalar v)⟩]
  start := none
  finish p := do return .literal (← Json.required "value" p)

/-- What was read so far of a node with an operator and two children. -/
structure BranchParts (τ : Type) where
  operator : Option τ := none
  left : Option Expr := none
  right : Option Expr := none

/-- A node with an operator and two children. -/
def branchRecord {τ : Type} (name : String) (readOperator : Json → Except Fault τ)
    (readChild : Json → Except Fault Expr) (make : τ → Expr → Expr → Expr) :
    Record Fault Json (BranchParts τ) Expr where
  name := name
  fields :=
    [⟨"operator", false, fun p => p.operator.isSome, fun v p => do
        return { p with operator := some (← readOperator v) }⟩,
      ⟨"left", false, fun p => p.left.isSome, fun v p => do
        return { p with left := some (← readChild v) }⟩,
      ⟨"right", false, fun p => p.right.isSome, fun v p => do
        return { p with right := some (← readChild v) }⟩]
  start := {}
  finish p := do
    let operator ← Json.required "operator" p.operator
    let left ← Json.required "left" p.left
    let right ← Json.required "right" p.right
    return make operator left right

/-- A condition, given how its operands are read. -/
def comparisonRecord (setting : Setting) (readOperand : Json → Except Fault Expr) :
    Record Fault Json (BranchParts Relation) Expr :=
  branchRecord "BinaryComparison" (Json.readVariant setting.isNothing Relation.wireNames)
    readOperand .comparison

/-- Joined expressions, given how they are read. -/
def logicalRecord (readNode : Json → Except Fault Expr) :
    Record Fault Json (BranchParts Connective) Expr :=
  branchRecord "LogicalCombination" (Json.readVariant Json.isNullOrEmpty Connective.wireNames)
    readNode .logical

/-! ### Nodes -/

/-- Reads the kind of a node.  In a value that was set aside, a number may stand for a name. -/
def readKind (setting : Setting) : Json → Except Fault Kind
  | .string s =>
    match Kind.wireNames.lookup s with
    | some k => .ok k
    | none => .error (.unknownVariant s (Kind.wireNames.map Prod.fst))
  | .number (.integer n) =>
    if setting = .buffered ∧ 0 ≤ n then
      match Kind.wireNames[n.toNat]? with
      | some (_, k) => .ok k
      | none => .error (.unknownIndex n.toNat Kind.wireNames.length)
    else .error (.wrongType (Json.number (.integer n)).describe Json.variantExpectation)
  | v => .error (.wrongType v.describe Json.variantExpectation)

/-- Finds the kind of a node among its members, and sets the other members aside. -/
def splitKind (setting : Setting) (kind : Option Kind) :
    List (String × Json) → Except Fault (Kind × List (String × Json))
  | [] =>
    match kind with
    | some k => .ok (k, [])
    | none => .error (.missingField "type")
  | (key, v) :: rest =>
    if key = "type" then
      match kind with
      | some _ => .error (.duplicateField "type")
      | none =>
        match readKind setting v with
        | .ok k => splitKind setting (some k) rest
        | .error e => .error e
    else
      match splitKind setting kind rest with
      | .ok (k, others) => .ok (k, (key, v) :: others)
      | .error e => .error e

/-- Reads the parts of a node of a known kind, given how operands and nodes among them are read. -/
def readParts (readOperand readNode : Json → Except Fault Expr) (k : Kind)
    (parts : Json.Contents Fault Json) : Except Fault Expr :=
  match k with
  | .reference => referenceRecord.readContents Json.buffered parts
  | .literal => literalRecord.readContents Json.buffered parts
  | .comparison => (comparisonRecord .buffered readOperand).readContents Json.buffered parts
  | .logical => (logicalRecord readNode).readContents Json.buffered parts

mutual

/-- Reads a node.  `fuel` bounds the nesting of nodes. -/
def readNode (fuel : Nat) (setting : Setting) (v : Json) : Except Fault Expr :=
  match fuel with
  | 0 => .error (.missingField "type")
  | fuel + 1 =>
    match v with
    | .object members => do
      let (k, others) ← splitKind setting none members
      readParts (readOperand fuel) (readNode fuel .buffered) k (.members others (.ok ()))
    | .array [] => .error (.missingField "type")
    | .array (t :: items) => do
      let k ← readKind setting t
      readParts (readOperand fuel) (readNode fuel .buffered) k (.items items (.ok ()))
    | v => .error (.wrongType v.describe nodeExpectation)

/-- Reads an operand of a condition.  It must be an object; if it does not tell its kind, a name makes
it a reference and a value makes it a literal.  Of members given twice the last counts. -/
def readOperand (fuel : Nat) (v : Json) : Except Fault Expr :=
  match fuel with
  | 0 => .error .noOperand
  | fuel + 1 =>
    let v := v.normalize
    if (v.get? "type").isSome then readNode fuel .alone v
    else if (v.get? "name").isSome then referenceRecord.read Json.alone v
    else if (v.get? "value").isSome then literalRecord.read Json.alone v
    else .error .noOperand

end

/-- Nesting of nodes is bounded by the nesting of the value: an operand takes one level of it. -/
def fuelFor (v : Json) : Nat := 2 * v.depth + 2

/-- The expression that a value in normal form spells. -/
def ofJson? (v : Json) : Except Fault Expr := readNode (fuelFor v) .alone v

/-- The condition that a value in normal form spells without telling its kind. -/
def conditionOfJson? (v : Json) : Except Fault Expr :=
  (comparisonRecord .alone (readOperand (fuelFor v))).read Json.alone v

/-! ### Nodes in a text -/

/-- Reads the kind of a node in a text. -/
def readKindInText : Document → Except ReadError Kind
  | .string s =>
    match readKind .alone (.string s) with
    | .ok k => .ok k
    | .error f => .error (.misfit [] f)
  | d => .error (d.unexpected Json.variantExpectation)

/-- Finds the kind of a node among its members, and sets the other members aside.  The kind is judged
where it stands, before the text behind it is read. -/
def splitKindInText (kind : Option Kind) :
    List (Option String × Document) → Except ReadError (Option Kind × List (String × Json))
  | [] => .ok (kind, [])
  | (none, _) :: _ => .error .notJson
  | (some key, d) :: rest =>
    if key = "type" then
      match kind with
      | some _ => .error (.misfit [] (.duplicateField "type"))
      | none =>
        match readKindInText d with
        | .ok k => splitKindInText (some k) rest
        | .error e => .error (e.under (.key key))
    else
      match d.toJson? with
      | none => .error .notJson
      | some v =>
        match splitKindInText kind rest with
        | .ok (k, others) => .ok (k, (key, v) :: others)
        | .error e => .error e

/-- Reads the parts of a node once its text was read. -/
def readPartsInText (k : Kind) (parts : Json.Contents Fault Json) (fuel : Nat) :
    Except ReadError Expr :=
  match readParts (readOperand fuel) (readNode fuel .buffered) k parts with
  | .ok e => .ok e
  | .error f => .error (.misfit [] f)

/-- The expression that a text spells.  Its parts are judged only after it was read to its end. -/
def ofDocument? : Document → Except ReadError Expr
  | .object members closed => do
    let (kind, others) ← splitKindInText none members
    Json.ending closed
    match kind with
    | none => .error (.misfit [] (.missingField "type"))
    | some k => readPartsInText k (.members others (.ok ())) (fuelFor (.object others))
  | .array [] closed => do
    Json.ending closed
    .error (.misfit [] (.missingField "type"))
  | .array (t :: items) closed => do
    let k ← match readKindInText t with
      | .ok k => .ok k
      | .error e => .error (e.under (.index 0))
    match Document.itemsToJson? items with
    | none => .error .notJson
    | some values =>
      Json.ending closed
      readPartsInText k (.items values (.ok ())) (fuelFor (.array values))
  | .strayKey _ => .error .notJson
  | d => .error (d.unexpected nodeExpectation)

end Expr

end Rulebook
