/-
**Rule expressions.**

A rule is an expression: conditions that compare an attribute of the data with a literal, joined by
connectives.  The type admits more shapes than rule text can produce, since expressions also arrive
as JSON; which shapes are well formed is the subject of `Rulebook.Rule.Shape`.

Main definitions:

* `Rulebook.Scalar`, `Rulebook.Expr` — literals and expressions;
* `Rulebook.Expr.render` — the text of an expression, with brackets round a joined right operand;
* `Rulebook.Expr.attributes` — the attributes an expression mentions, sorted;
* `Rulebook.Expr.depth`, `Rulebook.Expr.comparisonCount` — its size.

Main results:

* `Rulebook.Expr.mem_attributes` — the listed attributes are those mentioned.
-/

import Rulebook.Decimal.Layout
import Rulebook.Rule.Operator

set_option autoImplicit false

namespace Rulebook

/-! ### Literals -/

/-- The value of a literal: a number or a text. -/
inductive Scalar where
  | number (x : Float)
  | string (s : String)
  deriving BEq

namespace Scalar

/-- A character inside the quotes of a literal. -/
def escape (c : Char) : List Char :=
  match c with
  | '"' => ['\\', '"']
  | '\\' => ['\\', '\\']
  | '\n' => ['\\', 'n']
  | '\t' => ['\\', 't']
  | c => [c]

/-- A text in double quotes. -/
def quote (cs : List Char) : List Char := '"' :: cs.flatMap escape ++ ['"']

/-- A literal as rules write it: numbers in positional digits, texts in double quotes. -/
def write : Scalar → List Char
  | number x => (decimalText x).toList
  | string s => quote s.toList

end Scalar

/-! ### Expressions -/

/-- A node of a rule expression. -/
inductive Expr where
  /-- A reference to an attribute of the data, with the value that stands in when the data lacks
  it. -/
  | reference (name : String) (default : Option Scalar)
  /-- A literal value. -/
  | literal (value : Scalar)
  /-- A condition: a relation between two operands. -/
  | comparison (relation : Relation) (left right : Expr)
  /-- Two expressions joined. -/
  | logical (connective : Connective) (left right : Expr)
  deriving BEq

namespace Expr

/-- The kind of a node, as JSON and messages name it. -/
def kind : Expr → String
  | reference _ _ => "Identifier"
  | literal _ => "Literal"
  | comparison _ _ _ => "BinaryExpression"
  | logical _ _ _ => "LogicalExpression"

/-- Whether a node joins two expressions. -/
def isLogical : Expr → Bool
  | logical _ _ _ => true
  | _ => false

/-- Whether a node is a condition or joins expressions, so that it has a truth value of its own. -/
def isFormula : Expr → Bool
  | comparison _ _ _ => true
  | logical _ _ _ => true
  | _ => false

/-! ### Text -/

/-- The text of an expression.  Joining goes from left to right, so an expression that is joined on the
right is set in brackets; a default has no text. -/
def write : Expr → List Char
  | reference name _ => name.toList
  | literal value => value.write
  | comparison r left right =>
    left.write ++ ' ' :: r.symbol.toList ++ ' ' :: right.write
  | logical c left right =>
    left.write ++ ' ' :: c.keyword.toList ++ ' ' ::
      (if right.isLogical then '(' :: right.write ++ [')'] else right.write)

/-- The text of an expression, as a string. -/
def render (e : Expr) : String := String.ofList e.write

/-! ### Attributes -/

/-- Puts a name into a sorted list of names, unless it is there. -/
def insertName (name : String) : List String → List String
  | [] => [name]
  | n :: rest =>
    if name < n then name :: n :: rest
    else if name = n then n :: rest
    else n :: insertName name rest

/-- The attributes that an expression mentions, in order and with repetitions. -/
def mentions : Expr → List String
  | reference name _ => [name]
  | literal _ => []
  | comparison _ left right => left.mentions ++ right.mentions
  | logical _ left right => left.mentions ++ right.mentions

/-- The attributes that an expression mentions, sorted and each once. -/
def attributes (e : Expr) : List String := e.mentions.foldl (fun names n => insertName n names) []

theorem mem_insertName {a name : String} {names : List String} :
    a ∈ insertName name names ↔ a = name ∨ a ∈ names := by
  induction names with
  | nil => simp [insertName]
  | cons n rest ih =>
    simp only [insertName]
    split
    · simp
    · split
      · next h => subst h; simp
      · simp [ih, or_left_comm]

theorem mem_foldl_insertName {a : String} {mentioned names : List String} :
    a ∈ mentioned.foldl (fun names n => insertName n names) names ↔ a ∈ mentioned ∨ a ∈ names := by
  induction mentioned generalizing names with
  | nil => simp
  | cons m rest ih => simp [ih, mem_insertName, or_left_comm, or_assoc]

/-- The listed attributes are those that are mentioned. -/
@[simp] theorem mem_attributes {a : String} {e : Expr} : a ∈ e.attributes ↔ a ∈ e.mentions := by
  simp [attributes, mem_foldl_insertName]

/-! ### Size -/

/-- The number of nodes on the longest way down from the root. -/
def depth : Expr → Nat
  | reference _ _ => 1
  | literal _ => 1
  | comparison _ left right => 1 + max left.depth right.depth
  | logical _ left right => 1 + max left.depth right.depth

/-- The number of conditions that are joined; what lies inside a condition does not count. -/
def comparisonCount : Expr → Nat
  | reference _ _ => 0
  | literal _ => 0
  | comparison _ _ _ => 1
  | logical _ left right => left.comparisonCount + right.comparisonCount

end Expr

end Rulebook
