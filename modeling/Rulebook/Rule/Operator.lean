/-
**The operators of rules.**

A condition relates two operands; conditions are joined by connectives.  Both kinds of operator have a
text in rules and a name in JSON.

Main definitions:

* `Rulebook.Relation` — the six relations of a condition;
* `Rulebook.Connective` — conjunction and disjunction;
* `Rulebook.Relation.ofSymbol?`, `Rulebook.Connective.ofKeyword?` — reading them from rule text.

Main results:

* `Rulebook.Relation.ofSymbol?_symbol` — a relation is read from its own symbol;
* `Rulebook.Connective.ofKeyword?_keyword` — a connective is read from its own keyword.
-/

set_option autoImplicit false

namespace Rulebook

/-! ### Relations -/

/-- The relation that a condition states between its operands. -/
inductive Relation where
  | gt
  | lt
  | ge
  | le
  | eq
  | ne
  deriving DecidableEq, Repr

namespace Relation

/-- All relations. -/
def all : List Relation := [gt, lt, ge, le, eq, ne]

/-- The symbol of a relation, in rules and in JSON. -/
def symbol : Relation → String
  | gt => ">"
  | lt => "<"
  | ge => ">="
  | le => "<="
  | eq => "=="
  | ne => "!="

/-- The relation with a given symbol. -/
def ofSymbol? (s : String) : Option Relation := all.find? fun r => r.symbol == s

/-- Whether equal operands satisfy an order relation: `>=` and `<=`. -/
def isInclusive : Relation → Bool
  | ge | le => true
  | _ => false

@[simp] theorem ofSymbol?_symbol (r : Relation) : ofSymbol? r.symbol = some r := by
  cases r <;> decide

theorem mem_all (r : Relation) : r ∈ all := by cases r <;> decide

end Relation

/-! ### Connectives -/

/-- What joins two conditions. -/
inductive Connective where
  | and
  | or
  deriving DecidableEq, Repr

namespace Connective

/-- The keyword that a connective is written with. -/
def keyword : Connective → String
  | and => "AND"
  | or => "OR"

/-- The connective that a keyword or symbol of rule text stands for.  ASCII letters may have either
case. -/
def ofKeyword? (s : String) : Option Connective :=
  let lower := s.toList.map Char.toLower
  if s = "&&" ∨ lower = ['a', 'n', 'd'] then some and
  else if s = "||" ∨ lower = ['o', 'r'] then some or
  else none

/-- The truth value of the joined conditions. -/
def apply : Connective → Bool → Bool → Bool
  | and, a, b => a && b
  | or, a, b => a || b

@[simp] theorem ofKeyword?_keyword (c : Connective) : ofKeyword? c.keyword = some c := by
  cases c <;> decide

@[simp] theorem apply_and (a b : Bool) : and.apply a b = (a && b) := rfl

@[simp] theorem apply_or (a b : Bool) : or.apply a b = (a || b) := rfl

end Connective

end Rulebook
