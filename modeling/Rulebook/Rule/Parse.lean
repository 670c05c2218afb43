/-
**Reading rules.**

A rule is a row of conditions joined by connectives; a condition is an operand, a relation and a value.
Connectives bind from left to right and none binds tighter than another: `a AND b OR c` is
`(a AND b) OR c`.  The text is cut into tokens as a whole before the first condition is read, so what
is no token is reported before what is no condition.

Main definitions:

* `Rulebook.condition` — the condition at the front of a row of tokens;
* `Rulebook.chain` — the conditions joined to an expression;
* `Rulebook.parse` — the expression of a rule.

Main results:

* `Rulebook.condition_rest_length` — a condition takes at least one token.
-/

import Rulebook.Rule.Token

set_option autoImplicit false

namespace Rulebook

/-! ### What tokens stand for -/

namespace Token.Kind

/-- The left operand that a token stands for. -/
def operand? : Token.Kind → Option Expr
  | word name => some (.reference name none)
  | number x => some (.literal (.number x))
  | quoted s => some (.literal (.string s))
  | _ => none

/-- The relation that a token stands for. -/
def relation? : Token.Kind → Option Relation
  | relation r => some r
  | _ => none

/-- The value that a token stands for: on the right of a relation a bare word is a text. -/
def value? : Token.Kind → Option Scalar
  | number x => some (.number x)
  | quoted s => some (.string s)
  | word s => some (.string s)
  | _ => none

/-- The connective that a token stands for. -/
def connective? : Token.Kind → Option Connective
  | connective c => some c
  | _ => none

end Token.Kind

/-! ### Conditions -/

/-- Takes the first token for what `pick?` sees in it.  `wrong` is the reason when it sees nothing,
`missing` the reason when there is no token; `length` is where the text ends. -/
def expect {α : Type} (length : Nat) (pick? : Token.Kind → Option α)
    (wrong missing : ParseError.Reason) : List Token → Except ParseError (α × List Token)
  | [] => .error ⟨length, "", missing⟩
  | t :: ts =>
    match pick? t.kind with
    | some a => .ok (a, ts)
    | none => .error ⟨t.position, t.text, wrong⟩

/-- The condition at the front of a row of tokens, and what follows it.  `missing` is the reason when
there is no token at all. -/
def condition (length : Nat) (missing : ParseError.Reason) (ts : List Token) :
    Except ParseError (Expr × List Token) := do
  let (left, ts) ← expect length Token.Kind.operand? .expectedOperand missing ts
  let (r, ts) ← expect length Token.Kind.relation? .expectedRelation .missingRelation ts
  let (right, ts) ← expect length Token.Kind.value? .expectedValue .missingValue ts
  return (.comparison r left (.literal right), ts)

theorem expect_rest_length {α : Type} {length : Nat} {pick? : Token.Kind → Option α}
    {wrong missing : ParseError.Reason} {ts rest : List Token} {a : α}
    (h : expect length pick? wrong missing ts = .ok (a, rest)) : rest.length < ts.length := by
  cases ts with
  | nil => cases h
  | cons t ts =>
    simp only [expect] at h
    split at h
    · cases h; simp
    · cases h

/-- A condition takes at least one token. -/
theorem condition_rest_length {length : Nat} {missing : ParseError.Reason} {ts rest : List Token}
    {e : Expr} (h : condition length missing ts = .ok (e, rest)) : rest.length < ts.length := by
  simp only [condition, bind, Except.bind] at h
  split at h
  · cases h
  · next x hx =>
    split at h
    · cases h
    · next y hy =>
      split at h
      · cases h
      · next z hz =>
        cases h
        have := expect_rest_length hx
        have := expect_rest_length hy
        have := expect_rest_length hz
        omega

/-! ### Rules -/

/-- Joins the conditions of a row of tokens to an expression, from left to right. -/
def chain (length : Nat) (e : Expr) (ts : List Token) : Except ParseError Expr :=
  match ts with
  | [] => .ok e
  | t :: ts =>
    match t.kind.connective? with
    | none => .error ⟨t.position, t.text, .expectedConnective⟩
    | some c =>
      match h : condition length .danglingConnective ts with
      | .error error => .error error
      | .ok (right, rest) =>
        have := condition_rest_length h
        chain length (.logical c e right) rest
termination_by ts.length

/-- The expression of a row of tokens that makes up a rule. -/
def parseTokens (length : Nat) (ts : List Token) : Except ParseError Expr := do
  let (e, ts) ← condition length .emptyRule ts
  chain length e ts

/-- The expression of a rule. -/
def parse (rule : String) : Except ParseError Expr := do
  let ts ← tokenize 0 rule.toList
  parseTokens rule.utf8ByteSize ts

end Rulebook
