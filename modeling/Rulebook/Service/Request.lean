/-
**What the service is asked.**

The bodies of requests: what fields they have, how they are read off a text, and which limits their
fields keep.

Main definitions:

* `Rulebook.Service.CreateRequest`, `Rulebook.Service.CombineRequest`,
  `Rulebook.Service.EvaluateRequest`, `Rulebook.Service.EvaluateRowsRequest`,
  `Rulebook.Service.EvaluateStoredRequest` — the requests;
* `record` of each — how its body is read;
* `faults` of each — the limits that its fields break.
-/

import Rulebook.Service.Complaint
import Rulebook.Wire.Expr

set_option autoImplicit false

namespace Rulebook.Service

open Json (Fault Record Document ReadError)

/-! ### Limits -/

/-- The greatest length of a rule. -/
def maxRuleLength : Nat := 4096

/-- The greatest number of rules or conditions in a request. -/
def maxCount : Nat := 256

/-- The faults of a field, on a line of their own; no line when there is none. -/
def faultLine (field : String) (problems : List FieldProblem) : List FaultLine :=
  if problems = [] then [] else [[⟨field, problems⟩]]

/-- A problem if a limit is broken. -/
def problemIf (broken : Bool) (problem : FieldProblem) : List FieldProblem := if broken then [problem] else []

/-- The data of an evaluation must be an object. -/
def dataFaults (data : Json) : List FaultLine := faultLine "data" (problemIf (!data.isObject) .dataKind)

/-- The attribute of a row must be a name; `field` is what the attribute is called. -/
def attributeFault (field : String) (row : Form.Row) : FaultLine :=
  match Form.attributeFaults row.name with
  | [] => []
  | faults => [⟨field, faults.map .rowAttribute⟩]

/-- The limits that a row by itself breaks. -/
def rowFaultLines (row : Form.Row) : List FaultLine :=
  match attributeFault "attribute" row with
  | [] => []
  | line => [line]

/-! ### Storing a rule -/

/-- Asks for a rule to be stored. -/
structure CreateRequest where
  text : String
  deriving DecidableEq, Repr

namespace CreateRequest

/-- The body: the rule. -/
def record : Record ReadError Document (Option String) CreateRequest where
  name := "CreateRuleRequest"
  fields := [⟨"ruleString", false, Option.isSome, fun d _ => do return some (← d.readString)⟩]
  start := none
  finish p := do return ⟨← Json.required "ruleString" p⟩

/-- The rule is neither empty nor too long, counted in characters. -/
def faults (r : CreateRequest) : List FaultLine :=
  faultLine "rule_string"
    (problemIf (r.text.length < 1 || maxRuleLength < r.text.length) .ruleLength)

end CreateRequest

/-! ### Combining rules -/

/-- Asks for rules to be combined. -/
structure CombineRequest where
  rules : List String
  connective : Connective
  deriving DecidableEq, Repr

namespace CombineRequest

/-- What was read of the body so far. -/
structure Parts where
  rules : Option (List String) := none
  connective : Option Connective := none

/-- The body: the rules, and what joins them if it is not `AND`. -/
def record : Record ReadError Document Parts CombineRequest where
  name := "CombineRulesRequest"
  fields :=
    [⟨"rules", false, fun p => p.rules.isSome, fun d p => do
        return { p with rules := some (← d.readList Document.readString) }⟩,
      ⟨"operator", true, fun p => p.connective.isSome, fun d p => do
        return { p with connective := some (← d.readVariant Connective.wireNames) }⟩]
  start := {}
  finish p := do return ⟨← Json.required "rules" p.rules, p.connective.getD .and⟩

/-- Whether a rule is neither empty nor too long, counted in bytes. -/
def keepsLength (rule : String) : Bool := rule != "" && rule.utf8ByteSize ≤ maxRuleLength

/-- There are not too many rules, and each keeps its length. -/
def faults (r : CombineRequest) : List FaultLine :=
  faultLine "rules"
    (problemIf (maxCount < r.rules.length) .ruleCount ++
      problemIf (!r.rules.all keepsLength) .someRuleLength)

end CombineRequest

/-! ### Evaluating an expression -/

/-- Asks for an expression to be evaluated; without one there is nothing to hold. -/
structure EvaluateRequest where
  expr : Option Expr
  data : Json
  traced : Bool

namespace EvaluateRequest

/-- What was read of the body so far. -/
structure Parts where
  expr : Option (Option Expr) := none
  data : Option Json := none
  traced : Option Bool := none

/-- Reads an expression or `null`. -/
def readExpr : Document → Except ReadError (Option Expr)
  | .null => .ok none
  | d => (Expr.ofDocument? d).map some

/-- The body: the expression, which may be `null` but not absent, the data, and whether a trace is asked
for. -/
def record : Record ReadError Document Parts EvaluateRequest where
  name := "EvaluateRequest"
  fields :=
    [⟨"ast", false, fun p => p.expr.isSome, fun d p => do
        return { p with expr := some (← readExpr d) }⟩,
      ⟨"data", false, fun p => p.data.isSome, fun d p => do
        return { p with data := some (← d.readValue) }⟩,
      ⟨"trace", true, fun p => p.traced.isSome, fun d p => do
        return { p with traced := some (← d.readBool) }⟩]
  start := {}
  finish p := do
    let expr ← Json.required "ast" p.expr
    let data ← Json.required "data" p.data
    return ⟨expr, data, p.traced.getD false⟩

/-- The data is an object. -/
def faults (r : EvaluateRequest) : List FaultLine := dataFaults r.data

end EvaluateRequest

/-! ### Evaluating conditions of a form -/

/-- Asks for conditions of a form to be evaluated. -/
structure EvaluateRowsRequest where
  rows : List Form.Row
  data : Json

namespace EvaluateRowsRequest

/-- What was read of the body so far. -/
structure Parts where
  rows : Option (List Form.Row) := none
  data : Option Json := none

/-- The body: the conditions and the data. -/
def record : Record ReadError Document Parts EvaluateRowsRequest where
  name := "EvaluateConditionsRequest"
  fields :=
    [⟨"conditions", false, fun p => p.rows.isSome, fun d p => do
        return { p with rows := some (← d.readList Form.Row.ofDocument?) }⟩,
      ⟨"data", false, fun p => p.data.isSome, fun d p => do
        return { p with data := some (← d.readValue) }⟩]
  start := {}
  finish p := do
    let rows ← Json.required "conditions" p.rows
    return ⟨rows, ← Json.required "data" p.data⟩

/-- The faults of the rows from the `n`-th on. -/
def rowFaults (n : Nat) : List Form.Row → FaultLine
  | [] => []
  | row :: rest =>
    attributeFault ("conditions[" ++ toString n ++ "].attribute") row ++ rowFaults (n + 1) rest

/-- There are conditions but not too many, and their attributes are names; the latter is not looked at
unless the former holds.  The data is an object. -/
def faults (r : EvaluateRowsRequest) : List FaultLine :=
  let ofRows :=
    if 1 ≤ r.rows.length ∧ r.rows.length ≤ maxCount then
      match rowFaults 0 r.rows with
      | [] => []
      | line => [line]
    else faultLine "conditions" [.rowCount]
  ofRows ++ dataFaults r.data

end EvaluateRowsRequest

/-! ### Evaluating a stored rule -/

/-- Asks for a stored rule to be evaluated. -/
structure EvaluateStoredRequest where
  data : Json
  traced : Bool

namespace EvaluateStoredRequest

/-- What was read of the body so far. -/
structure Parts where
  data : Option Json := none
  traced : Option Bool := none

/-- The body: the data, and whether a trace is asked for. -/
def record : Record ReadError Document Parts EvaluateStoredRequest where
  name := "EvaluateStoredRuleRequest"
  fields :=
    [⟨"data", false, fun p => p.data.isSome, fun d p => do
        return { p with data := some (← d.readValue) }⟩,
      ⟨"trace", true, fun p => p.traced.isSome, fun d p => do
        return { p with traced := some (← d.readBool) }⟩]
  start := {}
  finish p := do return ⟨← Json.required "data" p.data, p.traced.getD false⟩

/-- The data is an object. -/
def faults (r : EvaluateStoredRequest) : List FaultLine := dataFaults r.data

end EvaluateStoredRequest

end Rulebook.Service
