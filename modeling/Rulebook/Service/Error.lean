/-
**How the service fails.**

A request fails because of what it says, because of what is stored, because an evaluation has no
verdict, or because something beneath the service failed.  Every failure has a status, a code and a
body; what failed beneath the service is not told to whoever asked.

Main definitions:

* `Rulebook.Service.Error` — the failures;
* `Rulebook.Service.Error.status`, `Rulebook.Service.Error.code`, `Rulebook.Service.Error.message`;
* `Rulebook.Service.Error.toJson` — the body of the answer;
* `Rulebook.Service.Error.ofRuleError`, `Rulebook.Service.Error.ofFailure` — failures of other layers.
-/

import Rulebook.Json.Basic
import Rulebook.Service.Complaint
import Rulebook.Store.Failure

set_option autoImplicit false

namespace Rulebook.Service

/-- Why a request fails. -/
inductive Error where
  /-- A rule of the request is no rule. -/
  | malformedRule (report : ParseReport)
  /-- The request is refused. -/
  | refused (complaint : Complaint)
  /-- No rule is stored under the identifier. -/
  | ruleNotFound (id : String)
  /-- The evaluation has no verdict. -/
  | evaluation (error : RuleError)
  /-- The database did not answer. -/
  | database (fault : DatabaseFault)
  /-- Anything else beneath the service failed. -/
  | internal (reason : String)
  deriving DecidableEq, Repr

namespace Error

/-- The status of the answer. -/
def status : Error → Nat
  | malformedRule _ => 400
  | refused _ => 400
  | ruleNotFound _ => 404
  | evaluation _ => 422
  | database _ => 500
  | internal _ => 500

/-- The code of the answer. -/
def code : Error → String
  | malformedRule _ => "RULE_PARSE_ERROR"
  | refused _ => "VALIDATION_ERROR"
  | ruleNotFound _ => "RULE_NOT_FOUND"
  | evaluation _ => "EVALUATION_ERROR"
  | database _ => "DATABASE_ERROR"
  | internal _ => "INTERNAL_ERROR"

/-- The whole wording, for those who run the service. -/
def message : Error → String
  | malformedRule report => report.message
  | refused complaint => "参数验证失败: " ++ complaint.message
  | ruleNotFound id => "规则不存在: " ++ id
  | evaluation error => "规则评估失败: " ++ error.message
  | database fault => "数据库错误: " ++ fault.message
  | internal reason => "内部错误: " ++ reason

/-- What is told when something beneath the service failed. -/
def hiddenMessage : String := "服务内部错误，请稍后重试"

/-- The wording for whoever asked. -/
def publicMessage : Error → String
  | database _ => hiddenMessage
  | internal _ => hiddenMessage
  | e => e.message

/-- What the answer holds besides: the place of the error in a rule. -/
def details : Error → Json
  | malformedRule report =>
    .object [("position", .number (.integer report.position)), ("token", .string report.token),
      ("reason", .string report.reason)]
  | _ => .null

/-- The body of the answer. -/
def toJson (e : Error) : Json :=
  .object [("success", .bool false), ("code", .string e.code), ("message", .string e.publicMessage),
    ("data", e.details)]

/-- A failure of a rule, as one of the service. -/
def ofRuleError : RuleError → Error
  | .malformed report => malformedRule report
  | e => evaluation e

/-- A failure beneath the service, as one of the service. -/
def ofFailure : Failure → Error
  | .database fault => database fault
  | f => internal ("[" ++ f.code ++ "] " ++ f.message)

end Error

end Rulebook.Service
