/-
**What a service refuses.**

A request that cannot be read, or whose fields break a limit, is refused with a complaint.  Each
complaint is a cause, worded once, here.

Main definitions:

* `Rulebook.Service.FieldProblem`, `Rulebook.Service.FieldFault` — what is wrong with a field;
* `Rulebook.Service.Complaint` — why a request is refused;
* `Rulebook.Service.Complaint.message` — its wording.
-/

import Rulebook.Form.Row
import Rulebook.Json.Fault
import Rulebook.Rule.Error

set_option autoImplicit false

namespace Rulebook.Service

/-! ### Fields -/

/-- What can be wrong with a field of a request. -/
inductive FieldProblem where
  /-- A rule that is empty or too long. -/
  | ruleLength
  /-- Too many rules at once. -/
  | ruleCount
  /-- Among several rules, one that is empty or too long. -/
  | someRuleLength
  /-- Data that is no object. -/
  | dataKind
  /-- No conditions or too many. -/
  | rowCount
  /-- An attribute that is no name. -/
  | rowAttribute (fault : Form.AttributeFault)
  deriving DecidableEq, Repr

/-- The wording of a problem. -/
def FieldProblem.message : FieldProblem → String
  | ruleLength => "规则长度必须在1-4096个字符之间"
  | ruleCount => "一次最多组合 256 条规则"
  | someRuleLength => "每条规则长度必须在1-4096个字符之间"
  | dataKind => "data 必须是 JSON 对象"
  | rowCount => "条件数量必须在1-256之间"
  | rowAttribute fault => fault.message

/-- A field with all its problems. -/
structure FieldFault where
  field : String
  problems : List FieldProblem
  deriving DecidableEq, Repr

/-- The field and its problems in words. -/
def FieldFault.text (f : FieldFault) : String :=
  f.field ++ ": " ++ ", ".intercalate (f.problems.map FieldProblem.message)

/-- Faults that are told on one line, with nothing between them. -/
abbrev FaultLine := List FieldFault

/-- The lines of faults, those of different fields apart. -/
def faultText (lines : List FaultLine) : String :=
  "\n".intercalate (lines.map fun line => String.join (line.map FieldFault.text))

/-! ### Complaints -/

/-- Why a request is refused. -/
inductive Complaint where
  /-- The body is not said to be JSON. -/
  | contentType
  /-- The body is too long. -/
  | bodySize
  /-- The body is not JSON. -/
  | notJson
  /-- The body is JSON of another shape. -/
  | misfit (place : List Json.Step) (fault : Json.Fault)
  /-- The identifier in the path is no text. -/
  | idEncoding
  /-- The text in the path is no identifier. -/
  | idText (text : String)
  /-- Fields break limits. -/
  | fields (lines : List FaultLine)
  /-- The expression has a shape that no rule has. -/
  | shape (error : EvaluationError)
  /-- A condition has a value that is no literal. -/
  | rowValue (fault : Form.ValueFault)
  /-- Anything else, in words. -/
  | note (text : String)
  deriving DecidableEq, Repr

/-- The name of the part of a path that holds an identifier. -/
def idName : String := "id"

/-- The wording of a complaint. -/
def Complaint.message : Complaint → String
  | contentType => "Expected request with `Content-Type: application/json`"
  | bodySize => "Failed to buffer the request body: length limit exceeded"
  | notJson => "Failed to parse the request body as JSON"
  | misfit place fault =>
    "Failed to deserialize the JSON body into the target type: " ++
      (if place = [] then "" else Json.placeText place ++ ": ") ++ fault.message
  | idEncoding => "Invalid URL: Invalid UTF-8 in " ++ Json.ticked idName
  | idText text =>
    "Invalid URL: Cannot parse " ++ Json.ticked idName ++ " with value " ++ Json.ticked text
  | fields lines => faultText lines
  | shape error => "表达式树结构非法: " ++ error.message
  | rowValue fault => fault.message
  | note text => text

/-- A body that cannot be read, as a complaint. -/
def Complaint.ofReadError : Json.ReadError → Complaint
  | .notJson => notJson
  | .misfit place fault => misfit place fault

end Rulebook.Service
