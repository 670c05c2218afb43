/-
**What can go wrong with a rule.**

A rule may fail to be read, and an expression may fail to be evaluated.  Each failure is a cause; its
wording is given once, here.

Main definitions:

* `Rulebook.ParseError` — where and why a text is no rule;
* `Rulebook.EvaluationError` — why an expression has no verdict;
* `Rulebook.RuleError` — either of them, or data that is not JSON.
-/

import Rulebook.Rule.Path

set_option autoImplicit false

namespace Rulebook

/-! ### Reading a rule -/

/-- Why a text is no rule. -/
inductive ParseError.Reason where
  /-- A bracket, which rules do not have. -/
  | grouping
  /-- A character that starts no token. -/
  | unknownCharacter
  | invalidNumber
  | numberOutOfRange
  | unclosedString
  | unknownEscape
  | unknownRelation
  | unknownConnective
  /-- A condition starts with something that is no operand. -/
  | expectedOperand
  | emptyRule
  /-- The text ends after a connective. -/
  | danglingConnective
  | expectedRelation
  | missingRelation
  | expectedValue
  | missingValue
  /-- A condition is followed by something that is no connective. -/
  | expectedConnective
  deriving DecidableEq, Repr

/-- The wording of a reason. -/
def ParseError.Reason.text : ParseError.Reason → String
  | grouping => "不支持括号分组"
  | unknownCharacter => "无法识别的字符"
  | invalidNumber => "无效的数值"
  | numberOutOfRange => "数值超出范围"
  | unclosedString => "字符串缺少结束引号"
  | unknownEscape => "未知的转义序列"
  | unknownRelation => "未知的比较操作符"
  | unknownConnective => "未知的逻辑连接词"
  | expectedOperand => "期望属性名或字面量"
  | emptyRule => "规则不能为空"
  | danglingConnective => "逻辑连接词后缺少条件"
  | expectedRelation => "期望比较操作符"
  | missingRelation => "缺少比较操作符"
  | expectedValue => "期望比较值"
  | missingValue => "缺少比较值"
  | expectedConnective => "期望逻辑连接词 AND / OR"

/-- Where and why a text is no rule. -/
structure ParseError where
  /-- The place, counted in bytes. -/
  position : Nat
  /-- The piece of the text that is at fault; empty at the end of the text. -/
  token : String
  /-- What is wrong with it. -/
  reason : ParseError.Reason
  deriving DecidableEq, Repr

/-- What is told of a text that is no rule. -/
structure ParseReport where
  /-- The place, counted in bytes. -/
  position : Nat
  /-- The piece of the text that is at fault. -/
  token : String
  /-- What is wrong with it, in words. -/
  reason : String
  deriving DecidableEq, Repr

/-- The report of an error. -/
def ParseError.report (e : ParseError) : ParseReport := ⟨e.position, e.token, e.reason.text⟩

/-- A report in one sentence. -/
def ParseReport.message (r : ParseReport) : String :=
  "规则解析失败: 位置 " ++ toString r.position ++ " 处的 '" ++ r.token ++ "': " ++ r.reason

/-! ### Evaluating an expression -/

/-- Why an expression has no verdict. -/
inductive EvaluationError where
  /-- A relation between values of kinds that it does not relate. -/
  | typeMismatch (operator left right : String)
  /-- An attribute that the data lacks. -/
  | missingAttribute (name : String)
  /-- A node of a kind that has no place where it stands. -/
  | unsupportedOperand (path : Path) (found : String)
  deriving DecidableEq, Repr

/-- The wording of an evaluation error. -/
def EvaluationError.message : EvaluationError → String
  | typeMismatch operator left right =>
    "类型不匹配: " ++ operator ++ " 无法比较 " ++ left ++ " 与 " ++ right
  | missingAttribute name => "字段不存在: " ++ name
  | unsupportedOperand path found => "不支持的操作数: " ++ path.render ++ " 处为 " ++ found

/-! ### Either -/

/-- Anything that can go wrong with a rule. -/
inductive RuleError where
  /-- The text is no rule. -/
  | malformed (report : ParseReport)
  /-- The expression has no verdict. -/
  | evaluation (error : EvaluationError)
  /-- The data is not JSON, for the reason given. -/
  | data (reason : String)
  deriving DecidableEq, Repr

namespace RuleError

/-- The wording of an error. -/
def message : RuleError → String
  | malformed report => report.message
  | evaluation error => error.message
  | data reason => "JSON 序列化错误: " ++ reason

/-- Whether the rule could not be read, which is the fault of whoever wrote it. -/
def isParseError : RuleError → Bool
  | malformed _ => true
  | _ => false

end RuleError

end Rulebook
