/-
**Failures beneath the service.**

What the service stands on can fail: its settings, its database, its logging and measuring.  Such a
failure has a code and a wording of its own.

Main definitions:

* `Rulebook.DatabaseFault` — why a database did not answer;
* `Rulebook.Failure` — what failed;
* `Rulebook.Failure.code`, `Rulebook.Failure.message` — how it is told.
-/

set_option autoImplicit false

namespace Rulebook

/-- Why a database did not answer. -/
inductive DatabaseFault where
  /-- A row that had to be there was not. -/
  | noRow
  /-- No connection was free in time. -/
  | poolTimeout
  /-- No connection could be made, for the reason given. -/
  | unreachable (reason : String)
  deriving DecidableEq, Repr

/-- The wording of a fault. -/
def DatabaseFault.message : DatabaseFault → String
  | noRow => "no rows returned by a query that expected to return at least one row"
  | poolTimeout => "pool timed out while waiting for an open connection"
  | unreachable reason => "error communicating with database: " ++ reason

/-- What failed beneath the service. -/
inductive Failure where
  | settings (reason : String)
  | database (fault : DatabaseFault)
  | observability (reason : String)
  | internal (reason : String)
  deriving DecidableEq, Repr

namespace Failure

/-- The code of a failure. -/
def code : Failure → String
  | settings _ => "CONFIG_ERROR"
  | database _ => "DATABASE_ERROR"
  | observability _ => "OBSERVABILITY_ERROR"
  | internal _ => "INTERNAL_ERROR"

/-- The wording of a failure. -/
def message : Failure → String
  | settings reason => "配置加载失败: " ++ reason
  | database fault => "数据库错误: " ++ fault.message
  | observability reason => "可观测性初始化失败: " ++ reason
  | internal reason => "内部错误: " ++ reason

end Failure

end Rulebook
