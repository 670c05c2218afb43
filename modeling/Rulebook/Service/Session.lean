/-
**The state of a service, and what its operations do.**

A service is set up once and then answers requests one after another.  Between two requests it keeps
the stored rules and the log of what it measured.  What an operation cannot know by itself — the
identifiers and the time that it is given — comes with the request as its occasion.

An operation either gives a result or fails; what it stored and measured before it failed stays.

Main definitions:

* `Rulebook.Service.Setup`, `Rulebook.Service.Occasion`, `Rulebook.Service.Session`;
* `Rulebook.Service.Action` — an operation;
* `Rulebook.Service.create`, `Rulebook.Service.combineRules`, `Rulebook.Service.evaluate`,
  `Rulebook.Service.evaluateRows`, `Rulebook.Service.list`, `Rulebook.Service.find`,
  `Rulebook.Service.delete`, `Rulebook.Service.evaluateStored` — the operations.
-/

import Rulebook.Evaluation.Execution
import Rulebook.Metrics.Measurement
import Rulebook.Rule.Combine
import Rulebook.Rule.Shape
import Rulebook.Service.Error
import Rulebook.Service.Request
import Rulebook.Store.Basic

set_option autoImplicit false

namespace Rulebook.Service

/-! ### Setup, occasion and session -/

/-- What is asked of a store. -/
inductive StoreOperation where
  | insert
  | get
  | list
  | delete
  | count
  deriving DecidableEq, Repr

/-- How a service is set up. -/
structure Setup where
  /-- The name of the service. -/
  name : String
  /-- The name of what the rules are stored in. -/
  storage : String
  /-- The policy of its evaluations. -/
  policy : Policy
  /-- How the store fails at an operation, if it does. -/
  storeFailure : StoreOperation → Option Failure

namespace Setup

/-- A service that keeps its rules in memory, which never fails. -/
def inMemory (policy : Policy) : Setup := ⟨"rule-service", "memory", policy, fun _ => none⟩

/-- A service whose database cannot be reached. -/
def unreachableDatabase (policy : Policy) (reason : String) : Setup :=
  ⟨"rule-service", "postgres", policy, fun _ => some (.database (.unreachable reason))⟩

end Setup

/-- What a request is given by its surroundings. -/
structure Occasion where
  /-- The identifier of the rule that it stores, if it stores one. -/
  ruleId : Uuid
  /-- Its own identifier, if it has none. -/
  requestId : Uuid
  /-- The time at which it comes. -/
  time : Timestamp
  /-- How long its evaluation takes. -/
  evaluationSeconds : Float
  /-- How long it takes as a whole. -/
  requestSeconds : Float
  deriving Inhabited

/-- What a service keeps between two requests. -/
structure Session where
  store : Store
  /-- What was measured, in order. -/
  log : List Measurement

/-- A service that has answered no request. -/
def Session.fresh : Session := ⟨.empty, []⟩

/-! ### Actions -/

/-- What an operation does to the session, and its result. -/
abbrev Action := ExceptT Error (StateM Session)

/-- Refuses a request. -/
def refuse {α : Type} (complaint : Complaint) : Action α := throw (.refused complaint)

/-- Adds a measurement to the log. -/
def measure (m : Measurement) : Action Unit := modify fun s => { s with log := s.log ++ [m] }

/-- Goes on if the fields of a request keep their limits. -/
def keepLimits (faults : List FaultLine) : Action Unit :=
  if faults = [] then pure () else refuse (.fields faults)

/-- Goes on if the store does not fail at an operation. -/
def reachStore (setup : Setup) (op : StoreOperation) : Action Unit :=
  match setup.storeFailure op with
  | some failure => throw (.ofFailure failure)
  | none => pure ()

/-! ### Parts of operations -/

/-- Reads a rule. -/
def readRule (text : String) : Action Expr :=
  match parse text with
  | .ok e => do
    measure (.parse true)
    return e
  | .error error => do
    measure (.parse false)
    throw (.malformedRule error.report)

/-- Measures how many rules are stored, unless the store fails to count them. -/
def measureRuleCount (setup : Setup) : Action Unit :=
  match setup.storeFailure .count with
  | some _ => pure ()
  | none => do measure (.ruleCount (← get).store.size)

/-- The rule under an identifier. -/
def loadRule (setup : Setup) (id : Uuid) : Action StoredRule := do
  reachStore setup .get
  match (← get).store.get? id with
  | some rule => return rule
  | none => throw (.ruleNotFound id.text)

/-- What an evaluation tells: its verdict and, if a trace was asked for, the conditions that matched and
the trace. -/
structure Verdict where
  result : Bool
  details : Option (List String × List String)
  deriving DecidableEq, Repr

/-- The verdict where there is nothing to hold. -/
def Verdict.vacuous : Verdict := ⟨true, none⟩

/-- The verdict of an outcome. -/
def Verdict.ofOutcome (traced : Bool) (o : Outcome) : Verdict :=
  ⟨o.matched, if traced then some (o.matchedConditions, o.trace) else none⟩

/-- Evaluates an expression. -/
def runEvaluation (setup : Setup) (occasion : Occasion) (e : Expr) (data : Json) (traced : Bool) :
    Action Verdict :=
  match e.execute setup.policy data traced with
  | .ok outcome => do
    measure (.evaluation (.ofVerdict outcome.matched) occasion.evaluationSeconds)
    return .ofOutcome traced outcome
  | .error error => do
    measure (.evaluation .failed occasion.evaluationSeconds)
    throw (.evaluation (.evaluation error))

/-! ### Operations -/

/-- Reads a rule and stores it. -/
def create (setup : Setup) (occasion : Occasion) (request : CreateRequest) : Action StoredRule := do
  keepLimits request.faults
  let e ← readRule request.text
  let rule : StoredRule := ⟨occasion.ruleId, request.text, e, occasion.time⟩
  reachStore setup .insert
  modify fun s => { s with store := s.store.insert rule }
  measureRuleCount setup
  return rule

/-- Reads rules and combines them, without storing anything.  They count as one rule that was read. -/
def combineRules (request : CombineRequest) : Action (Option Expr) := do
  keepLimits request.faults
  match combine request.connective request.rules with
  | .ok combined => do
    measure (.parse true)
    return combined
  | .error error => do
    measure (.parse false)
    throw (.malformedRule error.report)

/-- Evaluates the expression of a request, which must have the shape of a rule. -/
def evaluate (setup : Setup) (occasion : Occasion) (request : EvaluateRequest) : Action Verdict := do
  keepLimits request.faults
  match request.expr with
  | none => return .vacuous
  | some e =>
    match e.check with
    | .error error => refuse (.shape error)
    | .ok () => runEvaluation setup occasion e request.data request.traced

/-- The rule that all of several rules make up. -/
def conjunctionText (rules : List String) : String := " AND ".intercalate rules

/-- Evaluates conditions of a form, all of which must hold, and tells the rule they make up. -/
def evaluateRows (setup : Setup) (occasion : Occasion) (request : EvaluateRowsRequest) :
    Action (Bool × String) := do
  keepLimits request.faults
  match Form.ruleTexts? request.rows with
  | .error fault => refuse (.rowValue fault)
  | .ok rules =>
    match combine .and rules with
    | .error error => throw (.malformedRule error.report)
    | .ok none => return (true, conjunctionText rules)
    | .ok (some e) => do
      let verdict ← runEvaluation setup occasion e request.data false
      return (verdict.result, conjunctionText rules)

/-- Lists the stored rules, later ones first. -/
def list (setup : Setup) : Action (List StoredRule) := do
  reachStore setup .list
  return (← get).store.newestFirst

/-- Finds a stored rule. -/
def find (setup : Setup) (id : Uuid) : Action StoredRule := loadRule setup id

/-- Removes a stored rule. -/
def delete (setup : Setup) (id : Uuid) : Action Uuid := do
  reachStore setup .delete
  match (← get).store.get? id with
  | none => throw (.ruleNotFound id.text)
  | some _ => do
    modify fun s => { s with store := s.store.erase id }
    measureRuleCount setup
    return id

/-- Evaluates a stored rule. -/
def evaluateStored (setup : Setup) (occasion : Occasion) (id : Uuid)
    (request : EvaluateStoredRequest) : Action Verdict := do
  keepLimits request.faults
  let rule ← loadRule setup id
  runEvaluation setup occasion rule.expr request.data request.traced

end Rulebook.Service
