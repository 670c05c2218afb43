/-
**Answers that an evaluation failed.**

The service answers that an evaluation failed in one case only: the request had an expression evaluated
that has the shape of a rule, and its policy asks for the error.  Every way to the evaluator establishes
the shape: an expression that is posted is checked, and those that rows are combined to or that are
stored were read from rule text.  So no misplaced node is ever told of, and a service with a forgiving
policy never answers that an evaluation failed.

Main definitions:

* `Rulebook.Service.FailsOnly` — the errors of an operation;
* `Rulebook.Http.Evaluates` — the expressions that a request has evaluated;
* `Rulebook.Http.Response.TellsEvaluationError` — an answer that an evaluation failed.

Main results:

* `Rulebook.Http.handle_failsOnly` — the errors of the operation of a route;
* `Rulebook.Http.serve_tellsEvaluationError` — one request;
* `Rulebook.Http.evaluation_errors_are_asked_for` — **evaluations fail only as their policy asks for**.
-/

import Rulebook.Proofs.FormRequests
import Rulebook.Proofs.Refusal
import Rulebook.Proofs.Reposting

set_option autoImplicit false

namespace Rulebook.Service

/-! ### Errors of operations -/

/-- From a session with `P` the operation fails with no other errors than those in `F`. -/
def FailsOnly {α : Type} (P : Session → Prop) (x : Action α) (F : Error → Prop) : Prop :=
  ∀ s, P s → ∀ e, (x.run s).1 = .error e → F e

section Rules

variable {α β : Type} {P : Session → Prop} {F : Error → Prop}

theorem failsOnly_pure (a : α) : FailsOnly P (pure a) F := fun _ _ _ h => nomatch h

theorem failsOnly_throw {e : Error} (h : F e) : FailsOnly P (throw e : Action α) F := by
  intro s _ other hother
  cases hother
  exact h

theorem failsOnly_get : FailsOnly P (get : Action Session) F := fun _ _ _ h => nomatch h

theorem failsOnly_modify (f : Session → Session) : FailsOnly P (modify f : Action Unit) F :=
  fun _ _ _ h => nomatch h

theorem FailsOnly.bind {Q : α → Prop} {x : Action α} {f : α → Action β} (hx : FailsOnly P x F)
    (hkept : Ensures P x Q) (hf : ∀ a, Q a → FailsOnly P (f a) F) : FailsOnly P (x >>= f) F := by
  intro s hs e he
  rw [run_bind] at he
  have hfails := hx s hs
  have hensures := hkept s hs
  generalize x.run s = r at he hfails hensures
  obtain ⟨error | a, s'⟩ := r
  · cases he
    exact hfails e rfl
  · exact hf a (hensures.2 a rfl) s' hensures.1 e he

theorem FailsOnly.of_true {x : Action α} (h : FailsOnly (fun _ => True) x F) : FailsOnly P x F :=
  fun s _ => h s trivial

/-- One operation after another, where it does not matter what the first one leaves. -/
theorem FailsOnly.andThen {x : Action α} {f : α → Action β} (hx : FailsOnly (fun _ => True) x F)
    (hf : ∀ a, FailsOnly (fun _ => True) (f a) F) : FailsOnly P (x >>= f) F :=
  .of_true (hx.bind (Q := fun _ => True) (fun _ _ => ⟨trivial, fun _ _ => trivial⟩) fun a _ => hf a)

end Rules

/-! ### Failed evaluations -/

/-- If the error is that an evaluation failed, it did so for a reason in `Q`. -/
def Error.FailedFor (Q : EvaluationError → Prop) : Error → Prop
  | evaluation (.evaluation error) => Q error
  | evaluation _ => False
  | _ => True

section Operations

variable {P : Session → Prop} {Q : EvaluationError → Prop} (setup : Setup) (occasion : Occasion)

theorem failsOnly_keepLimits (faults : List FaultLine) :
    FailsOnly P (keepLimits faults) (Error.FailedFor Q) := by
  unfold keepLimits
  split
  · exact failsOnly_pure ()
  · exact failsOnly_throw trivial

theorem failsOnly_reachStore (op : StoreOperation) :
    FailsOnly P (reachStore setup op) (Error.FailedFor Q) := by
  unfold reachStore
  split
  · next failure _ => cases failure <;> exact failsOnly_throw trivial
  · exact failsOnly_pure ()

theorem failsOnly_measureRuleCount : FailsOnly P (measureRuleCount setup) (Error.FailedFor Q) := by
  unfold measureRuleCount
  split
  · exact failsOnly_pure ()
  · exact failsOnly_get.andThen fun _ => failsOnly_modify _

theorem failsOnly_readRule (text : String) : FailsOnly P (readRule text) (Error.FailedFor Q) := by
  unfold readRule
  split
  · exact (failsOnly_modify _).andThen fun _ => failsOnly_pure _
  · exact (failsOnly_modify _).andThen fun _ => failsOnly_throw trivial

theorem failsOnly_create (request : CreateRequest) :
    FailsOnly P (create setup occasion request) (Error.FailedFor Q) := by
  refine (failsOnly_keepLimits _).andThen fun _ => (failsOnly_readRule _).andThen fun e => ?_
  refine (failsOnly_reachStore setup _).andThen fun _ => (failsOnly_modify _).andThen fun _ => ?_
  exact (failsOnly_measureRuleCount setup).andThen fun _ => failsOnly_pure _

theorem failsOnly_combineRules (request : CombineRequest) :
    FailsOnly P (combineRules request) (Error.FailedFor Q) := by
  refine (failsOnly_keepLimits _).andThen fun _ => ?_
  split
  · exact (failsOnly_modify _).andThen fun _ => failsOnly_pure _
  · exact (failsOnly_modify _).andThen fun _ => failsOnly_throw trivial

theorem failsOnly_list : FailsOnly P (list setup) (Error.FailedFor Q) :=
  (failsOnly_reachStore setup _).andThen fun _ => failsOnly_get.andThen fun _ => failsOnly_pure _

theorem failsOnly_find (id : Uuid) : FailsOnly P (find setup id) (Error.FailedFor Q) := by
  refine (failsOnly_reachStore setup _).andThen fun _ => failsOnly_get.andThen fun _ => ?_
  split
  · exact failsOnly_pure _
  · exact failsOnly_throw trivial

theorem failsOnly_delete (id : Uuid) : FailsOnly P (delete setup id) (Error.FailedFor Q) := by
  refine (failsOnly_reachStore setup _).andThen fun _ => failsOnly_get.andThen fun _ => ?_
  split
  · exact failsOnly_throw trivial
  · refine (failsOnly_modify _).andThen fun _ => ?_
    exact (failsOnly_measureRuleCount setup).andThen fun _ => failsOnly_pure _

/-- An evaluation fails as the expression does. -/
theorem failsOnly_runEvaluation {e : Expr} {data : Json} (traced : Bool)
    (h : ∀ error, e.tryEvaluate setup.policy data = .error error → Q error) :
    FailsOnly P (runEvaluation setup occasion e data traced) (Error.FailedFor Q) := by
  unfold runEvaluation
  split
  · exact (failsOnly_modify _).andThen fun _ => failsOnly_pure _
  · next error herror =>
      refine (failsOnly_modify _).andThen fun _ => failsOnly_throw (h error ?_)
      rw [execute_eq_map, map_eq_error_iff] at herror
      rw [Expr.tryEvaluate, Expr.verdictAt_eq_map_observeAt, herror]
      rfl

/-- A posted expression is evaluated if it is well formed. -/
theorem failsOnly_evaluate {request : EvaluateRequest}
    (h : ∀ e, request.expr = some e → e.WellFormed → ∀ error,
      e.tryEvaluate setup.policy request.data = .error error → Q error) :
    FailsOnly P (evaluate setup occasion request) (Error.FailedFor Q) := by
  refine (failsOnly_keepLimits _).andThen fun _ => ?_
  split
  · exact failsOnly_pure _
  · next e he =>
      split
      · exact failsOnly_throw trivial
      · next hcheck =>
          exact failsOnly_runEvaluation setup occasion _ (h e he (Expr.check_eq_ok_iff.1 hcheck))

theorem failsOnly_evaluateRows {request : EvaluateRowsRequest}
    (h : ∀ rules e, Form.ruleTexts? request.rows = .ok rules → combine .and rules = .ok (some e) →
      ∀ error, e.tryEvaluate setup.policy request.data = .error error → Q error) :
    FailsOnly P (evaluateRows setup occasion request) (Error.FailedFor Q) := by
  refine (failsOnly_keepLimits _).andThen fun _ => ?_
  split
  · exact failsOnly_throw trivial
  · next rules hrules =>
      split
      · exact failsOnly_throw trivial
      · exact failsOnly_pure _
      · next e he =>
          exact (failsOnly_runEvaluation setup occasion _ (h rules e hrules he)).andThen
            fun _ => failsOnly_pure _

theorem failsOnly_evaluateStored {id : Uuid} {request : EvaluateStoredRequest}
    (h : ∀ s rule, P s → s.store.get? id = some rule → ∀ error,
      rule.expr.tryEvaluate setup.policy request.data = .error error → Q error) :
    FailsOnly P (evaluateStored setup occasion id request) (Error.FailedFor Q) := by
  refine (failsOnly_keepLimits _).bind (keepLimits_ensures _) fun _ _ => ?_
  refine (failsOnly_find setup id).bind (find_ensures setup id) fun rule hrule => ?_
  obtain ⟨s, hs, hget⟩ := hrule
  exact failsOnly_runEvaluation setup occasion _ (h s rule hs hget)

end Operations

end Rulebook.Service

namespace Rulebook.Http

open Service (Complaint Ensures Error EvaluateRequest EvaluateRowsRequest EvaluateStoredRequest
  FailsOnly Occasion Session Setup ensures_pure failsOnly_pure failsOnly_throw)

/-! ### What a request has evaluated -/

/-- A request to a service in session `s` has an expression evaluated on data: one that it posts, what
its rows are combined to, or that of a rule which is stored. -/
inductive Evaluates (s : Session) (request : Request) : Expr → Json → Prop
  | posted {e : Expr} {data : Json} {traced : Bool} (asks : request.Asks "POST" .evaluate)
      (body : readBody EvaluateRequest.record request = .ok ⟨some e, data, traced⟩) :
      Evaluates s request e data
  | rows {r : EvaluateRowsRequest} {rules : List String} {e : Expr}
      (asks : request.Asks "POST" .evaluateRows)
      (body : readBody EvaluateRowsRequest.record request = .ok r)
      (ruleTexts : Form.ruleTexts? r.rows = .ok rules) (combined : combine .and rules = .ok (some e)) :
      Evaluates s request e r.data
  | stored {id : Uuid} {rule : StoredRule} {r : EvaluateStoredRequest}
      (asks : request.AsksFor "POST" .evaluateStored id) (held : s.store.get? id = some rule)
      (body : readBody EvaluateStoredRequest.record request = .ok r) :
      Evaluates s request rule.expr r.data

theorem Evaluates.method_eq {s : Session} {request : Request} {e : Expr} {data : Json}
    (h : Evaluates s request e data) : request.method = "POST" := by
  cases h with
  | posted asks => exact asks.1
  | rows asks => exact asks.1
  | stored asks => exact asks.1

/-- Something that a request has evaluated has the shape of a rule and fails for the reason given. -/
def FailsOn (setup : Setup) (s : Session) (request : Request) (error : EvaluationError) : Prop :=
  ∃ e data, Evaluates s request e data ∧ e.WellFormed ∧
    e.tryEvaluate setup.policy data = .error error

section Handling

variable {α : Type} {P : Session → Prop}

theorem failsOnly_accept {Q : EvaluationError → Prop} (r : Except Complaint α) :
    FailsOnly P (accept r) (Error.FailedFor Q) := by
  cases r with
  | ok a => exact failsOnly_pure a
  | error complaint => exact failsOnly_throw trivial

theorem accept_ensures_eq (r : Except Complaint α) : Ensures P (accept r) fun a => r = .ok a := by
  cases r with
  | ok a => exact ensures_pure rfl
  | error complaint => exact Service.refuse_ensures complaint

/-- The operation of a route tells of an evaluation that failed only if one did. -/
theorem handle_failsOnly (setup : Setup) (occasion : Occasion) {request : Request}
    {located : Located} (hpath : locate? request.path = some located)
    (hmethod : request.method ∈ located.route.methods) {s : Session} (hs : s.Sound) :
    FailsOnly (fun s' => s'.store = s.store) (handle setup occasion request located)
      (Error.FailedFor (FailsOn setup s request)) := by
  obtain ⟨route, ids⟩ := located
  cases route with
  | rules => exact (Service.failsOnly_list setup).andThen fun _ => failsOnly_pure _
  | create =>
      refine (failsOnly_accept _).andThen fun body => ?_
      exact (Service.failsOnly_create setup occasion body).andThen fun _ => failsOnly_pure _
  | combine =>
      refine (failsOnly_accept _).andThen fun body => ?_
      exact (Service.failsOnly_combineRules body).andThen fun _ => failsOnly_pure _
  | evaluate =>
      refine (failsOnly_accept _).bind (accept_ensures_eq _) fun body hbody => ?_
      refine (Service.failsOnly_evaluate setup occasion ?_).andThen fun _ => failsOnly_pure _
      obtain ⟨_, data, traced⟩ := body
      rintro e rfl hwell error herror
      exact ⟨e, data, .posted ⟨List.mem_singleton.1 hmethod, ids, hpath⟩ hbody, hwell, herror⟩
  | evaluateRows =>
      refine (failsOnly_accept _).bind (accept_ensures_eq _) fun body hbody => ?_
      refine (Service.failsOnly_evaluateRows setup occasion ?_).andThen fun _ => failsOnly_pure _
      intro rules e hrules hcombined error herror
      exact ⟨e, body.data, .rows ⟨List.mem_singleton.1 hmethod, ids, hpath⟩ hbody hrules hcombined,
        wellFormed_of_combine hcombined e rfl, herror⟩
  | rule =>
      refine (failsOnly_accept _).andThen fun id => ?_
      split
      · exact (Service.failsOnly_delete setup id).andThen fun _ => failsOnly_pure _
      · exact (Service.failsOnly_find setup id).andThen fun _ => failsOnly_pure _
  | evaluateStored =>
      refine (failsOnly_accept _).bind (accept_ensures_eq _) fun id hid => ?_
      refine (failsOnly_accept _).bind (accept_ensures_eq _) fun body hbody => ?_
      refine (Service.failsOnly_evaluateStored setup occasion ?_).bind
        (Service.evaluateStored_ensures (fun _ _ _ h => h) setup occasion id body)
        fun _ _ => failsOnly_pure _
      -- the store is still that of the session in which the request came
      intro s' rule hstore hget error herror
      have hrule : s.store.get? id = some rule := by rw [← hstore]; exact hget
      have hparse := hs rule (Store.get?_eq_some_iff.1 hrule).1
      exact ⟨rule.expr, body.data,
        .stored ⟨List.mem_singleton.1 hmethod, ids, hpath, hid⟩ hrule hbody,
        wellFormed_of_parse hparse, herror⟩
  | health => exact failsOnly_pure _
  | ready => exact failsOnly_pure _

end Handling

/-! ### Answers -/

/-- The answer that an evaluation failed, by its status or by its code. -/
def Response.TellsEvaluationError (r : Response) : Prop :=
  r.status = 422 ∨ ∃ body, r.body = some body ∧ body.get? "code" = some (.string "EVALUATION_ERROR")

/-- A reply that does not tell that an evaluation failed. -/
structure Reply.TellsOther (reply : Reply) : Prop where
  status_ne : reply.status ≠ 422
  code?_ne : reply.code? ≠ some (.string "EVALUATION_ERROR")

theorem tellsOther_success {status : Nat} (h : status ≠ 422) (message : String) (data : Json) :
    (Reply.success status message data).TellsOther := by
  refine ⟨h, ?_⟩
  show some (Json.string "SUCCESS") ≠ _
  simp

theorem tellsOther_health (setup : Setup) (status : String) :
    (healthReply setup status).TellsOther := by
  refine ⟨by simp [healthReply], ?_⟩
  show none ≠ _
  simp

/-- The operation of a route gives no result that tells of a failed evaluation. -/
theorem handle_tellsOther (setup : Setup) (occasion : Occasion) (request : Request)
    (located : Located) :
    Ensures (fun _ => True) (handle setup occasion request located) Reply.TellsOther := by
  have hafter {α : Type} {x : Service.Action α} {f : α → Service.Action Reply}
      (hf : ∀ a, Ensures (fun _ => True) (f a) Reply.TellsOther) :
      Ensures (fun _ => True) (x >>= f) Reply.TellsOther :=
    Ensures.bind (Q := fun _ => True) (fun _ _ => ⟨trivial, fun _ _ => trivial⟩) fun a _ => hf a
  have hdata (data : Json) : (Reply.ofData data).TellsOther := tellsOther_success (by decide) _ _
  obtain ⟨route, ids⟩ := located
  cases route with
  | rules => exact hafter fun _ => ensures_pure (hdata _)
  | create =>
      exact hafter fun _ => hafter fun _ => ensures_pure (tellsOther_success (by decide) _ _)
  | combine => exact hafter fun _ => hafter fun _ => ensures_pure (hdata _)
  | evaluate => exact hafter fun _ => hafter fun _ => ensures_pure (hdata _)
  | evaluateRows => exact hafter fun _ => hafter fun _ => ensures_pure (hdata _)
  | rule =>
      refine hafter fun id => ?_
      split
      · exact hafter fun _ => ensures_pure (tellsOther_success (by decide) _ _)
      · exact hafter fun _ => ensures_pure (hdata _)
  | evaluateStored => exact hafter fun _ => hafter fun _ => hafter fun _ => ensures_pure (hdata _)
  | health => exact ensures_pure (tellsOther_health setup _)
  | ready => exact ensures_pure (tellsOther_health setup _)

/-- Among failures, those of evaluations have their status and their code to themselves. -/
theorem exists_evaluation_of_not_tellsOther {e : Error} (h : ¬ (Reply.ofError e).TellsOther) :
    ∃ error, e = .evaluation error := by
  cases e with
  | evaluation error => exact ⟨error, rfl⟩
  | _ => exact absurd ⟨by simp [Reply.ofError, Error.status], by simp [code?_ofError, Error.code]⟩ h

/-- The response to a request that leads to an operation shows its result, or its failure. -/
theorem fst_serve_eq (setup : Setup) (occasion : Occasion) {request : Request} {located : Located}
    (hpath : locate? request.path = some located) (hmethod : request.method ∈ located.route.methods)
    (s : Session) :
    (serve setup occasion request s).1 =
      let reply := Reply.ofResult ((handle setup occasion request located).run s).1
      (jsonResponse request.method reply.status reply.body).addHeader requestIdHeader
        (request.id occasion.requestId) := by
  have hoptions : request.method ≠ "OPTIONS" := fun heq =>
    options_notMem_methods located.route (heq ▸ hmethod)
  rw [serve_eq, respond_eq_handle setup occasion hpath hoptions hmethod]
  obtain ⟨r, s'⟩ := (handle setup occasion request located).run s
  cases r <;> rfl

/-- A response tells that an evaluation failed only if the reply that it was made from does. -/
theorem not_tellsOther_of_serve (setup : Setup) (occasion : Occasion) {request : Request}
    {located : Located} (hpath : locate? request.path = some located)
    (hmethod : request.method ∈ located.route.methods) {s : Session}
    (h : (serve setup occasion request s).1.TellsEvaluationError) :
    ¬ (Reply.ofResult ((handle setup occasion request located).run s).1).TellsOther := by
  rintro ⟨hstatus, hcode⟩
  rw [fst_serve_eq setup occasion hpath hmethod] at h
  rcases h with h | ⟨body, hbody, h⟩
  · exact hstatus h
  · -- the body is left out where only the head is asked for
    obtain ⟨-, hshown⟩ := (ite_eq_iff.1 hbody).resolve_left fun h => nomatch h.2
    obtain rfl := Option.some_inj.1 hshown
    exact hcode h

/-- A request that leads to no operation has nothing evaluated. -/
theorem answered_of_tellsEvaluationError (setup : Setup) (occasion : Occasion) {request : Request}
    {s : Session} (h : (serve setup occasion request s).1.TellsEvaluationError) :
    ∃ located, locate? request.path = some located ∧ request.method ∈ located.route.methods := by
  by_contra hnone
  have hplain : ∀ r : Response, r.status ≠ 422 → r.body = none →
      ¬ (r.addHeader requestIdHeader (request.id occasion.requestId)).TellsEvaluationError := by
    rintro r hstatus hbody (h | ⟨body, h, -⟩)
    · exact hstatus h
    · exact absurd (hbody.symm.trans h) (by simp)
  rw [serve_eq] at h
  by_cases hoptions : request.method = "OPTIONS"
  · rw [respond, if_pos hoptions] at h
    exact hplain (preflight _) (show (200 : Nat) ≠ 422 by decide) rfl h
  · rw [respond, if_neg hoptions] at h
    cases hpath : locate? request.path with
    | none =>
        rw [hpath] at h
        exact hplain nowhere (show (404 : Nat) ≠ 422 by decide) rfl h
    | some located =>
        rw [hpath] at h
        have hmethod : request.method ∉ located.route.methods :=
          fun hmem => hnone ⟨located, hpath, hmem⟩
        simp only [if_neg hmethod] at h
        exact hplain (wrongMethod located.route) (show (405 : Nat) ≠ 422 by decide) rfl h

/-- **An answer that an evaluation failed** is the one of something that the request has evaluated. -/
theorem serve_tellsEvaluationError (setup : Setup) (occasion : Occasion) {request : Request}
    {s : Session} (hs : s.Sound) (h : (serve setup occasion request s).1.TellsEvaluationError) :
    ∃ error, FailsOn setup s request error ∧
      (serve setup occasion request s).1.Carries (.ofError (.evaluation (.evaluation error))) := by
  obtain ⟨located, hpath, hmethod⟩ := answered_of_tellsEvaluationError setup occasion h
  have htells := not_tellsOther_of_serve setup occasion hpath hmethod h
  cases hrun : ((handle setup occasion request located).run s).1 with
  | ok reply =>
      rw [hrun] at htells
      exact absurd ((handle_tellsOther setup occasion request located s trivial).2 reply hrun) htells
  | error e =>
      rw [hrun] at htells
      obtain ⟨error, rfl⟩ := exists_evaluation_of_not_tellsOther htells
      have hfails := handle_failsOnly setup occasion hpath hmethod hs s rfl _ hrun
      cases error with
      | malformed report => exact hfails.elim
      | data reason => exact hfails.elim
      | evaluation error =>
          have hfails : FailsOn setup s request error := hfails
          obtain ⟨e, data, hevaluates, -⟩ := hfails
          have hcarries := serve_carries setup occasion hpath hmethod
            (by rw [hevaluates.method_eq]; decide) s
          rw [hrun] at hcarries
          exact ⟨error, hfails, hcarries⟩

/-! ### Runs -/

/-- What every answer to a sound session has, every answer of a run has. -/
theorem forall_mem_serveAll {R : Response → Prop} (setup : Setup)
    (h : ∀ (s : Session), s.Sound → ∀ occasion request, R (serve setup occasion request s).1)
    (requests : List (Occasion × Request)) {s : Session} (hs : s.Sound) :
    ∀ response ∈ (serveAll setup requests s).1, R response := by
  induction requests generalizing s with
  | nil => exact fun _ h => nomatch h
  | cons r rest ih =>
      rw [serveAll_cons]
      exact List.forall_mem_cons.2
        ⟨h s hs r.1 r.2, ih (serve_ensures setup r.1 r.2 hs).1⟩

/-- **Evaluations fail only as their policy asks for.**  Under loose comparison no evaluation of an
expression of any shape fails because values or nodes do not fit; where missing data fails closed, none
fails because data is missing; under both, each has a verdict.  After any row of requests to a service,
whatever it stores its rules in, an answer that an evaluation failed tells of something that the request
has evaluated and that has the shape of a rule: of values that do not fit where comparison is strict, or
of a missing attribute where that is an error, and never of a misplaced node.  Under loose comparison and
failing closed, no request is ever answered so. -/
theorem evaluation_errors_are_asked_for :
    (∀ (p : Policy) (data : Json) (e : Expr),
      (p.comparison = .loose →
        (∀ operator left right,
          e.tryEvaluate p data ≠ .error (.typeMismatch operator left right)) ∧
        ∀ path found, e.tryEvaluate p data ≠ .error (.unsupportedOperand path found)) ∧
      (p.missing = .failClosed → ∀ name, e.tryEvaluate p data ≠ .error (.missingAttribute name)) ∧
      (p.comparison = .loose → p.missing = .failClosed →
        ∃ verdict, e.tryEvaluate p data = .ok verdict)) ∧
    ∀ (setup : Setup) (requests : List (Occasion × Request)),
      (∀ occasion request,
        let s := (serveAll setup requests .fresh).2
        let response := (serve setup occasion request s).1
        response.TellsEvaluationError →
          ∃ error, FailsOn setup s request error ∧
            response.Carries (.ofError (.evaluation (.evaluation error))) ∧
            ((∃ operator left right, error = .typeMismatch operator left right ∧
                setup.policy.comparison = .strict) ∨
              ∃ name, error = .missingAttribute name ∧ setup.policy.missing = .error)) ∧
      (setup.policy.comparison = .loose → setup.policy.missing = .failClosed →
        ∀ response ∈ (serveAll setup requests .fresh).1, ¬ response.TellsEvaluationError) := by
  refine ⟨fun p data e => ?_, fun setup requests => ⟨fun occasion request => ?_, ?_⟩⟩
  · have hasked := Expr.failsAsAsked_verdictAt p data .root e
    refine ⟨fun hloose => ⟨fun _ _ _ herror => ?_, fun _ _ herror => ?_⟩,
      fun hclosed _ herror => ?_, fun hloose hclosed => ?_⟩
    · exact absurd (hloose.symm.trans (hasked _ herror)) (by decide)
    · exact absurd (hloose.symm.trans (hasked _ herror)) (by decide)
    · exact absurd (hclosed.symm.trans (hasked _ herror)) (by decide)
    · exact Expr.exists_verdictAt_eq_ok data ⟨hloose, hclosed⟩ .root e
  · intro s response htells
    obtain ⟨hsound, -⟩ := serveAll_ensures setup requests Session.sound_fresh
    obtain ⟨error, hfails, hcarries⟩ := serve_tellsEvaluationError setup occasion hsound htells
    refine ⟨error, hfails, hcarries, ?_⟩
    obtain ⟨e, data, -, hwell, herror⟩ := hfails
    have hasked := Expr.failsAsAsked_verdictAt setup.policy data .root e error herror
    cases error with
    | typeMismatch operator left right => exact .inl ⟨operator, left, right, rfl, hasked⟩
    | missingAttribute name => exact .inr ⟨name, rfl, hasked⟩
    | unsupportedOperand path found => exact absurd herror hwell.ne_unsupportedOperand
  · intro hloose hclosed
    refine forall_mem_serveAll setup (fun s hs occasion request htells => ?_) requests
      Session.sound_fresh
    obtain ⟨error, ⟨e, data, -, -, herror⟩, -⟩ := serve_tellsEvaluationError setup occasion hs htells
    obtain ⟨verdict, hverdict⟩ := Expr.exists_verdictAt_eq_ok data ⟨hloose, hclosed⟩ .root e
    exact absurd (herror.symm.trans hverdict) (by simp)

/-- A rule is posted. -/
def agePosted : List (Occasion × Request) :=
  [(⟨⟨1⟩, default, ⟨10⟩, 0, 0⟩, postRule "\"age > 30\"")]

/-- It is evaluated on a record without the attribute. -/
def evaluatedWithoutAge : Request :=
  ⟨"POST", "/api/rules/00000000000000000000000000000001/evaluate",
    [("content-type", "application/json")],
    Json.objectText [("data", Json.objectText [("name", "\"bob\"")])]⟩

/-- An expression that has no shape of a rule. -/
def misshapen : Expr :=
  .logical .and (.literal (.number 1)) (.comparison .gt (.literal (.string "a")) (.reference "b" none))

/-- The strict policy asks for a missing attribute to be told; the lenient one does not, and has a
verdict even where the shape is not that of a rule. -/
theorem missing_attribute_is_told :
    let s := (serveAll (.inMemory .strict) agePosted .fresh).2
    let response := (serve (.inMemory .strict) default evaluatedWithoutAge s).1
    (response.status = 422 ∧ ∃ error, FailsOn (.inMemory .strict) s evaluatedWithoutAge error ∧
      response.Carries (.ofError (.evaluation (.evaluation error))) ∧
      ((∃ operator left right, error = .typeMismatch operator left right ∧
          Policy.strict.comparison = .strict) ∨
        ∃ name, error = .missingAttribute name ∧ Policy.strict.missing = .error)) ∧
    (∀ response ∈ (serveAll (.inMemory .lenient) (agePosted ++ [(default, evaluatedWithoutAge)])
      .fresh).1, ¬ response.TellsEvaluationError) ∧
    ∃ verdict, misshapen.tryEvaluate .lenient .null = .ok verdict := by
  intro s response
  have hstatus : response.status = 422 := by decide +kernel
  obtain ⟨hengine, hservice⟩ := evaluation_errors_are_asked_for
  have htold := (hservice (.inMemory .strict) agePosted).1 default evaluatedWithoutAge (.inl hstatus)
  exact ⟨⟨hstatus, htold⟩, (hservice (.inMemory .lenient) _).2 rfl rfl,
    (hengine .lenient .null misshapen).2.2 rfl rfl⟩

end Rulebook.Http
