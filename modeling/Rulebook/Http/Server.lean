/-
**Answering requests.**

A request is led to a route by its path and to an operation of the service by its method.  Its body is
read, the operation is carried out, and the result is written as JSON.  Every answer may be read from
any origin, carries the identifier of its request and is counted.

Main definitions:

* `Rulebook.Http.readBody`, `Rulebook.Http.readId` — what a request says;
* `Rulebook.Http.Reply` — the result of an operation as it is sent;
* `Rulebook.Http.handle` — the operation of a route and a method;
* `Rulebook.Http.respond` — the response to a request, with nothing counted;
* `Rulebook.Http.serve` — the response to a request;
* `Rulebook.Http.serveAll` — the responses to a row of requests.
-/

import Rulebook.Http.MediaType
import Rulebook.Http.Message
import Rulebook.Http.Percent
import Rulebook.Http.Route
import Rulebook.Service.Session

set_option autoImplicit false

namespace Rulebook.Http

open Json (Record Document ReadError)
open Service (Action Complaint Error Occasion Session Setup StoreOperation Verdict)

/-! ### What a request says -/

/-- The greatest length of a body, in bytes. -/
def maxBodySize : Nat := 2097152

/-- Whether a request says that its body is JSON. -/
def saysJson (request : Request) : Bool :=
  match request.header? "content-type" with
  | some value =>
    value.toList.all isHeaderText &&
      match MediaType.ofText? value with
      | some m => m.isJson
      | none => false
  | none => false

/-- The record that a text spells, when nothing follows it. -/
def readText {σ τ : Type} (record : Record ReadError Document σ τ) (text : String) :
    Except Complaint τ :=
  let (d, ended) := Document.ofText text
  match record.read Json.inText d with
  | .error e => .error (.ofReadError e)
  | .ok t => if ended then .ok t else .error .notJson

/-- The record that the body of a request spells. -/
def readBody {σ τ : Type} (record : Record ReadError Document σ τ) (request : Request) :
    Except Complaint τ :=
  if !saysJson request then .error .contentType
  else if maxBodySize < request.body.utf8ByteSize then .error .bodySize
  else readText record request.body

/-- The identifier that a part of a path spells. -/
def readId (part : String) : Except Complaint Uuid :=
  match percentDecode? part with
  | none => .error .idEncoding
  | some text =>
    match Uuid.ofText? text with
    | none => .error (.idText text)
    | some id => .ok id

/-- Goes on with what was read, or refuses the request. -/
def accept {α : Type} : Except Complaint α → Action α
  | .ok a => return a
  | .error complaint => Service.refuse complaint

/-! ### Replies -/

/-- The result of an operation as it is sent. -/
structure Reply where
  status : Nat
  body : Json

/-- What is said when nothing else is. -/
def doneMessage : String := "操作成功"

/-- A result with a message. -/
def Reply.success (status : Nat) (message : String) (data : Json) : Reply :=
  ⟨status, .object [("success", .bool true), ("code", .string "SUCCESS"),
    ("message", .string message), ("data", data)]⟩

/-- A result without a message of its own. -/
def Reply.ofData (data : Json) : Reply := .success 200 doneMessage data

/-- The JSON form of a combination. -/
def combinationJson (e : Option Expr) : Json :=
  .object [("combinedAst", (e.map Expr.toJson).getD .null)]

/-- The JSON form of a verdict. -/
def verdictJson (v : Verdict) : Json :=
  .object (("result", .bool v.result) ::
    match v.details with
    | some (matched, trace) =>
      [("matchedConditions", .array (matched.map .string)), ("trace", .array (trace.map .string))]
    | none => [])

/-- The JSON form of a verdict on conditions of a form, with the rule they make up. -/
def rowsVerdictJson (result : Bool) (rule : String) : Json :=
  .object [("result", .bool result), ("ruleString", .string rule)]

/-- The state of the service. -/
def healthReply (setup : Setup) (status : String) : Reply :=
  ⟨200, .object [("status", .string status), ("service", .string setup.name),
    ("storage", .string setup.storage)]⟩

/-! ### Operations -/

/-- The identifier among the parts of a path. -/
def Located.id (located : Located) : Except Complaint Uuid := readId (located.ids.headD "")

/-- Carries out what a request asks for at a route, with a method that is answered there. -/
def handle (setup : Setup) (occasion : Occasion) (request : Request) (located : Located) :
    Action Reply :=
  match located.route with
  | .rules => do
    let rules ← Service.list setup
    return .ofData (.array (rules.map StoredRule.toJson))
  | .create => do
    let body ← accept (readBody Service.CreateRequest.record request)
    let rule ← Service.create setup occasion body
    return .success 201 "规则已创建" rule.toJson
  | .combine => do
    let body ← accept (readBody Service.CombineRequest.record request)
    return .ofData (combinationJson (← Service.combineRules body))
  | .evaluate => do
    let body ← accept (readBody Service.EvaluateRequest.record request)
    return .ofData (verdictJson (← Service.evaluate setup occasion body))
  | .evaluateRows => do
    let body ← accept (readBody Service.EvaluateRowsRequest.record request)
    let (result, rule) ← Service.evaluateRows setup occasion body
    return .ofData (rowsVerdictJson result rule)
  | .rule => do
    let id ← accept located.id
    if request.method = "DELETE" then
      let id ← Service.delete setup id
      return .success 200 "规则已删除" (.object [("id", .string id.text)])
    else
      let rule ← Service.find setup id
      return .ofData rule.toJson
  | .evaluateStored => do
    let id ← accept located.id
    let body ← accept (readBody Service.EvaluateStoredRequest.record request)
    return .ofData (verdictJson (← Service.evaluateStored setup occasion id body))
  | .health => return healthReply setup "ok"
  | .ready => return healthReply setup "ready"

/-! ### Responses -/

/-- Anyone may read the answer. -/
def openToAll : String × String := ("access-control-allow-origin", "*")

/-- The header that lists the methods answered at a route. -/
def allowHeader (r : Route) : String × String := ("allow", r.allowText)

/-- The answer to a request that asks what it may ask. -/
def preflight (located : Option Located) : Response :=
  ⟨200, [openToAll, ("access-control-allow-methods", "*"), ("access-control-allow-headers", "*")] ++
    (located.map fun l => allowHeader l.route).toList, none⟩

/-- The answer where there is no route. -/
def nowhere : Response := ⟨404, [openToAll], none⟩

/-- The answer to a method that a route does not answer. -/
def wrongMethod (r : Route) : Response := ⟨405, [openToAll, allowHeader r], none⟩

/-- The answer with a JSON body, which is left out when only the head is asked for. -/
def jsonResponse (method : String) (status : Nat) (body : Json) : Response :=
  ⟨status, [openToAll, ("content-type", "application/json")],
    if method = "HEAD" then none else some body⟩

/-- The answer to a request, as far as it does not depend on how it is counted. -/
def respond (setup : Setup) (occasion : Occasion) (request : Request) : StateM Session Response :=
  let located := locate? request.path
  if request.method = "OPTIONS" then return preflight located
  else
    match located with
    | none => return nowhere
    | some l =>
      if request.method ∈ l.route.methods then do
        match ← (handle setup occasion request l).run with
        | .ok reply => return jsonResponse request.method reply.status reply.body
        | .error e => return jsonResponse request.method e.status e.toJson
      else return wrongMethod l.route

/-- The answer to a request, which is counted under the label of its path. -/
def serve (setup : Setup) (occasion : Occasion) (request : Request) : StateM Session Response :=
  identified occasion.requestId request fun _ => do
    let response ← respond setup occasion request
    modify fun s => { s with
      log := s.log ++ [.request request.method (pathLabel request.path) response.status
        occasion.requestSeconds] }
    return response

/-- The answers to a row of requests, each with its occasion. -/
def serveAll (setup : Setup) (requests : List (Occasion × Request)) : StateM Session (List Response) :=
  requests.mapM fun r => serve setup r.1 r.2

end Rulebook.Http
