/-
**Bodies that are sent.**

A body is a text, and what an operation has of it is what its record reads off that text.  The response
carries what the operation gives, in the status and in the body.

Main definitions:

* `Rulebook.Http.Posts` — a request that posts a body to a route;
* `Rulebook.Http.Response.Carries` — a response with the status and the body of a reply.

Main results:

* `Rulebook.Http.Posts.readBody_eq` — what is read of a body is what its text says;
* `Rulebook.Http.Posts.carries` — the response is that of the operation of the route.
-/

import Rulebook.Proofs.JsonText
import Rulebook.Proofs.Sessions

set_option autoImplicit false

namespace Rulebook.Http

open Json (Document ReadError Record)
open Service (Complaint Error Occasion Session Setup)

/-! ### What a response carries -/

/-- A failure as it is sent. -/
def Reply.ofError (e : Error) : Reply := ⟨e.status, e.toJson⟩

/-- The result of an operation, or its failure, as it is sent. -/
def Reply.ofResult : Except Error Reply → Reply
  | .ok reply => reply
  | .error e => .ofError e

/-- A response has the status and the body of a reply. -/
def Response.Carries (r : Response) (reply : Reply) : Prop :=
  r.status = reply.status ∧ r.body = some reply.body

theorem Response.Carries.unique {r : Response} {reply reply' : Reply} (h : r.Carries reply)
    (h' : r.Carries reply') : reply = reply' := by
  obtain ⟨status, body⟩ := reply
  obtain ⟨status', body'⟩ := reply'
  obtain rfl : status = status' := h.1.symm.trans h'.1
  obtain rfl : body = body' := Option.some_inj.1 (h.2.symm.trans h'.2)
  rfl

theorem options_notMem_methods (r : Route) : "OPTIONS" ∉ r.methods := by cases r <;> decide

/-- The response to a request that leads to an operation carries its result, unless only the head is
asked for. -/
theorem serve_carries (setup : Setup) (occasion : Occasion) {request : Request} {located : Located}
    (hpath : locate? request.path = some located) (hmethod : request.method ∈ located.route.methods)
    (hhead : request.method ≠ "HEAD") (s : Session) :
    (serve setup occasion request s).1.Carries
      (.ofResult ((handle setup occasion request located).run s).1) := by
  have hoptions : request.method ≠ "OPTIONS" := fun h =>
    options_notMem_methods located.route (h ▸ hmethod)
  rw [serve_eq, respond_eq_handle setup occasion hpath hoptions hmethod]
  generalize (handle setup occasion request located).run s = r
  obtain ⟨e | reply, s'⟩ := r
  · exact ⟨rfl, if_neg hhead⟩
  · exact ⟨rfl, if_neg hhead⟩

/-! ### Requests that post a body -/

/-- A request that posts a JSON body, which is not too long, to a route. -/
structure Posts (request : Request) (located : Located) (body : String) : Prop where
  method_eq : request.method = "POST"
  locate?_eq : locate? request.path = some located
  saysJson_eq : saysJson request = true
  body_eq : request.body = body
  size_le : body.utf8ByteSize ≤ maxBodySize

section Posts

variable {request : Request} {located : Located} {body : String}

/-- What is read of a body is what its text says. -/
theorem Posts.readBody_eq {σ τ : Type} (h : Posts request located body)
    (record : Record ReadError Document σ τ) {d : Document} (hread : Document.ofText body = (d, true)) :
    readBody record request = (record.read Json.inText d).mapError Complaint.ofReadError := by
  rw [readBody, h.saysJson_eq, h.body_eq]
  simp only [Bool.not_true, Bool.false_eq_true, if_false, if_neg (Nat.not_lt.2 h.size_le)]
  rw [readText, hread]
  simp only
  cases record.read Json.inText d <;> rfl

/-- The response to a posted body is that of the operation of its route. -/
theorem Posts.carries (h : Posts request located body) (hroute : "POST" ∈ located.route.methods)
    (setup : Setup) (occasion : Occasion) (s : Session) :
    (serve setup occasion request s).1.Carries
      (.ofResult ((handle setup occasion request located).run s).1) :=
  serve_carries setup occasion h.locate?_eq (by rw [h.method_eq]; exact hroute)
    (by rw [h.method_eq]; decide) s

end Posts

end Rulebook.Http
