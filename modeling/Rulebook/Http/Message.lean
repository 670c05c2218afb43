/-
**Requests and responses.**

Main definitions:

* `Rulebook.Http.Request` — a request;
* `Rulebook.Http.Request.path`, `Rulebook.Http.Request.header?` — its parts;
* `Rulebook.Http.Response` — a response;
* `Rulebook.Http.Request.id` — the identifier that a request goes by;
* `Rulebook.Http.identified` — answering a request under its identifier.
-/

import Rulebook.Json.Basic
import Rulebook.Store.Uuid

set_option autoImplicit false

namespace Rulebook.Http

/-! ### Requests -/

/-- A request. -/
structure Request where
  method : String
  /-- The path, and what may follow it after a question mark. -/
  target : String
  /-- Names and values, in order. -/
  headers : List (String × String)
  body : String
  deriving DecidableEq, Repr

namespace Request

/-- The path of a request. -/
def path (r : Request) : String :=
  String.ofList (r.target.toList.takeWhile fun c => c != '?' && c != '#')

/-- The first value of a header; the case of its name does not matter. -/
def header? (r : Request) (name : String) : Option String :=
  (r.headers.find? fun h => h.1.toList.map Char.toLower == name.toList).map Prod.snd

end Request

/-! ### Responses -/

/-- A response. -/
structure Response where
  status : Nat
  /-- Names and values, in order. -/
  headers : List (String × String)
  body : Option Json

/-- The response with one more header. -/
def Response.addHeader (r : Response) (name value : String) : Response :=
  { r with headers := r.headers ++ [(name, value)] }

/-! ### Identifiers of requests -/

/-- The header that holds the identifier of a request. -/
def requestIdHeader : String := "x-request-id"

/-- Whether a character of a header is text that can be read. -/
def isHeaderText (c : Char) : Bool := c == '\t' || (0x20 ≤ c.toNat && c.toNat < 0x7F)

/-- The identifier that a request goes by: its own, if it has one that is text and not empty, or else
the given one. -/
def Request.id (r : Request) (fresh : Uuid) : String :=
  match r.header? requestIdHeader with
  | some value => if value ≠ "" ∧ value.toList.all isHeaderText then value else fresh.text
  | none => fresh.text

/-- Answers a request, whose identifier is known to whatever answers and is sent back. -/
def identified {m : Type → Type} [Monad m] (fresh : Uuid) (request : Request)
    (answer : String → m Response) : m Response := do
  let id := request.id fresh
  return (← answer id).addHeader requestIdHeader id

end Rulebook.Http
