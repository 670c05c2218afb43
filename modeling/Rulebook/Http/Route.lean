/-
**Routes.**

A route is a pattern of paths with the methods that are answered there.  A part of a pattern is either
fixed or takes the identifier of a rule, which may be any text that is not empty.  Where a path fits a
fixed part and an identifier, the fixed part is meant.

Main definitions:

* `Rulebook.Http.Route` — the routes;
* `Rulebook.Http.Route.template`, `Rulebook.Http.Route.methods` — their patterns and methods;
* `Rulebook.Http.locate?` — the route of a path, with the identifier in it.

Main results:

* `Rulebook.Http.mem_all` — every route is listed.
-/

import Rulebook.Service.Complaint

set_option autoImplicit false

namespace Rulebook.Http

/-! ### Patterns -/

/-- A part of a pattern. -/
inductive Part where
  /-- A text that must stand there. -/
  | fixed (text : String)
  /-- An identifier. -/
  | id
  deriving DecidableEq, Repr

/-- A part as templates write it. -/
def Part.text : Part → String
  | fixed text => text
  | id => "\x7b" ++ Service.idName ++ "\x7d"

/-- The identifiers in the pieces of a path, if the path fits a pattern. -/
def capture? : List Part → List (List Char) → Option (List String)
  | [], [] => some []
  | .fixed text :: parts, piece :: pieces =>
    if piece = text.toList then capture? parts pieces else none
  | .id :: parts, piece :: pieces =>
    if piece = [] then none else (capture? parts pieces).map (String.ofList piece :: ·)
  | _, _ => none

/-! ### Routes -/

/-- What a path leads to. -/
inductive Route where
  | rules
  | create
  | combine
  | evaluate
  | evaluateRows
  | rule
  | evaluateStored
  | health
  | ready
  deriving DecidableEq, Repr

namespace Route

/-- All routes, those with fixed parts before those with an identifier. -/
def all : List Route :=
  [rules, create, combine, evaluate, evaluateRows, health, ready, rule, evaluateStored]

/-- The pattern of a route. -/
def pattern : Route → List Part
  | rules => [.fixed "api", .fixed "rules"]
  | create => [.fixed "api", .fixed "rules", .fixed "create"]
  | combine => [.fixed "api", .fixed "rules", .fixed "combine"]
  | evaluate => [.fixed "api", .fixed "rules", .fixed "evaluate"]
  | evaluateRows => [.fixed "api", .fixed "rules", .fixed "evaluate-conditions"]
  | rule => [.fixed "api", .fixed "rules", .id]
  | evaluateStored => [.fixed "api", .fixed "rules", .id, .fixed "evaluate"]
  | health => [.fixed "health"]
  | ready => [.fixed "ready"]

/-- The template of a route: its pattern in text. -/
def template (r : Route) : String := String.join (r.pattern.map fun p => "/" ++ p.text)

/-- The methods that are answered at a route. -/
def methods : Route → List String
  | rules => ["GET", "HEAD"]
  | create => ["POST"]
  | combine => ["POST"]
  | evaluate => ["POST"]
  | evaluateRows => ["POST"]
  | rule => ["GET", "HEAD", "DELETE"]
  | evaluateStored => ["POST"]
  | health => ["GET", "HEAD"]
  | ready => ["GET", "HEAD"]

/-- The methods as a header lists them. -/
def allowText (r : Route) : String := ",".intercalate r.methods

theorem mem_all (r : Route) : r ∈ all := by cases r <;> decide

end Route

/-! ### Paths -/

/-- A route with the identifiers that a path holds for it. -/
structure Located where
  route : Route
  ids : List String
  deriving DecidableEq, Repr

/-- The pieces of a path between its slashes, the first of which comes first. -/
def pathPieces? (path : String) : Option (List (List Char)) :=
  match path.toList with
  | '/' :: cs => some (cs.splitOn '/')
  | _ => none

/-- The first of some routes whose pattern fits the pieces of a path. -/
def locateIn (ps : List (List Char)) (routes : List Route) : Option Located :=
  routes.findSome? fun r => (capture? r.pattern ps).map (Located.mk r)

/-- The route of a path, if it has one. -/
def locate? (path : String) : Option Located :=
  (pathPieces? path).bind fun ps => locateIn ps Route.all

/-- What requests with a path are counted under: the template of its route or, without a route, the path
itself. -/
def pathLabel (path : String) : String :=
  match locate? path with
  | some located => located.route.template
  | none => path

end Rulebook.Http
