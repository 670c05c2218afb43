/-
**The paths under which requests are counted.**

A request is counted under the template of its route, whatever it asks for there and however it is
answered.  A path that no route fits has no template, and it is counted under itself.  So a service has
as many labels as there are routes that were asked for and other paths that were: requests to ever new
paths make ever new labels, and the templates bound only those of requests that a route fits.

Main definitions:

* `Rulebook.pathLabels` — the paths under which a log counts or times something;
* `Rulebook.Http.route?` — the route of a path;
* `Rulebook.Http.askedRoutes`, `Rulebook.Http.strayPaths` — the routes and the other paths that a row of
  requests asks for.

Main results:

* `Rulebook.Http.pathLabels_serve` — what one request adds to the labels;
* `Rulebook.Http.pathLabels_serveAll` — the labels of a row of requests;
* `Rulebook.Http.pathLabels_toFinset` — each is the template of a route or a path without one;
* `Rulebook.Http.stray_paths_become_labels` — **how many labels there are**.
-/

import Mathlib.Data.Finset.Card
import Mathlib.Data.Finset.Image
import Mathlib.Data.List.TakeWhile
import Rulebook.Proofs.Ledger

set_option autoImplicit false

namespace Rulebook

/-- The paths under which a log counts or times something, in order. -/
def pathLabels (log : List Measurement) : List String := log.flatMap Measurement.paths

theorem pathLabels_append (log log' : List Measurement) :
    pathLabels (log ++ log') = pathLabels log ++ pathLabels log' := List.flatMap_append

theorem pathLabels_singleton (m : Measurement) : pathLabels [m] = m.paths := List.flatMap_singleton _ _

/-- A request is counted and timed. -/
theorem paths_request (method path : String) (status : Nat) (seconds : Float) :
    Measurement.paths (.request method path status seconds) = [path, path] := rfl

namespace Http

open Service (Ensures Occasion Session Setup)

/-! ### Templates -/

/-- The route of a path, if one fits it. -/
def route? (path : String) : Option Route := (locate? path).map Located.route

theorem pathLabel_of_route? {path : String} {r : Route} (h : route? path = some r) :
    pathLabel path = r.template := by
  obtain ⟨located, hlocated, rfl⟩ := Option.map_eq_some_iff.1 h
  rw [pathLabel, hlocated]

theorem pathLabel_of_route?_none {path : String} (h : route? path = none) :
    pathLabel path = path := by
  rw [pathLabel, Option.map_eq_none_iff.1 h]

/-- A template is itself a path, which its route fits. -/
theorem route?_template (r : Route) : route? r.template = some r := by cases r <;> decide

theorem template_injective : Function.Injective Route.template := by
  intro r r' h
  have hroute := route?_template r
  rw [h, route?_template r'] at hroute
  exact (Option.some.inj hroute).symm

/-- The template of a route is the label of those paths that the route fits. -/
theorem pathLabel_eq_template_iff {path : String} {r : Route} :
    pathLabel path = r.template ↔ route? path = some r := by
  refine ⟨fun h => ?_, pathLabel_of_route?⟩
  cases hpath : route? path with
  | none =>
      -- a path without a route is its own label, and a template is no such path
      rw [pathLabel_of_route?_none hpath] at h
      rw [h, route?_template] at hpath
      cases hpath
  | some r' =>
      rw [pathLabel_of_route? hpath] at h
      rw [template_injective h]

/-! ### The labels of a row of requests -/

section Serving

variable (setup : Setup)

/-- An operation counts and times nothing under a path. -/
theorem pathLabels_respond (occasion : Occasion) (request : Request) (s : Session) :
    pathLabels (respond setup occasion request s).2.log = pathLabels s.log := by
  by_cases hanswered : ∃ located, locate? request.path = some located ∧
      request.method ∈ located.route.methods
  · obtain ⟨located, hpath, hmethod⟩ := hanswered
    have hoptions : request.method ≠ "OPTIONS" := fun h =>
      options_notMem_methods located.route (h ▸ hmethod)
    have hkept : Ensures (fun s' => pathLabels s'.log = pathLabels s.log)
        (handle setup occasion request located) fun _ => True := by
      refine handle_keeps (fun s' m hm hs' => ?_) setup occasion request
        (fun _ _ _ _ hs' => hs') (fun _ _ _ _ hs' => hs')
      rw [pathLabels_append, hs', pathLabels_singleton, hm, List.append_nil]
    have hlog := (hkept s rfl).1
    rw [respond_eq_handle setup occasion hpath hoptions hmethod]
    generalize (handle setup occasion request located).run s = run at hlog
    obtain ⟨error | reply, s'⟩ := run
    · exact hlog
    · exact hlog
  · rw [respond_of_unanswered setup occasion fun located hpath hmethod =>
      hanswered ⟨located, hpath, hmethod⟩]

/-- A request is counted and timed under the label of its path, and under no other. -/
theorem pathLabels_serve (occasion : Occasion) (request : Request) (s : Session) :
    pathLabels (serve setup occasion request s).2.log =
      pathLabels s.log ++ [pathLabel request.path, pathLabel request.path] := by
  rw [serve_eq]
  show pathLabels (_ ++ [_]) = _
  rw [pathLabels_append, pathLabels_singleton, paths_request, pathLabels_respond]

/-- The labels of a row of requests are those of their paths, whatever else the requests say. -/
theorem pathLabels_serveAll (requests : List (Occasion × Request)) (s : Session) :
    pathLabels (serveAll setup requests s).2.log =
      pathLabels s.log ++ requests.flatMap fun r => [pathLabel r.2.path, pathLabel r.2.path] := by
  induction requests generalizing s with
  | nil => exact (List.append_nil _).symm
  | cons r rest ih =>
      rw [serveAll_cons, List.flatMap_cons, ← List.append_assoc, ← pathLabels_serve setup r.1 r.2 s]
      exact ih _

end Serving

/-! ### How many labels there are -/

section Counting

variable (setup : Setup) (requests : List (Occasion × Request))

/-- The routes that fit the paths of some requests. -/
def askedRoutes : Finset Route := (requests.filterMap fun r => route? r.2.path).toFinset

/-- The paths of some requests that no route fits. -/
def strayPaths : Finset String :=
  ((requests.map fun r => r.2.path).filter fun path => (route? path).isNone).toFinset

variable {requests}

theorem mem_askedRoutes {r : Route} :
    r ∈ askedRoutes requests ↔ ∃ request ∈ requests, route? request.2.path = some r := by
  rw [askedRoutes, List.mem_toFinset, List.mem_filterMap]

theorem mem_strayPaths {path : String} :
    path ∈ strayPaths requests ↔ route? path = none ∧ ∃ request ∈ requests, request.2.path = path := by
  rw [strayPaths, List.mem_toFinset, List.mem_filter, List.mem_map, Option.isNone_iff_eq_none, and_comm]

variable (requests)

theorem mem_pathLabels {label : String} :
    label ∈ pathLabels (serveAll setup requests .fresh).2.log ↔
      ∃ request ∈ requests, pathLabel request.2.path = label := by
  rw [pathLabels_serveAll]
  show label ∈ List.flatMap _ requests ↔ _
  simp [eq_comm]

/-- The labels are the templates of the routes that were asked for and the paths without a route. -/
theorem pathLabels_toFinset :
    (pathLabels (serveAll setup requests .fresh).2.log).toFinset =
      (askedRoutes requests).image Route.template ∪ strayPaths requests := by
  ext label
  rw [List.mem_toFinset, mem_pathLabels, Finset.mem_union, Finset.mem_image, mem_strayPaths]
  constructor
  · rintro ⟨request, hrequest, rfl⟩
    cases hpath : route? request.2.path with
    | none =>
        rw [pathLabel_of_route?_none hpath]
        exact .inr ⟨hpath, request, hrequest, rfl⟩
    | some r =>
        rw [pathLabel_of_route? hpath]
        exact .inl ⟨r, mem_askedRoutes.2 ⟨request, hrequest, hpath⟩, rfl⟩
  · rintro (⟨r, hr, rfl⟩ | ⟨hnone, request, hrequest, rfl⟩)
    · obtain ⟨request, hrequest, hpath⟩ := mem_askedRoutes.1 hr
      exact ⟨request, hrequest, pathLabel_of_route? hpath⟩
    · exact ⟨request, hrequest, pathLabel_of_route?_none hnone⟩

/-- Every route has a label of its own, and so has every path without a route. -/
theorem card_pathLabels :
    (pathLabels (serveAll setup requests .fresh).2.log).toFinset.card =
      (askedRoutes requests).card + (strayPaths requests).card := by
  have hdisjoint : Disjoint ((askedRoutes requests).image Route.template) (strayPaths requests) := by
    refine Finset.disjoint_left.2 fun label htemplate hstray => ?_
    obtain ⟨r, -, rfl⟩ := Finset.mem_image.1 htemplate
    have hnone := (mem_strayPaths.1 hstray).1
    rw [route?_template] at hnone
    cases hnone
  rw [pathLabels_toFinset, Finset.card_union_of_disjoint hdisjoint,
    Finset.card_image_of_injective _ template_injective]

theorem card_askedRoutes_le : (askedRoutes requests).card ≤ Route.all.length := by
  have hsubset : askedRoutes requests ⊆ Route.all.toFinset := fun r _ =>
    List.mem_toFinset.2 r.mem_all
  exact (Finset.card_le_card hsubset).trans (List.toFinset_card_le _)

end Counting

/-! ### Stray paths -/

/-- A path below a first part that no pattern begins with. -/
def strayPath (n : Nat) : String := String.ofList ('/' :: 'x' :: '/' :: List.replicate n 'a')

theorem strayPath_injective : Function.Injective strayPath := by
  intro n n' h
  have hlength := congrArg String.length h
  simpa [strayPath] using hlength

theorem route?_strayPath (n : Nat) : route? (strayPath n) = none := by
  have hpieces : pathPieces? (strayPath n) =
      some (['x'] :: (List.replicate n 'a').splitOn '/') := by
    rw [strayPath, pathPieces?, String.toList_ofList]
    exact congrArg some (List.splitOn_append_cons_self ['x'] _)
  rw [route?, locate?, hpieces]
  simp [locateIn, Route.all, Route.pattern, capture?]

/-- A request to a stray path. -/
def strayRequest (n : Nat) : Request := ⟨"GET", strayPath n, [], ""⟩

theorem path_strayRequest (n : Nat) : (strayRequest n).path = strayPath n := by
  have hplain : ∀ c ∈ '/' :: 'x' :: '/' :: List.replicate n 'a', (c != '?' && c != '#') = true := by
    simp
  rw [Request.path, strayRequest, strayPath, String.toList_ofList, List.takeWhile_eq_self_iff.2 hplain]

/-- Requests to so many stray paths. -/
def strayRequests (n : Nat) : List (Occasion × Request) :=
  (List.range n).map fun i => (default, strayRequest i)

theorem exists_of_mem_strayRequests {n : Nat} {request : Occasion × Request}
    (h : request ∈ strayRequests n) : ∃ i < n, request.2.path = strayPath i := by
  obtain ⟨i, hi, rfl⟩ := List.mem_map.1 h
  exact ⟨i, List.mem_range.1 hi, path_strayRequest i⟩

theorem askedRoutes_strayRequests (n : Nat) : askedRoutes (strayRequests n) = ∅ := by
  refine Finset.eq_empty_of_forall_notMem fun r hr => ?_
  obtain ⟨request, hrequest, hpath⟩ := mem_askedRoutes.1 hr
  obtain ⟨i, -, hi⟩ := exists_of_mem_strayRequests hrequest
  rw [hi, route?_strayPath] at hpath
  cases hpath

theorem strayPaths_strayRequests (n : Nat) :
    strayPaths (strayRequests n) = (Finset.range n).image strayPath := by
  ext path
  rw [mem_strayPaths, Finset.mem_image]
  constructor
  · rintro ⟨-, request, hrequest, rfl⟩
    obtain ⟨i, hi, hpath⟩ := exists_of_mem_strayRequests hrequest
    exact ⟨i, Finset.mem_range.2 hi, hpath.symm⟩
  · rintro ⟨i, hi, rfl⟩
    have hrequest : (default, strayRequest i) ∈ strayRequests n :=
      List.mem_map.2 ⟨i, List.mem_range.2 (Finset.mem_range.1 hi), rfl⟩
    exact ⟨route?_strayPath i, _, hrequest, path_strayRequest i⟩

/-- Every stray path has a label of its own. -/
theorem card_pathLabels_strayRequests (setup : Setup) (n : Nat) :
    (pathLabels (serveAll setup (strayRequests n) .fresh).2.log).toFinset.card = n := by
  rw [card_pathLabels, askedRoutes_strayRequests, strayPaths_strayRequests,
    Finset.card_image_of_injective _ strayPath_injective, Finset.card_range, Finset.card_empty,
    Nat.zero_add]

/-! ### The bound that there is -/

theorem pathLabel_mem_templates_iff {path : String} :
    pathLabel path ∈ Route.all.map Route.template ↔ (route? path).isSome := by
  rw [List.mem_map, Option.isSome_iff_exists]
  refine exists_congr fun r => ?_
  rw [eq_comm, pathLabel_eq_template_iff, and_iff_right r.mem_all]

/-- **How many labels there are.**  After any row of requests, with any methods and paths, the labels are
those of the paths that were asked for.  They are templates exactly if every one of these paths has a
route, and there are as many of them as routes that were asked for and other paths together: at most one
for each route, and one for each path without a route.  So the routes do not bound them: some row of any
number of requests has as many labels, none of which is a template. -/
theorem stray_paths_become_labels (setup : Setup) :
    (∀ requests : List (Occasion × Request),
      let labels := pathLabels (serveAll setup requests .fresh).2.log
      (∀ label, label ∈ labels ↔ ∃ request ∈ requests, pathLabel request.2.path = label) ∧
      ((∀ label ∈ labels, label ∈ Route.all.map Route.template) ↔
        ∀ request ∈ requests, (route? request.2.path).isSome) ∧
      labels.toFinset.card = (askedRoutes requests).card + (strayPaths requests).card ∧
      (askedRoutes requests).card ≤ Route.all.length) ∧
    ∀ n, ∃ requests : List (Occasion × Request), requests.length = n ∧
      let labels := pathLabels (serveAll setup requests .fresh).2.log
      labels.toFinset.card = n ∧ ∀ label ∈ labels, label ∉ Route.all.map Route.template := by
  constructor
  · intro requests labels
    have hlabels : ∀ label, label ∈ labels ↔ ∃ request ∈ requests, pathLabel request.2.path = label :=
      fun _ => mem_pathLabels setup requests
    refine ⟨hlabels, ⟨fun h request hrequest => ?_, fun h label hlabel => ?_⟩,
      card_pathLabels setup requests, card_askedRoutes_le requests⟩
    · exact pathLabel_mem_templates_iff.1 (h _ ((hlabels _).2 ⟨request, hrequest, rfl⟩))
    · obtain ⟨request, hrequest, rfl⟩ := (hlabels label).1 hlabel
      exact pathLabel_mem_templates_iff.2 (h request hrequest)
  · intro n
    refine ⟨strayRequests n, by rw [strayRequests, List.length_map, List.length_range],
      card_pathLabels_strayRequests setup n, fun label hlabel htemplate => ?_⟩
    obtain ⟨request, hrequest, rfl⟩ := (mem_pathLabels setup _).1 hlabel
    obtain ⟨i, -, hpath⟩ := exists_of_mem_strayRequests hrequest
    rw [pathLabel_mem_templates_iff, hpath, route?_strayPath] at htemplate
    cases htemplate

/-- A misspelt path is its own label, while a method that a route does not answer is counted under the
template of the route. -/
example :
    pathLabels (serveAll (.inMemory .strict)
      [(default, ⟨"GET", "/api/rule", [], ""⟩), (default, ⟨"PATCH", "/api/rules/7", [], ""⟩)]
      .fresh).2.log = ["/api/rule", "/api/rule", "/api/rules/\x7bid\x7d", "/api/rules/\x7bid\x7d"] := by
  decide +kernel

end Http

end Rulebook
