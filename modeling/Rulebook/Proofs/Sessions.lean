/-
**What holds after every request.**

An operation is judged by what it keeps of the session, whether it gives a result or fails, and by what
it promises of its result.  Every stored rule is what its text is read as; this is kept by every
operation, so it holds after any row of requests, and every expression in an answer is one that was read
from rules.

Main definitions:

* `Rulebook.Service.Ensures` — what an operation keeps and promises;
* `Rulebook.Service.Session.Sound` — every stored rule is what its text is read as;
* `Rulebook.Http.Shows` — the expressions in the body of an answer;
* `Rulebook.Http.IsHeld` — what such an expression is the JSON form of.

Main results:

* `Rulebook.Service.create_ensures`, `Rulebook.Service.list_ensures`,
  `Rulebook.Service.find_ensures`, … — the operations of the service;
* `Rulebook.Http.handle_ensures` — the operation of a route;
* `Rulebook.Http.serve_ensures` — one request;
* `Rulebook.Http.serveAll_ensures` — **a row of requests**.
-/

import Rulebook.Http.Server

set_option autoImplicit false

namespace Rulebook

/-- The paths under which a measurement counts or times something. -/
def Measurement.paths (m : Measurement) : List String :=
  m.changes.filterMap fun c => c.1.labels.lookup "path"

end Rulebook

namespace Rulebook.Service

/-! ### Running an operation -/

section Running

variable {α β : Type} (s : Session)

theorem run_get : (get : Action Session).run s = (.ok s, s) := rfl

theorem run_bind (x : Action α) (f : α → Action β) :
    (x >>= f).run s = match x.run s with
      | (.ok a, s') => (f a).run s'
      | (.error e, s') => (.error e, s') := by
  show (ExceptT.bindCont f (x s).1) (x s).2 = _
  rw [ExceptT.run]
  obtain ⟨r, s'⟩ := x s
  cases r <;> rfl

theorem fst_run_bind_pure (x : Action α) (f : α → β) :
    (((do return f (← x)) : Action β).run s).1 = (x.run s).1.map f := by
  rw [run_bind]
  obtain ⟨r, s'⟩ := x.run s
  cases r <;> rfl

end Running

/-! ### Keeping and promising -/

/-- An operation keeps `P` of the session, whether it fails or not, and promises `Q` of its result. -/
def Ensures {α : Type} (P : Session → Prop) (x : Action α) (Q : α → Prop) : Prop :=
  ∀ s, P s → P (x.run s).2 ∧ ∀ a, (x.run s).1 = .ok a → Q a

section Rules

variable {α β : Type} {P : Session → Prop} {Q : α → Prop} {R : β → Prop}

theorem ensures_pure {a : α} (h : Q a) : Ensures P (pure a) Q := by
  intro s hs
  refine ⟨hs, fun b hb => ?_⟩
  cases hb
  exact h

theorem ensures_throw (e : Error) : Ensures P (throw e : Action α) Q :=
  fun _ hs => ⟨hs, fun _ hb => nomatch hb⟩

theorem ensures_get : Ensures P (get : Action Session) P := by
  intro s hs
  refine ⟨hs, fun b hb => ?_⟩
  cases hb
  exact hs

theorem ensures_modify {f : Session → Session} (h : ∀ s, P s → P (f s)) :
    Ensures P (modify f : Action Unit) fun _ => True :=
  fun s hs => ⟨h s hs, fun _ _ => trivial⟩

theorem Ensures.bind {x : Action α} {f : α → Action β} (hx : Ensures P x Q)
    (hf : ∀ a, Q a → Ensures P (f a) R) : Ensures P (x >>= f) R := by
  intro s hs
  rw [run_bind]
  have hkept := hx s hs
  generalize x.run s = r at hkept
  obtain ⟨a | e, s'⟩ := r
  · exact ⟨hkept.1, fun _ hb => nomatch hb⟩
  · exact hf _ (hkept.2 _ rfl) s' hkept.1

end Rules

/-! ### Parts of operations -/

/-- What is kept does not depend on what operations measure, which is never measured under a path. -/
def IgnoresMeasuring (P : Session → Prop) : Prop :=
  ∀ s m, m.paths = [] → P s → P { s with log := s.log ++ [m] }

section Parts

variable {P : Session → Prop}

theorem refuse_ensures {α : Type} {Q : α → Prop} (complaint : Complaint) :
    Ensures P (refuse complaint) Q := ensures_throw _

theorem keepLimits_ensures (faults : List FaultLine) :
    Ensures P (keepLimits faults) fun _ => True := by
  unfold keepLimits
  split
  · exact ensures_pure trivial
  · exact refuse_ensures _

theorem reachStore_ensures (setup : Setup) (op : StoreOperation) :
    Ensures P (reachStore setup op) fun _ => True := by
  unfold reachStore
  split
  · exact ensures_throw _
  · exact ensures_pure trivial

variable (hlog : IgnoresMeasuring P)
include hlog

theorem measure_ensures {m : Measurement} (hm : m.paths = []) :
    Ensures P (measure m) fun _ => True :=
  ensures_modify fun s hs => hlog s m hm hs

theorem readRule_ensures (text : String) :
    Ensures P (readRule text) fun e => parse text = .ok e := by
  unfold readRule
  split
  · next e he => exact (measure_ensures hlog rfl).bind fun _ _ => ensures_pure he
  · exact (measure_ensures hlog rfl).bind fun _ _ => ensures_throw _

theorem measureRuleCount_ensures (setup : Setup) :
    Ensures P (measureRuleCount setup) fun _ => True := by
  unfold measureRuleCount
  split
  · exact ensures_pure trivial
  · exact ensures_get.bind fun _ _ => measure_ensures hlog rfl

theorem runEvaluation_ensures (setup : Setup) (occasion : Occasion) (e : Expr) (data : Json)
    (traced : Bool) : Ensures P (runEvaluation setup occasion e data traced) fun _ => True := by
  unfold runEvaluation
  split
  · exact (measure_ensures hlog rfl).bind fun _ _ => ensures_pure trivial
  · exact (measure_ensures hlog rfl).bind fun _ _ => ensures_throw _

end Parts

/-! ### Sound sessions -/

/-- Every stored rule is what its text is read as. -/
def Session.Sound (s : Session) : Prop := ∀ rule ∈ s.store.rules, parse rule.text = .ok rule.expr

theorem Session.sound_fresh : Session.fresh.Sound := fun _ h => nomatch h

theorem ignoresMeasuring_sound : IgnoresMeasuring Session.Sound := fun _ _ _ hs => hs

theorem mem_of_mem_without {rules : List StoredRule} {id : Uuid} {rule : StoredRule}
    (h : rule ∈ Store.without rules id) : rule ∈ rules := (List.mem_filter.1 h).1

theorem Session.Sound.insert {s : Session} (hs : s.Sound) {rule : StoredRule}
    (hrule : parse rule.text = .ok rule.expr) :
    Session.Sound { s with store := s.store.insert rule } := by
  intro other hother
  rcases List.mem_cons.1 hother with rfl | hother
  · exact hrule
  · exact hs other (mem_of_mem_without hother)

theorem Session.Sound.erase {s : Session} (hs : s.Sound) (id : Uuid) :
    Session.Sound { s with store := s.store.erase id } :=
  fun other hother => hs other (mem_of_mem_without hother)

/-! ### Operations -/

section Operations

variable {P : Session → Prop} (hlog : IgnoresMeasuring P) (setup : Setup) (occasion : Occasion)
include hlog

theorem create_ensures (hinsert : ∀ s rule, parse rule.text = .ok rule.expr → P s →
      P { s with store := s.store.insert rule }) (request : CreateRequest) :
    Ensures P (create setup occasion request) fun rule => parse rule.text = .ok rule.expr := by
  refine (keepLimits_ensures _).bind fun _ _ => ?_
  refine (readRule_ensures hlog _).bind fun e he => ?_
  refine (reachStore_ensures setup _).bind fun _ _ => ?_
  refine (ensures_modify fun s hs => hinsert s _ he hs).bind fun _ _ => ?_
  exact (measureRuleCount_ensures hlog setup).bind fun _ _ => ensures_pure he

theorem combineRules_ensures (request : CombineRequest) :
    Ensures P (combineRules request)
      fun combined => combine request.connective request.rules = .ok combined := by
  refine (keepLimits_ensures _).bind fun _ _ => ?_
  split
  · next combined hcombined =>
      exact (measure_ensures hlog rfl).bind fun _ _ => ensures_pure hcombined
  · exact (measure_ensures hlog rfl).bind fun _ _ => ensures_throw _

theorem evaluate_ensures (request : EvaluateRequest) :
    Ensures P (evaluate setup occasion request) fun _ => True := by
  refine (keepLimits_ensures _).bind fun _ _ => ?_
  split
  · exact ensures_pure trivial
  · split
    · exact refuse_ensures _
    · exact runEvaluation_ensures hlog setup occasion _ _ _

theorem evaluateRows_ensures (request : EvaluateRowsRequest) :
    Ensures P (evaluateRows setup occasion request) fun _ => True := by
  refine (keepLimits_ensures _).bind fun _ _ => ?_
  split
  · exact refuse_ensures _
  · split
    · exact ensures_throw _
    · exact ensures_pure trivial
    · exact (runEvaluation_ensures hlog setup occasion _ _ _).bind
        fun _ _ => ensures_pure trivial

omit hlog in
theorem list_ensures :
    Ensures P (list setup) fun rules => ∃ s, P s ∧ rules = s.store.newestFirst := by
  refine (reachStore_ensures setup _).bind fun _ _ => ?_
  exact ensures_get.bind fun s hs => ensures_pure ⟨s, hs, rfl⟩

omit hlog in
theorem find_ensures (id : Uuid) :
    Ensures P (find setup id) fun rule => ∃ s, P s ∧ s.store.get? id = some rule := by
  refine (reachStore_ensures setup _).bind fun _ _ => ensures_get.bind fun s hs => ?_
  split
  · next rule hrule => exact ensures_pure ⟨s, hs, hrule⟩
  · exact ensures_throw _

theorem evaluateStored_ensures (id : Uuid) (request : EvaluateStoredRequest) :
    Ensures P (evaluateStored setup occasion id request) fun _ => True := by
  refine (keepLimits_ensures _).bind fun _ _ => (find_ensures setup id).bind fun _ _ => ?_
  exact runEvaluation_ensures hlog setup occasion _ _ _

theorem delete_ensures (herase : ∀ s id, P s → P { s with store := s.store.erase id }) (id : Uuid) :
    Ensures P (delete setup id) fun _ => True := by
  refine (reachStore_ensures setup _).bind fun _ _ => ensures_get.bind fun s hs => ?_
  split
  · exact ensures_throw _
  · refine (ensures_modify fun s hs => herase s id hs).bind fun _ _ => ?_
    exact (measureRuleCount_ensures hlog setup).bind fun _ _ => ensures_pure trivial

end Operations

end Rulebook.Service

namespace Rulebook.Http

open Service (Action Ensures Error Occasion Session Setup Verdict ensures_pure ensures_throw
  ignoresMeasuring_sound)

/-! ### Expressions in answers -/

/-- The expressions in the data of an answer: under `ast`, under `combinedAst`, or under `ast` in an
item. -/
def ShowsIn (data tree : Json) : Prop :=
  data.get? "ast" = some tree ∨ data.get? "combinedAst" = some tree ∨
    ∃ items, data = .array items ∧ ∃ item ∈ items, item.get? "ast" = some tree

/-- The expressions in the body of an answer. -/
def Shows (body tree : Json) : Prop := ∃ data, body.get? "data" = some data ∧ ShowsIn data tree

/-- The JSON form of an expression that may be missing. -/
def treeJson (held : Option Expr) : Json := (held.map Expr.toJson).getD .null

/-- The JSON form of what rules are combined to; one rule by itself is combined to what it is read
as. -/
def IsHeld (tree : Json) : Prop :=
  ∃ held c rules, combine c rules = .ok held ∧ tree = treeJson held

theorem isHeld_of_parse {text : String} {e : Expr} (h : parse text = .ok e) : IsHeld e.toJson := by
  refine ⟨some e, .and, [text], ?_, rfl⟩
  simp [combine, h, Except.map, bind, Except.bind, pure, Except.pure]

theorem showsIn_rule {rule : StoredRule} {tree : Json} (h : ShowsIn rule.toJson tree) :
    tree = rule.expr.toJson := by
  rcases h with h | h | ⟨items, h, -⟩
  · exact (Option.some.inj h).symm
  · cases h
  · cases h

theorem showsIn_rules {rules : List StoredRule} {tree : Json}
    (h : ShowsIn (.array (rules.map StoredRule.toJson)) tree) :
    ∃ rule ∈ rules, tree = rule.expr.toJson := by
  rcases h with h | h | ⟨items, h, item, hitem, htree⟩
  · cases h
  · cases h
  · obtain rfl := Json.array.inj h
    obtain ⟨rule, hrule, rfl⟩ := List.mem_map.1 hitem
    exact ⟨rule, hrule, showsIn_rule (.inl htree)⟩

theorem showsIn_combination {held : Option Expr} {tree : Json}
    (h : ShowsIn (combinationJson held) tree) : tree = treeJson held := by
  rcases h with h | h | ⟨items, h, -⟩
  · cases h
  · exact (Option.some.inj h).symm
  · cases h

/-- Data whose members have other names shows nothing. -/
theorem not_showsIn_object {members : List (String × Json)} {tree : Json}
    (hast : members.lookup "ast" = none) (hcombined : members.lookup "combinedAst" = none) :
    ¬ ShowsIn (.object members) tree := by
  rintro (h | h | ⟨items, h, -⟩)
  · rw [Json.get?_object, hast] at h
    cases h
  · rw [Json.get?_object, hcombined] at h
    cases h
  · cases h

theorem not_showsIn_verdict {v : Verdict} {tree : Json} : ¬ ShowsIn (verdictJson v) tree := by
  obtain ⟨result, details⟩ := v
  cases details <;> exact not_showsIn_object rfl rfl

theorem not_showsIn_details {e : Error} {tree : Json} : ¬ ShowsIn e.details tree := by
  cases e with
  | malformedRule report => exact not_showsIn_object rfl rfl
  | _ => rintro (h | h | ⟨items, h, -⟩) <;> cases h

/-- A reply shows nothing but what rules are combined to. -/
def Reply.ShowsHeld (r : Reply) : Prop := ∀ tree, Shows r.body tree → IsHeld tree

theorem showsHeld_success {status : Nat} {message : String} {data : Json}
    (h : ∀ tree, ShowsIn data tree → IsHeld tree) :
    (Reply.success status message data).ShowsHeld := by
  rintro tree ⟨shown, hdata, htree⟩
  obtain rfl := Option.some.inj hdata
  exact h tree htree

theorem showsHeld_health (setup : Setup) (status : String) :
    (healthReply setup status).ShowsHeld := by
  rintro tree ⟨shown, hdata, -⟩
  cases hdata

/-! ### Answering a request -/

theorem accept_ensures {α : Type} {P : Session → Prop} (r : Except Service.Complaint α) :
    Ensures P (accept r) fun _ => True := by
  cases r with
  | ok a => exact ensures_pure trivial
  | error complaint => exact Service.refuse_ensures complaint

/-- The operation of a route keeps the session sound and shows nothing but held expressions. -/
theorem handle_ensures (setup : Setup) (occasion : Occasion) (request : Request)
    (located : Located) :
    Ensures Session.Sound (handle setup occasion request located) Reply.ShowsHeld := by
  obtain ⟨route, ids⟩ := located
  cases route with
  | rules =>
      refine (Service.list_ensures setup).bind fun rules hrules => ensures_pure ?_
      refine showsHeld_success fun tree htree => ?_
      obtain ⟨rule, hrule, rfl⟩ := showsIn_rules htree
      obtain ⟨s, hs, rfl⟩ := hrules
      exact isHeld_of_parse (hs rule (s.store.newestFirst_perm.mem_iff.1 hrule))
  | create =>
      refine (accept_ensures _).bind fun body _ => ?_
      refine (Service.create_ensures ignoresMeasuring_sound setup occasion
        (fun _ _ hrule hs => hs.insert hrule) body).bind fun rule hrule => ensures_pure ?_
      exact showsHeld_success fun tree htree => showsIn_rule htree ▸ isHeld_of_parse hrule
  | combine =>
      refine (accept_ensures _).bind fun body _ => ?_
      refine (Service.combineRules_ensures ignoresMeasuring_sound body).bind fun held hheld => ensures_pure ?_
      exact showsHeld_success fun tree htree => ⟨held, _, _, hheld, showsIn_combination htree⟩
  | evaluate =>
      refine (accept_ensures _).bind fun body _ => ?_
      refine (Service.evaluate_ensures ignoresMeasuring_sound setup occasion body).bind
        fun v _ => ensures_pure ?_
      exact showsHeld_success fun tree htree => absurd htree not_showsIn_verdict
  | evaluateRows =>
      refine (accept_ensures _).bind fun body _ => ?_
      refine (Service.evaluateRows_ensures ignoresMeasuring_sound setup occasion body).bind
        fun v _ => ensures_pure ?_
      exact showsHeld_success fun tree htree => absurd htree (not_showsIn_object rfl rfl)
  | rule =>
      refine (accept_ensures _).bind fun id _ => ?_
      split
      · refine (Service.delete_ensures ignoresMeasuring_sound setup (fun _ id hs => hs.erase id) id).bind
          fun id _ => ensures_pure ?_
        exact showsHeld_success fun tree htree => absurd htree (not_showsIn_object rfl rfl)
      · refine (Service.find_ensures setup id).bind fun rule hrule => ensures_pure ?_
        obtain ⟨s, hs, hrule⟩ := hrule
        have hparse := hs rule (Store.get?_eq_some_iff.1 hrule).1
        exact showsHeld_success fun tree htree => showsIn_rule htree ▸ isHeld_of_parse hparse
  | evaluateStored =>
      refine (accept_ensures _).bind fun id _ => (accept_ensures _).bind fun body _ => ?_
      refine (Service.evaluateStored_ensures ignoresMeasuring_sound setup occasion id body).bind
        fun v _ => ensures_pure ?_
      exact showsHeld_success fun tree htree => absurd htree not_showsIn_verdict
  | health => exact ensures_pure (showsHeld_health setup _)
  | ready => exact ensures_pure (showsHeld_health setup _)

/-- A response shows nothing but what rules are combined to. -/
def Response.ShowsHeld (r : Response) : Prop :=
  ∀ body, r.body = some body → ∀ tree, Shows body tree → IsHeld tree

theorem showsHeld_jsonResponse {method : String} {status : Nat} {body : Json}
    (h : ∀ tree, Shows body tree → IsHeld tree) : (jsonResponse method status body).ShowsHeld := by
  intro shown hshown
  simp only [jsonResponse, Option.ite_none_left_eq_some, Option.some.injEq] at hshown
  exact hshown.2 ▸ h

/-- The response to a request that leads to an operation. -/
theorem respond_eq_handle (setup : Setup) (occasion : Occasion) {request : Request}
    {located : Located} (hpath : locate? request.path = some located)
    (hoptions : request.method ≠ "OPTIONS") (hmethod : request.method ∈ located.route.methods)
    (s : Session) :
    respond setup occasion request s =
      match (handle setup occasion request located).run s with
      | (.ok reply, s') => (jsonResponse request.method reply.status reply.body, s')
      | (.error e, s') => (jsonResponse request.method e.status e.toJson, s') := by
  unfold respond
  rw [if_neg hoptions, hpath]
  simp only [if_pos hmethod]
  -- what is left runs the operation and turns its result or its failure into a response
  show StateT.bind _ _ s = _
  rw [StateT.bind]
  show (match handle setup occasion request located s with | (a, s) => _) = _
  rw [ExceptT.run]
  obtain ⟨r, s'⟩ := handle setup occasion request located s
  cases r <;> rfl

theorem respond_ensures (setup : Setup) (occasion : Occasion) (request : Request) {s : Session}
    (hs : s.Sound) :
    (respond setup occasion request s).2.Sound ∧
      (respond setup occasion request s).1.ShowsHeld := by
  by_cases hoptions : request.method = "OPTIONS"
  · rw [respond, if_pos hoptions]
    exact ⟨hs, fun _ h => nomatch h⟩
  cases hpath : locate? request.path with
  | none =>
      rw [respond, if_neg hoptions, hpath]
      exact ⟨hs, fun _ h => nomatch h⟩
  | some located =>
      by_cases hmethod : request.method ∈ located.route.methods
      · have hhandle := handle_ensures setup occasion request located s hs
        rw [respond_eq_handle setup occasion hpath hoptions hmethod]
        generalize (handle setup occasion request located).run s = r at hhandle
        obtain ⟨e | reply, s'⟩ := r
        -- a failure keeps the session sound as well, and its details show nothing
        · refine ⟨hhandle.1, showsHeld_jsonResponse ?_⟩
          rintro tree ⟨data, hdata, htree⟩
          obtain rfl := Option.some.inj hdata
          exact absurd htree not_showsIn_details
        · exact ⟨hhandle.1, showsHeld_jsonResponse (hhandle.2 reply rfl)⟩
      · rw [respond, if_neg hoptions, hpath]
        simp only [if_neg hmethod]
        exact ⟨hs, fun _ h => nomatch h⟩

/-- The response to a request is the uncounted one with the identifier of the request. -/
theorem serve_eq (setup : Setup) (occasion : Occasion) (request : Request) (s : Session) :
    serve setup occasion request s =
      ((respond setup occasion request s).1.addHeader requestIdHeader (request.id occasion.requestId),
        { (respond setup occasion request s).2 with
          log := (respond setup occasion request s).2.log ++
            [.request request.method (pathLabel request.path)
              (respond setup occasion request s).1.status occasion.requestSeconds] }) := rfl

/-- One request keeps the session sound, and its response shows nothing but held expressions. -/
theorem serve_ensures (setup : Setup) (occasion : Occasion) (request : Request) {s : Session}
    (hs : s.Sound) :
    (serve setup occasion request s).2.Sound ∧ (serve setup occasion request s).1.ShowsHeld := by
  rw [serve_eq]
  exact respond_ensures setup occasion request hs

theorem serveAll_cons (setup : Setup) (r : Occasion × Request) (rest : List (Occasion × Request))
    (s : Session) :
    serveAll setup (r :: rest) s =
      ((serve setup r.1 r.2 s).1 :: (serveAll setup rest (serve setup r.1 r.2 s).2).1,
        (serveAll setup rest (serve setup r.1 r.2 s).2).2) := by
  rw [serveAll, List.mapM_cons]
  rfl

/-- **Any row of requests keeps the session sound, and the responses show nothing but held
expressions.** -/
theorem serveAll_ensures (setup : Setup) (requests : List (Occasion × Request)) {s : Session}
    (hs : s.Sound) :
    (serveAll setup requests s).2.Sound ∧
      ∀ response ∈ (serveAll setup requests s).1, response.ShowsHeld := by
  induction requests generalizing s with
  | nil => exact ⟨hs, fun _ h => nomatch h⟩
  | cons r rest ih =>
      obtain ⟨hsound, hshows⟩ := serve_ensures setup r.1 r.2 hs
      obtain ⟨hrest, hresponses⟩ := ih hsound
      rw [serveAll_cons]
      exact ⟨hrest, List.forall_mem_cons.2 ⟨hshows, hresponses⟩⟩

end Rulebook.Http
