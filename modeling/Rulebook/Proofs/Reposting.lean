/-
**Expressions that are posted back.**

An expression that an answer shows can be posted to be evaluated, or evaluated under the identifier of
its rule.  A body is nested one deeper than the values in it, which leaves one level less for the
expression than the reader allows.  Within that depth both ways give one answer; an expression nested
deeper, which a combination of many rules is, is refused as no JSON.

Main definitions:

* `Rulebook.Http.valueDepth` — how deep the values in a body may be nested;
* `Rulebook.Http.evaluationReply`, `Rulebook.Http.replyTo` — the answer of an evaluation;
* `Rulebook.Http.bodiesOf` — the bodies that ask for an evaluation.

Main results:

* `Rulebook.Http.readExpr_clip` — what is read of an expression in a body;
* `Rulebook.Http.shown_expression_is_accepted_back` — **every expression in an answer can be posted
  back, up to that depth**;
* `Rulebook.Http.length_lt_depth_of_combine` — what many rules are combined to is nested deep.
-/

import Rulebook.Proofs.Combination
import Rulebook.Proofs.RequestBody
import Rulebook.Proofs.WireForm

set_option autoImplicit false

namespace Rulebook.Http

open Json (Document ReadError IsObjectText Yields objectText orNotJson parseWithin?)
open Service (Action Complaint Error EvaluateRequest EvaluateStoredRequest Occasion Session Setup
  Verdict)

/-! ### Answers of evaluations -/

/-- How deep the values in a body may be nested. -/
def valueDepth : Nat := Document.maxDepth - 1

/-- The answer of evaluating an expression: its verdict, or why there is none.  Where there is nothing
to hold, the verdict is for it. -/
def evaluationReply (policy : Policy) (held : Option Expr) (data : Json) : Reply :=
  match held with
  | none => .ofData (verdictJson .vacuous)
  | some e =>
    match e.tryEvaluate policy data with
    | .ok verdict => .ofData (verdictJson ⟨verdict, none⟩)
    | .error error => .ofError (.evaluation (.evaluation error))

/-- The answer of evaluating an expression on data in a body. -/
def replyTo (policy : Policy) (held : Option Expr) (dataText : String) : Reply :=
  match parseWithin? valueDepth dataText with
  | some data => evaluationReply policy held data
  | none => .ofError (.refused .notJson)

theorem ofResult_runEvaluation (setup : Setup) (occasion : Occasion) (e : Expr) (data : Json)
    (s : Session) :
    Reply.ofResult (((Service.runEvaluation setup occasion e data false).run s).1.map
      fun v => .ofData (verdictJson v)) = evaluationReply setup.policy (some e) data := by
  rw [Service.runEvaluation, execute_eq_map, evaluationReply, Expr.tryEvaluate,
    Expr.verdictAt_eq_map_observeAt]
  cases e.observeAt setup.policy data .root <;> rfl

theorem keepLimits_data {data : Json} (h : data.isObject = true) :
    Service.keepLimits (Service.dataFaults data) = pure () := by
  rw [Service.dataFaults, h]
  rfl

/-- The answer of evaluating an expression that has the shape of a rule. -/
theorem ofResult_evaluate (setup : Setup) (occasion : Occasion) {held : Option Expr}
    (hheld : ∀ e ∈ held, e.WellFormed) {data : Json} (hdata : data.isObject = true) (s : Session) :
    Reply.ofResult (((Service.evaluate setup occasion ⟨held, data, false⟩).run s).1.map
      fun v => .ofData (verdictJson v)) = evaluationReply setup.policy held data := by
  rw [Service.evaluate, EvaluateRequest.faults, keepLimits_data hdata, pure_bind]
  cases held with
  | none => rfl
  | some e =>
      simp only [Expr.check_eq_ok_iff.2 (hheld e rfl)]
      exact ofResult_runEvaluation setup occasion e data s

/-- The answer of evaluating a stored rule. -/
theorem ofResult_evaluateStored (policy : Policy) (occasion : Occasion) {id : Uuid}
    {rule : StoredRule} {data : Json} (hdata : data.isObject = true) {s : Session}
    (hrule : s.store.get? id = some rule) :
    Reply.ofResult (((Service.evaluateStored (.inMemory policy) occasion id ⟨data, false⟩).run s).1.map
      fun v => .ofData (verdictJson v)) = evaluationReply policy (some rule.expr) data := by
  have hload : (Service.loadRule (.inMemory policy) id).run s = (.ok rule, s) := by
    have hreach : Service.reachStore (.inMemory policy) .get = pure () := rfl
    rw [Service.loadRule, hreach, pure_bind, Service.run_bind, Service.run_get]
    simp only [hrule]
    rfl
  rw [Service.evaluateStored, EvaluateStoredRequest.faults, keepLimits_data hdata, pure_bind,
    Service.run_bind, hload]
  exact ofResult_runEvaluation (.inMemory policy) occasion rule.expr data s

/-- The answer at a route whose operation tells a verdict on what it reads of the body. -/
theorem ofResult_accept_bind {σ : Type} (read : Except Complaint σ) (x : σ → Action Verdict)
    (s : Session) :
    Reply.ofResult (((do
      let body ← accept read
      return .ofData (verdictJson (← x body))) : Action Reply).run s).1 =
      match read with
      | .ok body => Reply.ofResult (((x body).run s).1.map fun v => .ofData (verdictJson v))
      | .error complaint => .ofError (.refused complaint) := by
  cases read with
  | ok body => exact congrArg Reply.ofResult (Service.fst_run_bind_pure s (x body) _)
  | error complaint => rfl

/-! ### Bodies that ask for an evaluation -/

/-- The bodies that ask for an evaluation of an expression; the members come in either order. -/
def bodiesOf (tree : Json) (dataText : String) : List String :=
  [objectText [("ast", tree.text), ("data", dataText)],
    objectText [("data", dataText), ("ast", tree.text)]]

/-- The body of an evaluation is read member by member, in either order. -/
theorem read_evaluateRequest {ast data : Document} {held : Option (Option Expr)}
    {value : Option Json} (hast : EvaluateRequest.readExpr ast = orNotJson held)
    (hdata : data.readValue = orNotJson value) {members : List (Option String × Document)}
    (hmembers : members ∈
      [[(some "ast", ast), (some "data", data)], [(some "data", data), (some "ast", ast)]]) :
    EvaluateRequest.record.read Json.inText (.object members true) =
      orNotJson (held.bind fun held => value.map fun value => ⟨held, value, false⟩) := by
  rw [List.mem_cons, List.mem_singleton] at hmembers
  rcases hmembers with rfl | rfl <;> cases held <;> cases value <;>
    simp [EvaluateRequest.record, Json.Record.read, Json.inText, Json.Record.readContents,
      Json.Record.readMembers, Json.Record.locate, Json.Record.finished, Document.readable,
      Document.hasTextKeys, Json.ending, Json.required, hast, hdata, orNotJson, ReadError.under, bind,
      Except.bind, pure, Except.pure]

theorem exists_yields_value {dataText : String} (h : IsObjectText dataText) :
    ∃ members, Yields valueDepth dataText.toList (.object members true) :=
  h.exists_yields (valueDepth - 1)

theorem isObject_of_parseWithin? {dataText : String} (h : IsObjectText dataText) {data : Json}
    (hparse : parseWithin? valueDepth dataText = some data) : data.isObject = true := by
  obtain ⟨members, hyields⟩ := exists_yields_value h
  exact hyields.isObject hparse

/-- What is read of an expression in a body: the expression, unless it is nested too deep. -/
theorem readExpr_clip {held : Option Expr} (h : ∀ e ∈ held, e.WellFormed) :
    EvaluateRequest.readExpr (Json.clip valueDepth (treeJson held)) =
      orNotJson (if (treeJson held).depth ≤ valueDepth then some held else none) := by
  cases held with
  | none => rfl
  | some e =>
      have hread : EvaluateRequest.readExpr (Json.clip valueDepth e.toJson) =
          (Expr.ofDocument? (Json.clip valueDepth e.toJson)).map some := by
        cases h e rfl <;> rfl
      show EvaluateRequest.readExpr (Json.clip valueDepth e.toJson) =
        orNotJson (if e.toJson.depth ≤ valueDepth then _ else _)
      rw [hread, (h e rfl).ofDocument?_clip (by decide), Expr.depth_toJson]
      split <;> rfl

/-- What is read of a body that asks for the evaluation of an expression. -/
theorem Posts.readBody_evaluateRequest {request : Request} {located : Located} {body : String}
    (hposts : Posts request located body) {held : Option Expr} (hheld : ∀ e ∈ held, e.WellFormed)
    (hnumbers : ∀ n ∈ (treeJson held).numbers, n.ReadsBack) {dataText : String}
    (hdata : IsObjectText dataText) (hbody : body ∈ bodiesOf (treeJson held) dataText) :
    readBody EvaluateRequest.record request =
      if (treeJson held).depth ≤ valueDepth then
        match parseWithin? valueDepth dataText with
        | some data => .ok ⟨held, data, false⟩
        | none => .error .notJson
      else .error .notJson := by
  obtain ⟨ms, hyields⟩ := exists_yields_value hdata
  have htree := Json.yields_text hnumbers valueDepth
  obtain ⟨members, hmembers, hread⟩ : ∃ members,
      members ∈
        [[(some "ast", Json.clip valueDepth (treeJson held)), (some "data", Document.object ms true)],
          [(some "data", Document.object ms true),
            (some "ast", Json.clip valueDepth (treeJson held))]] ∧
      Document.ofText body = (.object members true, true) := by
    simp only [bodiesOf, List.mem_cons, List.not_mem_nil, or_false] at hbody
    rcases hbody with rfl | rfl
    · exact ⟨_, List.mem_cons_self, Json.ofText_objectText
        (.cons ⟨rfl, htree⟩ (.cons ⟨rfl, hyields⟩ .nil))⟩
    · exact ⟨_, List.mem_cons_of_mem _ List.mem_cons_self, Json.ofText_objectText
        (.cons ⟨rfl, hyields⟩ (.cons ⟨rfl, htree⟩ .nil))⟩
  rw [hposts.readBody_eq _ hread,
    read_evaluateRequest (readExpr_clip hheld) hyields.readValue_eq hmembers]
  show (orNotJson (Option.bind _ fun held => (parseWithin? valueDepth dataText).map _)).mapError _ = _
  cases parseWithin? valueDepth dataText with
  | none => split <;> rfl
  | some data => split <;> rfl

/-- The body of an evaluation of a stored rule is read likewise. -/
theorem read_evaluateStoredRequest {data : Document} {value : Option Json}
    (hdata : data.readValue = orNotJson value) :
    EvaluateStoredRequest.record.read Json.inText (.object [(some "data", data)] true) =
      orNotJson (value.map fun value => ⟨value, false⟩) := by
  cases value <;>
    simp [EvaluateStoredRequest.record, Json.Record.read, Json.inText, Json.Record.readContents,
      Json.Record.readMembers, Json.Record.locate, Json.Record.finished, Document.readable,
      Document.hasTextKeys, Json.ending, Json.required, hdata, orNotJson, ReadError.under, bind,
      Except.bind, pure, Except.pure]

/-- What is read of a body that asks for the evaluation of a stored rule. -/
theorem Posts.readBody_evaluateStoredRequest {request : Request} {located : Located}
    {dataText : String} (hposts : Posts request located (objectText [("data", dataText)]))
    (hdata : IsObjectText dataText) :
    readBody EvaluateStoredRequest.record request =
      match parseWithin? valueDepth dataText with
      | some data => .ok ⟨data, false⟩
      | none => .error .notJson := by
  obtain ⟨ms, hyields⟩ := exists_yields_value hdata
  have hread : Document.ofText (objectText [("data", dataText)]) =
      (.object [(some "data", .object ms true)] true, true) :=
    Json.ofText_objectText (.cons ⟨rfl, hyields⟩ .nil)
  rw [hposts.readBody_eq _ hread, read_evaluateStoredRequest hyields.readValue_eq]
  cases parseWithin? valueDepth dataText <;> rfl

/-! ### Responses -/

/-- The response to a body that asks for the evaluation of an expression. -/
theorem Posts.carries_evaluate {request : Request} {ids : List String} {body : String}
    (hposts : Posts request ⟨.evaluate, ids⟩ body) {held : Option Expr}
    (hheld : ∀ e ∈ held, e.WellFormed) (hnumbers : ∀ n ∈ (treeJson held).numbers, n.ReadsBack)
    {dataText : String} (hdata : IsObjectText dataText)
    (hbody : body ∈ bodiesOf (treeJson held) dataText) (setup : Setup) (occasion : Occasion)
    (s : Session) :
    (serve setup occasion request s).1.Carries
      (if (treeJson held).depth ≤ valueDepth then replyTo setup.policy held dataText
        else .ofError (.refused .notJson)) := by
  have hcarries := hposts.carries (List.mem_singleton.2 rfl) setup occasion s
  rw [handle, ofResult_accept_bind,
    hposts.readBody_evaluateRequest hheld hnumbers hdata hbody] at hcarries
  by_cases hdepth : (treeJson held).depth ≤ valueDepth
  · rw [if_pos hdepth] at hcarries ⊢
    rw [replyTo]
    cases hparse : parseWithin? valueDepth dataText with
    | none =>
        rw [hparse] at hcarries
        exact hcarries
    | some data =>
        rw [hparse] at hcarries
        simp only at hcarries
        rwa [ofResult_evaluate setup occasion hheld (isObject_of_parseWithin? hdata hparse)]
          at hcarries
  · rw [if_neg hdepth] at hcarries ⊢
    exact hcarries

/-- The response to a body that asks for the evaluation of a stored rule. -/
theorem Posts.carries_evaluateStored {request : Request} {part : String} {dataText : String}
    (hposts : Posts request ⟨.evaluateStored, [part]⟩ (objectText [("data", dataText)])) {id : Uuid}
    (hid : readId part = .ok id) (hdata : IsObjectText dataText) (policy : Policy)
    (occasion : Occasion) {s : Session} {rule : StoredRule} (hrule : s.store.get? id = some rule) :
    (serve (.inMemory policy) occasion request s).1.Carries
      (replyTo policy (some rule.expr) dataText) := by
  have hcarries := hposts.carries (List.mem_singleton.2 rfl) (.inMemory policy) occasion s
  have hlocated : Located.id ⟨.evaluateStored, [part]⟩ = .ok id := hid
  rw [handle, hlocated] at hcarries
  -- with the identifier read, the operation reads the body like that of an expression
  change (serve _ _ _ _).1.Carries (Reply.ofResult (((do
    let body ← accept (readBody EvaluateStoredRequest.record request)
    return .ofData (verdictJson (← Service.evaluateStored (.inMemory policy) occasion id body))) :
      Action Reply).run s).1) at hcarries
  rw [ofResult_accept_bind, hposts.readBody_evaluateStoredRequest hdata] at hcarries
  rw [replyTo]
  cases hparse : parseWithin? valueDepth dataText with
  | none =>
      rw [hparse] at hcarries
      exact hcarries
  | some data =>
      rw [hparse] at hcarries
      simp only at hcarries
      rwa [ofResult_evaluateStored policy occasion (isObject_of_parseWithin? hdata hparse) hrule]
        at hcarries

/-! ### Combinations in answers -/

/-- What rules are combined to is well formed. -/
theorem wellFormed_of_combine {c : Connective} {rules : List String} {held : Option Expr}
    (h : combine c rules = .ok held) : ∀ e ∈ held, e.WellFormed := by
  rintro e rfl
  obtain ⟨trees, htrees, hwhole⟩ := combine_eq_ok_some_iff.1 h
  exact wellFormed_joinAll (wellFormed_of_mapM htrees) hwhole

theorem two_le_depth {e : Expr} (h : e.WellFormed) : 2 ≤ e.depth := by
  induction h with
  | condition r hleft value =>
      simp only [Expr.depth]
      omega
  | joined c _ _ ihl _ =>
      rw [Expr.depth]
      omega

/-- What rules are combined to is nested deeper than there are rules. -/
theorem length_lt_depth_of_combine {c : Connective} {rules : List String} {e : Expr}
    (h : combine c rules = .ok (some e)) : rules.length < e.depth := by
  obtain ⟨trees, htrees, hwhole⟩ := combine_eq_ok_some_iff.1 h
  have hwell := wellFormed_of_mapM htrees
  rw [(mapM_eq_ok_iff.1 htrees).length_eq]
  -- each further rule goes under a new node, with all rules before it on the left
  revert hwell
  refine joinAll_induction
    (motive := fun es w => (∀ tree ∈ es, tree.WellFormed) → es.length < w.depth) ?_ ?_ hwhole
  · intro e he
    exact two_le_depth (he e List.mem_cons_self)
  · intro es w e _ ih hes
    have hlength := ih (List.forall_mem_append.1 hes).1
    rw [Expr.depth, List.length_append, List.length_singleton]
    omega

/-- A combination of as many rules as values in a body may be nested deep is not accepted back. -/
theorem Posts.carries_combination_refused {request : Request} {ids : List String} {body : String}
    (hposts : Posts request ⟨.evaluate, ids⟩ body) {c : Connective} {rules : List String} {e : Expr}
    (hcombine : combine c rules = .ok (some e)) (hmany : valueDepth ≤ rules.length)
    (hnumbers : ∀ n ∈ e.toJson.numbers, n.ReadsBack) {dataText : String}
    (hdata : IsObjectText dataText) (hbody : body ∈ bodiesOf e.toJson dataText) (setup : Setup)
    (occasion : Occasion) (s : Session) :
    (serve setup occasion request s).1.Carries (.ofError (.refused .notJson)) := by
  have hdeep : ¬ (treeJson (some e)).depth ≤ valueDepth := by
    have hlength := length_lt_depth_of_combine hcombine
    show ¬ e.toJson.depth ≤ valueDepth
    rw [Expr.depth_toJson]
    omega
  have hcarries := hposts.carries_evaluate (wellFormed_of_combine hcombine) hnumbers hdata hbody
    setup occasion s
  rwa [if_neg hdeep] at hcarries

/-! ### Expressions in answers -/

/-- The answer to a rule that is posted shows what it is read as. -/
theorem Posts.carries_create {request : Request} {ids : List String} {body text : String}
    (hposts : Posts request ⟨.create, ids⟩ body)
    (hread : readBody Service.CreateRequest.record request = .ok ⟨text⟩)
    (hfaults : (Service.CreateRequest.mk text).faults = []) {e : Expr} (hparse : parse text = .ok e)
    (policy : Policy) (occasion : Occasion) (s : Session) :
    (serve (.inMemory policy) occasion request s).1.Carries (.success 201 "规则已创建"
      (StoredRule.toJson ⟨occasion.ruleId, text, e, occasion.time⟩)) := by
  have hcarries := hposts.carries (List.mem_singleton.2 rfl) (.inMemory policy) occasion s
  rw [handle, hread] at hcarries
  simp only [accept, pure_bind] at hcarries
  rw [Service.create, Service.keepLimits, if_pos hfaults, pure_bind, Service.readRule, hparse] at hcarries
  exact hcarries

/-- **Every expression in an answer can be posted back, up to the depth that a body leaves.**  After any
row of requests, an expression in an answer is the JSON form of what some rules are combined to.  Posted
to be evaluated, on data that is the text of an object, it is read as what it was written from and
answered by its evaluation; nested deeper than the values of a body may be, it is refused as no JSON.
The answer is also the one for a stored rule with the expression, asked for under its identifier. -/
theorem shown_expression_is_accepted_back (policy : Policy) (requests : List (Occasion × Request))
    {response : Response} (hresponse : response ∈ (serveAll (.inMemory policy) requests .fresh).1)
    {body tree : Json} (hbody : response.body = some body) (htree : Shows body tree)
    (hnumbers : ∀ n ∈ tree.numbers, Json.parse? n.text = some (.number n)) :
    ∃ held c rules, combine c rules = .ok held ∧ tree = treeJson held ∧
      (∀ request text dataText, IsObjectText dataText → text ∈ bodiesOf tree dataText →
        Posts request ⟨.evaluate, []⟩ text → ∀ occasion s,
          (tree.depth ≤ valueDepth →
            (∀ data, parseWithin? valueDepth dataText = some data →
              readBody EvaluateRequest.record request = .ok ⟨held, data, false⟩) ∧
            (serve (.inMemory policy) occasion request s).1.Carries (replyTo policy held dataText)) ∧
          (valueDepth < tree.depth →
            readBody EvaluateRequest.record request = .error .notJson ∧
            (serve (.inMemory policy) occasion request s).1.Carries (.ofError (.refused .notJson)))) ∧
      (∀ request part id dataText, IsObjectText dataText →
        Posts request ⟨.evaluateStored, [part]⟩ (objectText [("data", dataText)]) →
        readId part = .ok id → ∀ occasion s rule, s.store.get? id = some rule →
          rule.expr.toJson = tree →
          (serve (.inMemory policy) occasion request s).1.Carries
            (replyTo policy held dataText)) := by
  obtain ⟨-, hshows⟩ := serveAll_ensures (.inMemory policy) requests Session.sound_fresh
  obtain ⟨held, c, rules, hcombine, rfl⟩ := hshows response hresponse body hbody tree htree
  have hheld := wellFormed_of_combine hcombine
  have hreads := fun n hn => Json.readsBack_of_parse? (hnumbers n hn)
  refine ⟨held, c, rules, hcombine, rfl, ?_, ?_⟩
  · intro request text dataText hdata htext hposts occasion s
    have hread := hposts.readBody_evaluateRequest hheld hreads hdata htext
    have hcarries := hposts.carries_evaluate hheld hreads hdata htext (.inMemory policy) occasion s
    constructor
    · intro hdepth
      rw [if_pos hdepth] at hread hcarries
      refine ⟨fun data hparse => ?_, hcarries⟩
      rw [hread, hparse]
    · intro hdepth
      rw [if_neg (Nat.not_le.2 hdepth)] at hread hcarries
      exact ⟨hread, hcarries⟩
  · intro request part id dataText hdata hposts hid occasion s rule hrule hexpr
    have hcarries := hposts.carries_evaluateStored hid hdata policy occasion hrule
    -- the JSON form tells which expression the stored rule holds
    cases held with
    | none => exact absurd hexpr rule.expr.toJson_ne_null
    | some e => rwa [Expr.toJson_injective hexpr] at hcarries

theorem shows_rule (status : Nat) (message : String) (rule : StoredRule) :
    Shows (Reply.success status message rule.toJson).body rule.expr.toJson := ⟨_, rfl, .inl rfl⟩

/-- A rule that is stored and shown is posted back and holds for a record. -/
theorem stored_rule_is_accepted_back :
    let e : Expr := .comparison .gt (.reference "age" none) (.literal (.number 30))
    let data : Json := .object [("age", .number (.integer 41))]
    let create : Request := ⟨"POST", "/api/rules/create", [("content-type", "application/json")],
      objectText [("ruleString", "\"age > 30\"")]⟩
    let post : Request := ⟨"POST", "/api/rules/evaluate", [("content-type", "application/json")],
      objectText [("ast", e.toJson.text), ("data", data.text)]⟩
    let run := serveAll (.inMemory .strict) [(default, create)] .fresh
    ∃ response ∈ run.1, ∃ body, response.body = some body ∧ Shows body e.toJson ∧
      (∀ n ∈ e.toJson.numbers, Json.parse? n.text = some (.number n)) ∧
      (serve (.inMemory .strict) default post run.2).1.Carries
        (.ofData (verdictJson ⟨true, none⟩)) := by
  intro e data create post run
  have hcreate : Posts create ⟨.create, []⟩ (objectText [("ruleString", "\"age > 30\"")]) :=
    ⟨rfl, by decide +kernel, by decide +kernel, rfl, by decide +kernel⟩
  have hread : readBody Service.CreateRequest.record create = .ok ⟨"age > 30"⟩ := by decide +kernel
  have hparse : parse "age > 30" = .ok e := by decide +kernel
  obtain ⟨-, hbody⟩ := hcreate.carries_create hread rfl hparse .strict default .fresh
  have hmem : (serve (.inMemory .strict) default create .fresh).1 ∈ run.1 := by
    rw [show run = serveAll (.inMemory .strict) [(default, create)] .fresh from rfl, serveAll_cons]
    exact List.mem_cons_self
  have hshows : Shows _ e.toJson := shows_rule 201 "规则已创建"
    ⟨(default : Occasion).ruleId, "age > 30", e, (default : Occasion).time⟩
  have hnumbers : ∀ n ∈ e.toJson.numbers, Json.parse? n.text = some (.number n) := by
    intro n hn
    obtain rfl := List.mem_singleton.1 hn
    exact Json.parse?_number_iff.2 (by decide +kernel)
  have hdata : ∀ n ∈ data.numbers, n.ReadsBack := by
    intro n hn
    obtain rfl := List.mem_singleton.1 hn
    decide +kernel
  have hsize : (objectText [("ast", e.toJson.text), ("data", data.text)]).utf8ByteSize ≤
      maxBodySize := by
    simp only [objectText, Json.writeTexts, Json.text, String.toList_ofList,
      String.utf8ByteSize_ofList]
    decide +kernel
  have hpost : Posts post ⟨.evaluate, []⟩ (objectText [("ast", e.toJson.text), ("data", data.text)]) :=
    ⟨rfl, by decide +kernel, by decide +kernel, rfl, hsize⟩
  obtain ⟨held, _, _, _, htree, hposted, -⟩ := shown_expression_is_accepted_back .strict
    [(default, create)] hmem hbody hshows hnumbers
  obtain ⟨-, hcarries⟩ := (hposted post _ data.text (Json.isObjectText_text hdata)
    List.mem_cons_self hpost default run.2).1 (by decide)
  obtain rfl : held = some e := by
    cases held with
    | none => exact absurd htree e.toJson_ne_null
    | some e' => rw [Expr.toJson_injective htree]
  have hverdict : e.tryEvaluate .strict data.normalize = .ok true := by decide +kernel
  have hreply : evaluationReply .strict (some e) data.normalize =
      .ofData (verdictJson ⟨true, none⟩) := by
    rw [evaluationReply.eq_def]
    simp only [hverdict]
  rw [replyTo, Json.parseWithin?_text hdata, if_pos (by decide)] at hcarries
  exact ⟨_, hmem, _, hbody, hshows, hnumbers, hreply ▸ hcarries⟩

end Rulebook.Http
