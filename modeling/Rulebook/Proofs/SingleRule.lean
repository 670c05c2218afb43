/-
**A rule on its own.**

A rule can be posted to be stored, or to be combined with no other.  Either way it is read by the same
reader, and the answer shows what it is read as or at which place it is no rule.  What differs is how a
rule is measured before it is read: one way by its characters, the other by its bytes.  The limit is the
same number, so a rule that keeps it in characters and not in bytes is read by the one and refused by
the other.  Every other rule is answered alike.

Main definitions:

* `Rulebook.Service.LongInBytes` — a rule that keeps the limit in characters and not in bytes;
* `Rulebook.Http.Request.PostsJson` — a request that posts a JSON value, spelled in any way;
* `Rulebook.Http.createAnswer`, `Rulebook.Http.combineAnswer` — what is answered to a rule;
* `Rulebook.Http.AnsweredAlike` — two answers to a rule that agree.

Main results:

* `Rulebook.Http.answeredAlike_iff` — the two answers agree unless a rule is long in bytes;
* `Rulebook.Http.single_rule_is_answered_alike` — **so do the two responses**;
* `Rulebook.Http.postsJson_postJson` — a value that is written posts itself.
-/

import Rulebook.Proofs.Ledger
import Rulebook.Proofs.Rendering
import Rulebook.Proofs.RequestBody

set_option autoImplicit false

open String (utf8ByteSize_ofList utf8Len utf8Len_append utf8Len_cons utf8Len_toList)

namespace Rulebook

/-! ### Characters and bytes -/

/-- A character takes between one and four bytes. -/
theorem utf8Len_bounds (cs : List Char) : cs.length ≤ utf8Len cs ∧ utf8Len cs ≤ 4 * cs.length := by
  induction cs with
  | nil => exact ⟨Nat.le_refl _, Nat.le_refl _⟩
  | cons c cs ih =>
      have hpos := c.utf8Size_pos
      have hfour := c.utf8Size_le_four
      rw [List.length_cons, utf8Len_cons]
      omega

theorem utf8ByteSize_bounds (s : String) :
    s.length ≤ s.utf8ByteSize ∧ s.utf8ByteSize ≤ 4 * s.length := by
  rw [← String.length_toList, ← utf8Len_toList]
  exact utf8Len_bounds s.toList

end Rulebook

namespace Rulebook.Json

/-! ### Values that are written -/

theorem length_escape_le (c : Char) : (escape c).length ≤ 6 := by
  by_cases hcontrol : c.toNat < 0x20
  · rcases escape_control hcontrol with ⟨e, he, -⟩ | ⟨a, b, he, -⟩ <;> simp [he]
  · by_cases hquote : c = '"'
    · subst hquote
      decide
    by_cases hbackslash : c = '\\'
    · subst hbackslash
      decide
    · simp [escape_plain hquote hbackslash hcontrol]

theorem length_writeString_le (s : String) (rest : List Char) :
    (writeString s rest).length ≤ 6 * s.length + rest.length + 2 := by
  have hfold (text : List Char) : (text.foldr (fun c cs => escape c ++ cs) ('"' :: rest)).length ≤
      6 * text.length + rest.length + 1 := by
    induction text with
    | nil => exact Nat.le_of_eq (by simp)
    | cons c text ih =>
        have hescape := length_escape_le c
        rw [List.foldr_cons, List.length_append, List.length_cons]
        omega
  have hlength := hfold s.toList
  rw [String.length_toList] at hlength
  rw [writeString, List.length_cons]
  omega

/-- The text of a value that is not nested too deep says the value. -/
theorem ofText_text {v : Json} (hnumbers : ∀ n ∈ v.numbers, n.ReadsBack)
    (hdepth : v.depth ≤ Document.maxDepth) : Document.ofText v.text = (v.toDocument, true) := by
  rw [← clip_eq_toDocument v hdepth]
  exact (yields_text hnumbers Document.maxDepth).ofText_eq

end Rulebook.Json

namespace Rulebook.Service

/-! ### Limits -/

/-- A rule that keeps the limit in characters and not in bytes. -/
def LongInBytes (rule : String) : Prop :=
  rule.length ≤ maxRuleLength ∧ maxRuleLength < rule.utf8ByteSize

theorem CreateRequest.faults_eq (rule : String) :
    (CreateRequest.mk rule).faults =
      if 1 ≤ rule.length ∧ rule.length ≤ maxRuleLength then []
      else [[⟨"rule_string", [.ruleLength]⟩]] := by
  have hbroken : (rule.length < 1 || maxRuleLength < rule.length) = true ↔
      ¬(1 ≤ rule.length ∧ rule.length ≤ maxRuleLength) := by
    rw [Bool.or_eq_true, decide_eq_true_iff, decide_eq_true_iff]
    omega
  rw [CreateRequest.faults, problemIf]
  by_cases hkeeps : 1 ≤ rule.length ∧ rule.length ≤ maxRuleLength
  · rw [if_pos hkeeps, if_neg (fun h => hbroken.1 h hkeeps)]
    rfl
  · rw [if_neg hkeeps, if_pos (hbroken.2 hkeeps)]
    rfl

theorem CombineRequest.keepsLength_iff (rule : String) :
    CombineRequest.keepsLength rule = true ↔
      1 ≤ rule.length ∧ rule.utf8ByteSize ≤ maxRuleLength := by
  rw [CombineRequest.keepsLength, Bool.and_eq_true, bne_iff_ne, decide_eq_true_iff,
    Nat.one_le_iff_ne_zero, ne_eq, ne_eq, String.length_eq_zero_iff]

theorem CombineRequest.faults_singleton (rule : String) (c : Connective) :
    (CombineRequest.mk [rule] c).faults =
      if 1 ≤ rule.length ∧ rule.utf8ByteSize ≤ maxRuleLength then []
      else [[⟨"rules", [.someRuleLength]⟩]] := by
  simp only [← CombineRequest.keepsLength_iff]
  cases hkeeps : CombineRequest.keepsLength rule <;>
    simp [CombineRequest.faults, hkeeps, problemIf, faultLine, maxCount]

end Rulebook.Service

namespace Rulebook.Http

open Json (Document ReadError Record)
open Service (Action CombineRequest Complaint CreateRequest Error LongInBytes Occasion Session Setup
  maxRuleLength)

/-! ### What is answered to a rule -/

/-- The answer to a rule that is read: what is shown of it, or at which place it is no rule. -/
def readAnswer (rule : String) (shown : Expr → Reply) : Reply :=
  match parse rule with
  | .ok e => shown e
  | .error error => .ofError (.malformedRule error.report)

theorem readAnswer_of_ok {rule : String} {e : Expr} (h : parse rule = .ok e)
    (shown : Expr → Reply) : readAnswer rule shown = shown e := by
  rw [readAnswer, h]

/-- The answer to a rule that is posted to be stored. -/
def createAnswer (occasion : Occasion) (rule : String) : Reply :=
  if 1 ≤ rule.length ∧ rule.length ≤ maxRuleLength then
    readAnswer rule fun e => createdReply ⟨occasion.ruleId, rule, e, occasion.time⟩
  else .ofError (.refused (.fields [[⟨"rule_string", [.ruleLength]⟩]]))

/-- The answer to a rule that is posted to be combined with no other. -/
def combineAnswer (rule : String) : Reply :=
  if 1 ≤ rule.length ∧ rule.utf8ByteSize ≤ maxRuleLength then
    readAnswer rule fun e => .ofData (combinationJson (some e))
  else .ofError (.refused (.fields [[⟨"rules", [.someRuleLength]⟩]]))

theorem ofResult_create {setup : Setup} (hinsert : setup.storeFailure .insert = none)
    (occasion : Occasion) (rule : String) (s : Session) :
    Reply.ofResult (((Service.create setup occasion ⟨rule⟩).run s).1.map createdReply) =
      createAnswer occasion rule := by
  have hreach : Service.reachStore setup .insert = pure () := by rw [Service.reachStore, hinsert]
  rw [Service.create, Service.keepLimits, CreateRequest.faults_eq, createAnswer]
  by_cases hlength : 1 ≤ rule.length ∧ rule.length ≤ maxRuleLength
  · rw [if_pos hlength, if_pos hlength, if_pos rfl, pure_bind, readAnswer, Service.readRule, hreach]
    cases parse rule with
    | error error => rfl
    | ok e =>
        -- counting the rules after one is stored changes nothing that is answered
        rw [Service.measureRuleCount]
        cases setup.storeFailure .count <;> rfl
  · rw [if_neg hlength, if_neg hlength]
    rfl

theorem ofResult_combineRules (rule : String) (c : Connective) (s : Session) :
    Reply.ofResult (((Service.combineRules ⟨[rule], c⟩).run s).1.map fun e =>
      .ofData (combinationJson e)) = combineAnswer rule := by
  have hcombine : combine c [rule] = (parse rule).map some := by
    rw [combine, List.mapM_cons, List.mapM_nil]
    cases parse rule <;> rfl
  rw [Service.combineRules, Service.keepLimits, CombineRequest.faults_singleton, combineAnswer]
  by_cases hlength : 1 ≤ rule.length ∧ rule.utf8ByteSize ≤ maxRuleLength
  · rw [if_pos hlength, if_pos hlength, if_pos rfl, pure_bind, readAnswer, hcombine]
    cases parse rule <;> rfl
  · rw [if_neg hlength, if_neg hlength]
    rfl

/-! ### Answers that agree -/

/-- The answers to a rule that is posted to be stored and to be combined agree. -/
inductive AnsweredAlike (rule : String) : Reply → Reply → Prop
  /-- Both show the same expression. -/
  | shown (e : Expr) (id : Uuid) (time : Timestamp) :
      AnsweredAlike rule (createdReply ⟨id, rule, e, time⟩) (.ofData (combinationJson (some e)))
  /-- Both tell the same place and the same reason. -/
  | malformed (report : ParseReport) :
      AnsweredAlike rule (.ofError (.malformedRule report)) (.ofError (.malformedRule report))
  /-- Both refuse a rule that is empty or has too many characters. -/
  | refused (broken : ¬(1 ≤ rule.length ∧ rule.length ≤ maxRuleLength))
      (first second : Complaint) :
      AnsweredAlike rule (.ofError (.refused first)) (.ofError (.refused second))

theorem answeredAlike_readAnswer (occasion : Occasion) (rule : String) :
    AnsweredAlike rule
      (readAnswer rule fun e => createdReply ⟨occasion.ruleId, rule, e, occasion.time⟩)
      (readAnswer rule fun e => .ofData (combinationJson (some e))) := by
  rw [readAnswer, readAnswer]
  cases parse rule with
  | ok e => exact .shown e _ _
  | error error => exact .malformed _

/-- An answer that agrees with a refusal is a refusal of a rule that breaks the limit. -/
theorem AnsweredAlike.broken_of_refused {rule : String} {created : Reply} {complaint : Complaint}
    (h : AnsweredAlike rule created (.ofError (.refused complaint))) :
    ¬(1 ≤ rule.length ∧ rule.length ≤ maxRuleLength) := by
  generalize hcombined : Reply.ofError (.refused complaint) = combined at h
  cases h with
  | shown e =>
      have hstatus : (Error.refused complaint).status = 200 := congrArg Reply.status hcombined
      exact absurd hstatus (status_error_ne _).1
  | malformed report => simp [Reply.ofError, Error.toJson, Error.code] at hcombined
  | refused broken => exact broken

/-- **The answers agree unless the rule is long in bytes.** -/
theorem answeredAlike_iff (occasion : Occasion) (rule : String) :
    AnsweredAlike rule (createAnswer occasion rule) (combineAnswer rule) ↔ ¬LongInBytes rule := by
  obtain ⟨hfewest, hmost⟩ := utf8ByteSize_bounds rule
  rw [createAnswer, combineAnswer, LongInBytes]
  by_cases hkeeps : 1 ≤ rule.length ∧ rule.length ≤ maxRuleLength
  · rw [if_pos hkeeps]
    by_cases hfew : rule.utf8ByteSize ≤ maxRuleLength
    · rw [if_pos ⟨hkeeps.1, hfew⟩]
      exact iff_of_true (answeredAlike_readAnswer occasion rule) (by omega)
    · rw [if_neg (fun h => hfew h.2)]
      exact iff_of_false (fun h => h.broken_of_refused hkeeps) (by omega)
  · rw [if_neg hkeeps, if_neg (by omega)]
    -- a rule that breaks the limit in characters has too many of them, or else no bytes either
    refine iff_of_true (.refused hkeeps _ _) ?_
    omega

/-- A rule that is long in bytes is read where it is stored, and refused where it is combined. -/
theorem answers_of_longInBytes (occasion : Occasion) {rule : String} (h : LongInBytes rule) :
    createAnswer occasion rule =
        readAnswer rule (fun e => createdReply ⟨occasion.ruleId, rule, e, occasion.time⟩) ∧
      combineAnswer rule = .ofError (.refused (.fields [[⟨"rules", [.someRuleLength]⟩]])) := by
  obtain ⟨hfew, hmany⟩ := h
  obtain ⟨-, hmost⟩ := utf8ByteSize_bounds rule
  exact ⟨if_pos (by omega), if_neg (by omega)⟩

/-! ### Requests that post a value -/

/-- A request that posts a JSON value to a route; the body may spell the value in any way. -/
structure Request.PostsJson (request : Request) (route : Route) (value : Json) : Prop where
  asks : request.Asks "POST" route
  saysJson_eq : saysJson request = true
  ofText_eq : Document.ofText request.body = (value.toDocument, true)

/-- The value that is posted to have a rule stored. -/
def createBody (rule : String) : Json := .object [("ruleString", .string rule)]

/-- The value that is posted to have a rule combined with no other. -/
def combineBody (rule : String) : Json := .object [("rules", .array [.string rule])]

theorem read_createBody (rule : String) :
    CreateRequest.record.read Json.inText (createBody rule).toDocument = .ok ⟨rule⟩ := by
  simp [createBody, CreateRequest.record, Json.toDocument, Json.membersToDocument, Record.read,
    Json.inText, Record.readContents, Record.readMembers, Record.locate, Record.finished,
    Document.readable, Document.hasTextKeys, Json.ending, Json.required, Document.readString, bind,
    Except.bind, pure, Except.pure]

theorem read_combineBody (rule : String) :
    CombineRequest.record.read Json.inText (combineBody rule).toDocument = .ok ⟨[rule], .and⟩ := by
  simp [combineBody, CombineRequest.record, Json.toDocument, Json.membersToDocument,
    Json.itemsToDocument, Record.read, Json.inText, Record.readContents, Record.readMembers,
    Record.locate, Record.finished, Document.readable, Document.hasTextKeys, Json.ending, Json.required,
    Document.readList, Document.readList.go, Document.readString, bind, Except.bind, pure, Except.pure,
    Except.map]

/-- The answer to a body, which is refused when it is too long. -/
def Request.sizedAnswer (request : Request) (answer : Reply) : Reply :=
  if maxBodySize < request.body.utf8ByteSize then .ofError (.refused .bodySize) else answer

theorem Request.sizedAnswer_of_le {request : Request} (h : request.body.utf8ByteSize ≤ maxBodySize)
    (answer : Reply) : request.sizedAnswer answer = answer := if_neg (Nat.not_lt.2 h)

theorem Request.exists_sizedAnswer_refused (request : Request) (complaint : Complaint) :
    ∃ c, request.sizedAnswer (.ofError (.refused complaint)) = .ofError (.refused c) := by
  rw [sizedAnswer]
  split
  · exact ⟨_, rfl⟩
  · exact ⟨_, rfl⟩

section Responses

variable {request : Request} {route : Route} {value : Json}

/-- What is read of a body is what its value says, unless the body is too long. -/
theorem Request.PostsJson.readBody_eq {σ τ : Type} (h : request.PostsJson route value)
    (record : Record ReadError Document σ τ) :
    readBody record request =
      if maxBodySize < request.body.utf8ByteSize then .error .bodySize
      else (record.read Json.inText value.toDocument).mapError Complaint.ofReadError := by
  rw [readBody, h.saysJson_eq, readText, h.ofText_eq]
  simp only [Bool.not_true, Bool.false_eq_true, if_false]
  cases record.read Json.inText value.toDocument <;> rfl

/-- The response where what a route does is to read a record off the body and to show what comes of
it. -/
theorem Request.PostsJson.carries_read {σ τ α : Type} (h : request.PostsJson route value)
    (hroute : "POST" ∈ route.methods) {record : Record ReadError Document σ τ} {t : τ}
    (hread : record.read Json.inText value.toDocument = .ok t) {setup : Setup} {occasion : Occasion}
    {x : τ → Action α} {shown : α → Reply}
    (hhandle : ∀ ids, handle setup occasion request ⟨route, ids⟩ = do
      let body ← accept (readBody record request)
      return shown (← x body)) (s : Session) :
    (serve setup occasion request s).1.Carries
      (request.sizedAnswer (.ofResult (((x t).run s).1.map shown))) := by
  obtain ⟨hmethod, ids, hpath⟩ := h.asks
  have hcarries := serve_carries setup occasion hpath (hmethod ▸ hroute) (by rw [hmethod]; decide) s
  rw [hhandle, h.readBody_eq, hread] at hcarries
  rw [Request.sizedAnswer]
  by_cases hsize : maxBodySize < request.body.utf8ByteSize
  · rw [if_pos hsize] at hcarries ⊢
    exact hcarries
  · rw [if_neg hsize] at hcarries ⊢
    rw [← Service.fst_run_bind_pure]
    exact hcarries

/-- The response to a rule that is posted to be stored. -/
theorem Request.PostsJson.carries_create {rule : String}
    (h : request.PostsJson .create (createBody rule)) {setup : Setup}
    (hinsert : setup.storeFailure .insert = none) (occasion : Occasion) (s : Session) :
    (serve setup occasion request s).1.Carries
      (request.sizedAnswer (createAnswer occasion rule)) := by
  rw [← ofResult_create hinsert occasion rule s]
  exact h.carries_read (by decide) (read_createBody rule) (fun _ => rfl) s

/-- The response to a rule that is posted to be combined with no other. -/
theorem Request.PostsJson.carries_combine {rule : String}
    (h : request.PostsJson .combine (combineBody rule)) (setup : Setup) (occasion : Occasion)
    (s : Session) :
    (serve setup occasion request s).1.Carries (request.sizedAnswer (combineAnswer rule)) := by
  rw [← ofResult_combineRules rule .and s]
  exact h.carries_read (by decide) (read_combineBody rule) (fun _ => rfl) s

/-- **A rule on its own is answered alike, unless it is long in bytes.**  Let a rule be posted to be
stored, where the store takes it, and be posted to be combined with no other; each body may spell it in
any way, but not in more bytes than a body may have when the rule itself is short enough.  Then both
answers show the same expression, or both tell the same place and reason at which it is no rule, or both
refuse a rule that is empty or has too many characters — if and only if it is not a rule that keeps the
limit in characters and exceeds it in bytes.  Such a rule is read where it is stored, and refused for
its length where it is combined. -/
theorem single_rule_is_answered_alike {setup : Setup} (hinsert : setup.storeFailure .insert = none)
    {rule : String} {create combination : Request}
    (hcreate : create.PostsJson .create (createBody rule))
    (hcombine : combination.PostsJson .combine (combineBody rule))
    (hsize : rule.length ≤ maxRuleLength →
      create.body.utf8ByteSize ≤ maxBodySize ∧ combination.body.utf8ByteSize ≤ maxBodySize)
    (occasion occasion' : Occasion) (s s' : Session) :
    ∃ created combined,
      (serve setup occasion create s).1.Carries created ∧
      (serve setup occasion' combination s').1.Carries combined ∧
      (AnsweredAlike rule created combined ↔ ¬LongInBytes rule) ∧
      (LongInBytes rule →
        created = readAnswer rule (fun e => createdReply ⟨occasion.ruleId, rule, e, occasion.time⟩) ∧
        combined = .ofError (.refused (.fields [[⟨"rules", [.someRuleLength]⟩]]))) := by
  refine ⟨_, _, hcreate.carries_create hinsert occasion s,
    hcombine.carries_combine setup occasion' s', ?_⟩
  by_cases hfew : rule.length ≤ maxRuleLength
  · rw [Request.sizedAnswer_of_le (hsize hfew).1, Request.sizedAnswer_of_le (hsize hfew).2]
    exact ⟨answeredAlike_iff occasion rule, answers_of_longInBytes occasion⟩
  · -- too many characters: each of the two refuses the rule, or the body before it reads the rule
    obtain ⟨hfewest, -⟩ := utf8ByteSize_bounds rule
    have hlong : ¬LongInBytes rule := fun h => hfew h.1
    rw [createAnswer, combineAnswer, if_neg (fun h => hfew h.2), if_neg (by omega)]
    obtain ⟨first, hfirst⟩ := create.exists_sizedAnswer_refused _
    obtain ⟨second, hsecond⟩ := combination.exists_sizedAnswer_refused _
    rw [hfirst, hsecond]
    exact ⟨iff_of_true (.refused (fun h => hfew h.2) _ _) hlong, fun h => absurd h hlong⟩

end Responses

/-! ### Values that are written into a request -/

/-- The request that posts the text of a value. -/
def postJson (target : String) (value : Json) : Request :=
  ⟨"POST", target, [("content-type", "application/json")], value.text⟩

/-- **A value that is written posts itself.** -/
theorem postsJson_postJson {target : String} {route : Route} {value : Json}
    (hroute : ∃ ids, locate? (Request.path ⟨"POST", target, [], ""⟩) = some ⟨route, ids⟩)
    (hnumbers : ∀ n ∈ value.numbers, n.ReadsBack) (hdepth : value.depth ≤ Document.maxDepth) :
    (postJson target value).PostsJson route value := by
  have hjson : saysJson ⟨"", "", [("content-type", "application/json")], ""⟩ = true := by
    decide +kernel
  exact ⟨⟨rfl, hroute⟩, hjson, Json.ofText_text hnumbers hdepth⟩

theorem postsJson_create (rule : String) :
    (postJson "/api/rules/create" (createBody rule)).PostsJson .create (createBody rule) :=
  postsJson_postJson ⟨[], by decide +kernel⟩ (fun _ hn => nomatch hn)
    (show 1 + max 0 0 ≤ Document.maxDepth by decide)

theorem postsJson_combine (rule : String) :
    (postJson "/api/rules/combine" (combineBody rule)).PostsJson .combine (combineBody rule) :=
  postsJson_postJson ⟨[], by decide +kernel⟩ (fun _ hn => nomatch hn)
    (show 1 + max (1 + max 0 0) 0 ≤ Document.maxDepth by decide)

/-- A rule that is not too long has room in a body that is written for it. -/
theorem size_le_maxBodySize (target target' : String) {rule : String}
    (h : rule.length ≤ maxRuleLength) :
    (postJson target (createBody rule)).body.utf8ByteSize ≤ maxBodySize ∧
      (postJson target' (combineBody rule)).body.utf8ByteSize ≤ maxBodySize := by
  have hlength (key : String) (before after : List Char) :
      (String.ofList ('{' :: Json.writeString key
        (before ++ Json.writeString rule after))).utf8ByteSize ≤
        4 * (6 * key.length + 6 * rule.length + before.length + after.length + 5) := by
    have hkey := Json.length_writeString_le key (before ++ Json.writeString rule after)
    have hrule := Json.length_writeString_le rule after
    rw [List.length_append] at hkey
    refine Nat.le_trans (utf8ByteSize_bounds _).2 (Nat.mul_le_mul_left 4 ?_)
    rw [String.length_ofList, List.length_cons]
    omega
  have hcreate : (createBody rule).text.utf8ByteSize ≤ 4 * (6 * 10 + 6 * rule.length + 1 + 1 + 5) :=
    hlength "ruleString" [':'] ['}']
  have hcombine : (combineBody rule).text.utf8ByteSize ≤ 4 * (6 * 5 + 6 * rule.length + 2 + 2 + 5) :=
    hlength "rules" [':', '['] [']', '}']
  rw [maxRuleLength] at h
  simp only [postJson, maxBodySize]
  omega

/-- A condition that compares with a text of characters that take many bytes each. -/
def wideCondition (n : Nat) : Expr :=
  .comparison .eq (.reference "team" none) (.literal (.string (String.ofList (List.replicate n '😀'))))

theorem write_wideCondition (n : Nat) :
    (wideCondition n).write = "team == \"".toList ++ (List.replicate n '😀' ++ ['"']) := by
  have hescape : (List.replicate n '😀').flatMap Scalar.escape = List.replicate n '😀' := by
    induction n with
    | zero => rfl
    | succ n ih =>
        rw [List.replicate_succ, List.flatMap_cons, ih]
        rfl
  have hquote : Scalar.write (.string (String.ofList (List.replicate n '😀'))) =
      '"' :: (List.replicate n '😀' ++ ['"']) := by
    rw [Scalar.write, Scalar.quote, String.toList_ofList, hescape]
    rfl
  rw [wideCondition, Expr.write, Expr.write, Expr.write, hquote]
  rfl

theorem utf8Len_replicate (n : Nat) : utf8Len (List.replicate n '😀') = 4 * n := by
  induction n with
  | zero => rfl
  | succ n ih =>
      rw [List.replicate_succ, utf8Len_cons, ih, show '😀'.utf8Size = 4 from rfl]
      omega

/-- Its text takes more bytes than a rule may, long before it has as many characters. -/
theorem longInBytes_wideCondition {n : Nat} (hmany : 1022 ≤ n) (hfew : n ≤ 4086) :
    LongInBytes (wideCondition n).render := by
  have hlength : (wideCondition n).render.length = n + 10 := by
    rw [Expr.render, String.length_ofList, write_wideCondition]
    simp
  have hbytes : (wideCondition n).render.utf8ByteSize = 4 * n + 10 := by
    rw [Expr.render, utf8ByteSize_ofList, write_wideCondition, utf8Len_append, utf8Len_append,
      utf8Len_replicate, show utf8Len "team == \"".toList = 9 from rfl,
      show utf8Len ['"'] = 1 from rfl]
    omega
  rw [LongInBytes, hlength, hbytes, maxRuleLength]
  omega

theorem parse_wideCondition (n : Nat) : parse (wideCondition n).render = .ok (wideCondition n) := by
  have hteam : IsWord "team".toList := isWord_of_all rfl (by decide) (by decide) (by decide)
  refine Expr.parse_render_of_leftNested ⟨rfl, ?_⟩
    (Expr.leftNested_condition .eq (.reference none (by decide)) _) ?_
  · simp only [wideCondition, Expr.nodes, List.cons_append, List.nil_append, List.forall_mem_cons,
      Expr.Clean, List.not_mem_nil, false_implies, implies_true, and_true, hteam]
  · simp only [wideCondition, Expr.NumbersReadBack, Expr.nodes, List.cons_append, List.nil_append,
      List.forall_mem_cons, Expr.ReadsBack, List.not_mem_nil, false_implies, implies_true, and_true]

/-- The condition is stored and shown, but refused for its length where it is combined. -/
theorem wide_condition_is_only_stored :
    let rule := (wideCondition 1024).render
    (serve (.inMemory .strict) default (postJson "/api/rules/create" (createBody rule))
        .fresh).1.Carries (createdReply ⟨default, rule, wideCondition 1024, default⟩) ∧
      (serve (.inMemory .strict) default (postJson "/api/rules/combine" (combineBody rule))
        .fresh).1.Carries (.ofError (.refused (.fields [[⟨"rules", [.someRuleLength]⟩]]))) := by
  intro rule
  have hinsert : (Setup.inMemory .strict).storeFailure .insert = none := rfl
  have hlong : LongInBytes rule := longInBytes_wideCondition (by decide) (by decide)
  obtain ⟨created, combined, hcreated, hcombined, -, hanswers⟩ :=
    single_rule_is_answered_alike hinsert (postsJson_create rule) (postsJson_combine rule)
      (size_le_maxBodySize _ _) default default .fresh .fresh
  obtain ⟨hread, hrefused⟩ := hanswers hlong
  have hshown : created = createdReply ⟨default, rule, wideCondition 1024, default⟩ :=
    hread.trans (readAnswer_of_ok (parse_wideCondition 1024) _)
  exact ⟨hshown ▸ hcreated, hrefused ▸ hcombined⟩

end Rulebook.Http
