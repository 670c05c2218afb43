/-
**Tracing changes no verdict.**

Two requests for an evaluation may differ in nothing but whether they ask for a trace.  Their bodies are
then read alike, up to that choice; what is read runs alike; and so both are answered with the same
failure or with the same verdict, and leave the service as it would be left by the other.

Main definitions:

* `Rulebook.Json.Record.TracesAt` — a record whose `n`-th field is the truth value `trace`;
* `Rulebook.Json.Retraced` — documents that differ in the truth values that they give as `trace`;
* `Rulebook.Service.RunsAlike` — operations that leave the same session and agree;
* `Rulebook.Http.Request.AsksAgain` — a body that asks for the same evaluation again.

Main results:

* `Rulebook.Json.Record.TracesAt.agree_read` — such documents are read alike;
* `Rulebook.Service.runsAlike_evaluate`, `Rulebook.Service.runsAlike_evaluateStored` — and run alike;
* `Rulebook.Http.tracing_changes_no_verdict` — **tracing changes no verdict**.
-/

import Rulebook.Proofs.Recording
import Rulebook.Proofs.SingleRule

set_option autoImplicit false

namespace Rulebook.Json

/-! ### Records that are read alike -/

section Records

variable {ε α σ : Type} {src : Source ε α} {R : σ → σ → Prop}

/-- A field reads two values alike: from parts that are related it fails alike, or gives parts that are
related again. -/
def Field.ReadsAlike (R : σ → σ → Prop) (f : Field ε α σ) (v v' : α) : Prop :=
  ∀ s s', R s s' → Agree R (f.read v s) (f.read v' s')

theorem agree_locate (src : Source ε α) (step : Step) {x y : Except ε σ} (h : Agree R x y) :
    Agree R (Record.locate src step x) (Record.locate src step y) := by
  cases h with
  | error e => exact .error _
  | ok h => exact .ok h

/-- Two members with one key that are passed over alike and read alike by the field of that name. -/
structure MembersAlike (src : Source ε α) (R : σ → σ → Prop) (fields : List (Field ε α σ))
    (m m' : String × α) : Prop where
  key : m.1 = m'.1
  skip : src.skip m.2 = src.skip m'.2
  read : ∀ f ∈ fields, f.name = m.1 → f.ReadsAlike R m.2 m'.2

/-- Members that are alike one by one are read alike. -/
theorem agree_readMembers {fields : List (Field ε α σ)}
    (hset : ∀ f ∈ fields, ∀ s s', R s s' → f.isSet s = f.isSet s') {ms ms' : List (String × α)}
    (h : List.Forall₂ (MembersAlike src R fields) ms ms') {s s' : σ} (hs : R s s') :
    Agree R (Record.readMembers src fields ms s) (Record.readMembers src fields ms' s') := by
  induction h generalizing s s' with
  | nil => exact .ok hs
  | @cons m m' ms ms' hm _ ih =>
      obtain ⟨key, v⟩ := m
      obtain ⟨key', v'⟩ := m'
      obtain ⟨rfl, hskip, hread⟩ := hm
      rw [Record.readMembers, Record.readMembers]
      cases hfind : fields.find? fun f => f.name == key with
      | none =>
          simp only at hskip ⊢
          rw [← hskip]
          cases src.skip v with
          | error e => exact .error e
          | ok u => exact ih hs
      | some f =>
          have hmem := List.mem_of_find?_eq_some hfind
          have hname : f.name = key := by simpa using List.find?_some hfind
          simp only
          rw [hset f hmem s s' hs]
          cases f.isSet s' with
          | true => exact .error _
          | false =>
              have hlocated := agree_locate src (.key key) (hread f hmem hname s s' hs)
              simp only [Bool.false_eq_true, if_false]
              generalize Record.locate src (.key key) (f.read v s) = x at hlocated ⊢
              generalize Record.locate src (.key key) (f.read v' s') = y at hlocated ⊢
              cases hlocated with
              | error e => exact .error e
              | ok hnext => exact ih hnext

variable {tooShort : Nat → Fault} {ending : Except ε Unit}

theorem agree_readItems_cons {f : Field ε α σ} {fields : List (Field ε α σ)} {v v' : α}
    {rest rest' : List α} {n : Nat} {s s' : σ} (hf : Agree R (f.read v s) (f.read v' s'))
    (hrest : ∀ t t', R t t' →
      Agree R (Record.readItems src tooShort ending (n + 1) fields rest t)
        (Record.readItems src tooShort ending (n + 1) fields rest' t')) :
    Agree R (Record.readItems src tooShort ending n (f :: fields) (v :: rest) s)
      (Record.readItems src tooShort ending n (f :: fields) (v' :: rest') s') := by
  have hlocated := agree_locate src (.index n) hf
  rw [Record.readItems, Record.readItems]
  generalize Record.locate src (.index n) (f.read v s) = x at hlocated ⊢
  generalize Record.locate src (.index n) (f.read v' s') = y at hlocated ⊢
  cases hlocated with
  | error e => exact .error e
  | ok hnext => exact hrest _ _ hnext

/-- Items are read alike from parts that are related. -/
theorem agree_readItems {fields : List (Field ε α σ)}
    (hread : ∀ f ∈ fields, ∀ v, f.ReadsAlike R v v) (n : Nat) (items : List α) {s s' : σ}
    (hs : R s s') :
    Agree R (Record.readItems src tooShort ending n fields items s)
      (Record.readItems src tooShort ending n fields items s') := by
  induction fields generalizing n items s s' with
  | nil =>
      cases items with
      | nil =>
          rw [Record.readItems, Record.readItems]
          cases ending with
          | error e => exact .error e
          | ok u => exact .ok hs
      | cons v rest => exact .error _
  | cons f fields ih =>
      obtain ⟨hf, hfields⟩ := List.forall_mem_cons.1 hread
      cases items with
      | nil =>
          rw [Record.readItems.eq_def, Record.readItems.eq_def]
          dsimp only
          cases ending with
          | error e => exact .error e
          | ok u =>
              dsimp only
              split
              · exact ih hfields n [] hs
              · exact .error _
      | cons v rest =>
          exact agree_readItems_cons (hf v s s' hs) fun t t' ht => ih hfields (n + 1) rest ht

/-- So are items that differ at the place of one field, if that field reads the two alike. -/
theorem agree_readItems_at {before after : List (Field ε α σ)} {f : Field ε α σ}
    (hread : ∀ g ∈ before ++ f :: after, ∀ v, g.ReadsAlike R v v) {v v' : α}
    (hf : f.ReadsAlike R v v') {front rest : List α} (hlength : front.length = before.length)
    (n : Nat) {s s' : σ} (hs : R s s') :
    Agree R (Record.readItems src tooShort ending n (before ++ f :: after) (front ++ v :: rest) s)
      (Record.readItems src tooShort ending n (before ++ f :: after) (front ++ v' :: rest) s') := by
  induction before generalizing front n s s' with
  | nil =>
      obtain rfl := List.length_eq_zero_iff.1 hlength
      exact agree_readItems_cons (hf s s' hs) fun t t' ht =>
        agree_readItems (List.forall_mem_cons.1 hread).2 (n + 1) rest ht
  | cons g before ih =>
      cases front with
      | nil => cases hlength
      | cons w front =>
          obtain ⟨hg, hothers⟩ := List.forall_mem_cons.1 hread
          exact agree_readItems_cons (hg w s s' hs) fun t t' ht =>
            ih hothers (Nat.succ.inj hlength) (n + 1) ht

end Records

/-! ### Bodies that differ in the trace they ask for -/

/-- A record whose `n`-th field is the truth value `trace`, with relations on its parts and on what it
is read as that do not look at that value. -/
structure Record.TracesAt {σ τ : Type} (r : Record ReadError Document σ τ) (R : σ → σ → Prop)
    (S : τ → τ → Prop) (n : Nat) : Prop where
  start : R r.start r.start
  isSet : ∀ f ∈ r.fields, ∀ s s', R s s' → f.isSet s = f.isSet s'
  reads : ∀ f ∈ r.fields, ∀ d, f.ReadsAlike R d d
  readsTrace : ∀ f ∈ r.fields, f.name = "trace" → ∀ b b', f.ReadsAlike R (.bool b) (.bool b')
  position : ∃ before f after, r.fields = before ++ f :: after ∧ before.length = n ∧ f.name = "trace"
  finish : ∀ s s', R s s' → Agree S (r.finish s) (r.finish s')

/-- Two members that are the same, or two truth values given as `trace`. -/
inductive RetracedMember : Option String × Document → Option String × Document → Prop
  | same (m : Option String × Document) : RetracedMember m m
  | trace (b b' : Bool) : RetracedMember (some "trace", .bool b) (some "trace", .bool b')

theorem hasTextKeys_eq_of_retraced {ms ms' : List (Option String × Document)}
    (h : List.Forall₂ RetracedMember ms ms') :
    Document.hasTextKeys ms = Document.hasTextKeys ms' := by
  induction h with
  | nil => rfl
  | cons hm _ ih =>
      rw [Document.hasTextKeys, Document.hasTextKeys] at ih ⊢
      cases hm <;> rw [List.all_cons, List.all_cons, ih]

/-- Two documents that are the same but for truth values that they give as `trace`, which is the `n`-th
of the fields. -/
inductive Retraced (n : Nat) : Document → Document → Prop
  | members {ms ms' : List (Option String × Document)} (closed : Bool)
      (h : List.Forall₂ RetracedMember ms ms') : Retraced n (.object ms closed) (.object ms' closed)
  | items {front : List Document} (rest : List Document) (b b' closed : Bool)
      (h : front.length = n) :
      Retraced n (.array (front ++ .bool b :: rest) closed)
        (.array (front ++ .bool b' :: rest) closed)

namespace Record.TracesAt

variable {σ τ : Type} {r : Record ReadError Document σ τ} {R : σ → σ → Prop} {S : τ → τ → Prop}
  {n : Nat}

theorem membersAlike (h : r.TracesAt R S n) {ms ms' : List (Option String × Document)}
    (hms : List.Forall₂ RetracedMember ms ms') :
    List.Forall₂ (MembersAlike inText R r.fields) (Document.readable ms) (Document.readable ms') := by
  induction hms with
  | nil => exact .nil
  | @cons m m' ms ms' hm _ ih =>
      cases hm with
      | same =>
          obtain ⟨_ | key, d⟩ := m
          · exact .nil
          · exact .cons ⟨rfl, rfl, fun f hf _ => h.reads f hf d⟩ ih
      | trace b b' => exact .cons ⟨rfl, rfl, fun f hf hname => h.readsTrace f hf hname b b'⟩ ih

theorem agree_finished (h : r.TracesAt R S n) {s s' : σ} (hs : R s s') :
    Agree S (Record.finished inText r s) (Record.finished inText r s') := by
  have hfinish := h.finish s s' hs
  rw [Record.finished, Record.finished]
  generalize r.finish s = x at hfinish ⊢
  generalize r.finish s' = y at hfinish ⊢
  cases hfinish with
  | error e => exact .error _
  | ok ht => exact .ok ht

/-- Documents that differ in the trace they ask for are read alike. -/
theorem agree_read (h : r.TracesAt R S n) {d d' : Document} (hd : Retraced n d d') :
    Agree S (r.read inText d) (r.read inText d') := by
  cases hd with
  | @members ms ms' closed hms =>
      have hkeys := hasTextKeys_eq_of_retraced hms
      have hmembers := agree_readMembers h.isSet (h.membersAlike hms) h.start
      refine hmembers.bind fun s s' hs => ?_
      rw [hkeys]
      exact (Agree.refl _).bind fun _ _ _ => h.agree_finished hs
  | @items front rest b b' closed hfront =>
      obtain ⟨before, f, after, hfields, hbefore, hname⟩ := h.position
      have hreads := h.reads
      have htrace := h.readsTrace f (hfields ▸ List.mem_append_right before List.mem_cons_self) hname
      have hitems : Agree R
          (Record.readItems inText (fun n => .wrongLength n r.expectation) (ending closed) 0 r.fields
            (front ++ .bool b :: rest) r.start)
          (Record.readItems inText (fun n => .wrongLength n r.expectation) (ending closed) 0 r.fields
            (front ++ .bool b' :: rest) r.start) := by
        rw [hfields] at hreads ⊢
        exact agree_readItems_at hreads (htrace b b') (hfront.trans hbefore.symm) 0 h.start
      exact hitems.bind fun s s' hs => h.agree_finished hs

end Record.TracesAt

end Rulebook.Json

namespace Rulebook.Service

open Json (Document Retraced)

/-! ### What is read of the bodies -/

/-- Two requests for one evaluation. -/
def EvaluateRequest.SameEvaluation (r r' : EvaluateRequest) : Prop :=
  r.expr = r'.expr ∧ r.data = r'.data

/-- Two requests for one evaluation of a stored rule. -/
def EvaluateStoredRequest.SameEvaluation (r r' : EvaluateStoredRequest) : Prop := r.data = r'.data

/-- The body of an evaluation: of its trace it only matters whether one was told already. -/
theorem EvaluateRequest.tracesAt :
    EvaluateRequest.record.TracesAt
      (fun p p' => p.expr = p'.expr ∧ p.data = p'.data ∧ p.traced.isSome = p'.traced.isSome)
      SameEvaluation 2 where
  start := ⟨rfl, rfl, rfl⟩
  isSet := by
    -- one case for each field, in the order of the record
    refine List.forall_mem_cons.2 ⟨?_, List.forall_mem_cons.2 ⟨?_, List.forall_mem_singleton.2 ?_⟩⟩
    · exact fun s s' hs => congrArg Option.isSome hs.1
    · exact fun s s' hs => congrArg Option.isSome hs.2.1
    · exact fun s s' hs => hs.2.2
  reads := by
    refine List.forall_mem_cons.2 ⟨?_, List.forall_mem_cons.2 ⟨?_, List.forall_mem_singleton.2 ?_⟩⟩
    · intro d s s' hs
      exact (Agree.refl (EvaluateRequest.readExpr d)).bind fun _ _ h =>
        .ok ⟨congrArg some h, hs.2⟩
    · intro d s s' hs
      exact (Agree.refl d.readValue).bind fun _ _ h =>
        .ok ⟨hs.1, congrArg some h, hs.2.2⟩
    · intro d s s' hs
      exact (Agree.refl d.readBool).bind fun _ _ _ => .ok ⟨hs.1, hs.2.1, rfl⟩
  readsTrace := by
    refine List.forall_mem_cons.2 ⟨?_, List.forall_mem_cons.2 ⟨?_, List.forall_mem_singleton.2 ?_⟩⟩
    · exact fun hname => absurd hname (by decide)
    · exact fun hname => absurd hname (by decide)
    · exact fun _ b b' s s' hs => .ok ⟨hs.1, hs.2.1, rfl⟩
  position := ⟨[_, _], _, [], rfl, rfl, rfl⟩
  finish := by
    rintro s s' ⟨hexpr, hdata, -⟩
    simp only [EvaluateRequest.record, hexpr, hdata]
    exact (Agree.refl (Json.required "ast" s'.expr)).bind fun _ _ he =>
      (Agree.refl (Json.required "data" s'.data)).bind fun _ _ hd => .ok ⟨he, hd⟩

/-- The body of an evaluation of a stored rule, likewise. -/
theorem EvaluateStoredRequest.tracesAt :
    EvaluateStoredRequest.record.TracesAt
      (fun p p' => p.data = p'.data ∧ p.traced.isSome = p'.traced.isSome) SameEvaluation 1 where
  start := ⟨rfl, rfl⟩
  isSet := by
    refine List.forall_mem_cons.2 ⟨?_, List.forall_mem_singleton.2 ?_⟩
    · exact fun s s' hs => congrArg Option.isSome hs.1
    · exact fun s s' hs => hs.2
  reads := by
    refine List.forall_mem_cons.2 ⟨?_, List.forall_mem_singleton.2 ?_⟩
    · intro d s s' hs
      exact (Agree.refl d.readValue).bind fun _ _ h => .ok ⟨congrArg some h, hs.2⟩
    · intro d s s' hs
      exact (Agree.refl d.readBool).bind fun _ _ _ => .ok ⟨hs.1, rfl⟩
  readsTrace := by
    refine List.forall_mem_cons.2 ⟨?_, List.forall_mem_singleton.2 ?_⟩
    · exact fun hname => absurd hname (by decide)
    · exact fun _ b b' s s' hs => .ok ⟨hs.1, rfl⟩
  position := ⟨[_], _, [], rfl, rfl, rfl⟩
  finish := by
    rintro s s' ⟨hdata, -⟩
    simp only [EvaluateStoredRequest.record, hdata]
    exact (Agree.refl (Json.required "data" s'.data)).bind fun _ _ hd => .ok hd

/-! ### Operations that run alike -/

/-- Two operations that leave the same session and fail alike or have related results. -/
def RunsAlike {α β : Type} (R : α → β → Prop) (x : Action α) (y : Action β) : Prop :=
  ∀ s, Agree R (x.run s).1 (y.run s).1 ∧ (x.run s).2 = (y.run s).2

theorem runsAlike_refl {α : Type} (x : Action α) : RunsAlike Eq x x :=
  fun _ => ⟨Agree.refl _, rfl⟩

theorem runsAlike_pure {α β : Type} {R : α → β → Prop} {a : α} {b : β} (h : R a b) :
    RunsAlike R (pure a) (pure b) := fun _ => ⟨.ok h, rfl⟩

theorem RunsAlike.bind {α β γ δ : Type} {R : α → β → Prop} {S : γ → δ → Prop} {x : Action α}
    {y : Action β} {f : α → Action γ} {g : β → Action δ} (hx : RunsAlike R x y)
    (hf : ∀ a b, R a b → RunsAlike S (f a) (g b)) : RunsAlike S (x >>= f) (y >>= g) := by
  intro s
  obtain ⟨hresult, hsession⟩ := hx s
  rw [run_bind, run_bind]
  generalize x.run s = r at hresult hsession ⊢
  generalize y.run s = r' at hresult hsession ⊢
  obtain ⟨a, s₁⟩ := r
  obtain ⟨b, s₂⟩ := r'
  obtain rfl : s₁ = s₂ := hsession
  cases hresult with
  | error e => exact ⟨.error e, rfl⟩
  | ok h => exact hf _ _ h s₁

/-- Two verdicts for the same. -/
def SameVerdict (v v' : Verdict) : Prop := v.result = v'.result

section Evaluations

variable (setup : Setup) (occasion : Occasion)

/-- Whether an evaluation is traced decides neither its verdict nor what is measured. -/
theorem runsAlike_runEvaluation (e : Expr) (data : Json) (traced traced' : Bool) :
    RunsAlike SameVerdict (runEvaluation setup occasion e data traced)
      (runEvaluation setup occasion e data traced') := by
  -- both tell of the same observation
  rw [runEvaluation, runEvaluation, execute_eq_map, execute_eq_map]
  cases e.observeAt setup.policy data .root with
  | error error => exact fun s => ⟨.error _, rfl⟩
  | ok r => exact (runsAlike_refl _).bind fun _ _ _ => runsAlike_pure rfl

theorem runsAlike_evaluate {r r' : EvaluateRequest} (h : r.SameEvaluation r') :
    RunsAlike SameVerdict (evaluate setup occasion r) (evaluate setup occasion r') := by
  obtain ⟨expr, data, traced⟩ := r
  obtain ⟨expr', data', traced'⟩ := r'
  obtain ⟨rfl, rfl⟩ : expr = expr' ∧ data = data' := h
  refine (runsAlike_refl _).bind fun _ _ _ => ?_
  cases expr with
  | none => exact runsAlike_pure rfl
  | some e =>
      cases hcheck : e.check with
      | error error =>
          simp only [hcheck]
          exact fun s => ⟨.error _, rfl⟩
      | ok u =>
          simp only [hcheck]
          exact runsAlike_runEvaluation setup occasion e data traced traced'

theorem runsAlike_evaluateStored (id : Uuid) {r r' : EvaluateStoredRequest}
    (h : r.SameEvaluation r') :
    RunsAlike SameVerdict (evaluateStored setup occasion id r)
      (evaluateStored setup occasion id r') := by
  obtain ⟨data, traced⟩ := r
  obtain ⟨data', traced'⟩ := r'
  obtain rfl : data = data' := h
  refine (runsAlike_refl _).bind fun _ _ _ => (runsAlike_refl _).bind ?_
  rintro rule _ rfl
  exact runsAlike_runEvaluation setup occasion rule.expr data traced traced'

end Evaluations

end Rulebook.Service

namespace Rulebook.Http

open Json (Document ReadError Record Retraced)
open Service (Complaint EvaluateRequest EvaluateStoredRequest Occasion RunsAlike SameVerdict Session
  Setup Verdict)

/-! ### Requests that differ in the trace they ask for -/

/-- The place of `trace` among the fields of the bodies that ask for an evaluation at a route. -/
def traceField? : Route → Option Nat
  | .evaluate => some 2
  | .evaluateStored => some 1
  | _ => none

theorem traceField?_eq_some_iff {route : Route} {n : Nat} :
    traceField? route = some n ↔ route = .evaluate ∧ n = 2 ∨ route = .evaluateStored ∧ n = 1 := by
  cases route <;> simp [traceField?, eq_comm]

/-- A request for an evaluation at a route, and another body for it that differs in the truth values
given as `trace`.  Either both bodies are too long or neither is. -/
structure Request.AsksAgain (request : Request) (route : Route) (body : String) : Prop where
  asks : request.Asks "POST" route
  size : maxBodySize < request.body.utf8ByteSize ↔ maxBodySize < body.utf8ByteSize
  texts : ∃ n, traceField? route = some n ∧
    Retraced n (Document.ofText request.body).1 (Document.ofText body).1
  ended : (Document.ofText request.body).2 = (Document.ofText body).2

section Requests

variable {request : Request} {route : Route} {body : String}

/-- The two bodies are read alike. -/
theorem Request.AsksAgain.agree_readBody {σ τ : Type} {record : Record ReadError Document σ τ}
    {R : σ → σ → Prop} {S : τ → τ → Prop} {n : Nat} (h : request.AsksAgain route body)
    (hn : traceField? route = some n) (hrecord : record.TracesAt R S n) :
    Agree S (readBody record request) (readBody record { request with body := body }) := by
  obtain ⟨m, hm, htexts⟩ := h.texts
  obtain rfl : m = n := Option.some.inj (hm.symm.trans hn)
  have hread := hrecord.agree_read htexts
  have hsays : saysJson { request with body := body } = saysJson request := rfl
  rw [readBody, readBody, hsays]
  simp only [← h.size]
  split
  · exact .error _
  · split
    · exact .error _
    · rw [readText, readText]
      simp only [← h.ended]
      generalize record.read Json.inText (Document.ofText request.body).1 = x at hread ⊢
      generalize record.read Json.inText (Document.ofText body).1 = y at hread ⊢
      cases hread with
      | error e => exact .error _
      | ok hS =>
          simp only
          split
          · exact .ok hS
          · exact .error _

theorem runsAlike_accept {α β : Type} {R : α → β → Prop} {x : Except Complaint α}
    {y : Except Complaint β} (h : Agree R x y) : RunsAlike R (accept x) (accept y) := by
  cases h with
  | error complaint => exact fun s => ⟨.error _, rfl⟩
  | ok h => exact Service.runsAlike_pure h

/-- Two replies that tell verdicts for the same. -/
def Reply.SameVerdict (reply reply' : Reply) : Prop :=
  ∃ v v' : Verdict, reply = .ofData (verdictJson v) ∧ reply' = .ofData (verdictJson v') ∧
    v.result = v'.result

/-- The two requests are carried out alike. -/
theorem Request.AsksAgain.runsAlike_handle (h : request.AsksAgain route body) (setup : Setup)
    (occasion : Occasion) (ids : List String) :
    RunsAlike Reply.SameVerdict (handle setup occasion request ⟨route, ids⟩)
      (handle setup occasion { request with body := body } ⟨route, ids⟩) := by
  obtain ⟨n, hn, -⟩ := h.texts
  rcases traceField?_eq_some_iff.1 hn with ⟨rfl, rfl⟩ | ⟨rfl, rfl⟩
  · refine (runsAlike_accept (h.agree_readBody rfl EvaluateRequest.tracesAt)).bind fun r r' hr => ?_
    exact (Service.runsAlike_evaluate setup occasion hr).bind fun v v' hv =>
      Service.runsAlike_pure ⟨v, v', rfl, rfl, hv⟩
  · -- the identifier stands in the path, which is the same
    refine (Service.runsAlike_refl (accept (Located.id ⟨.evaluateStored, ids⟩))).bind ?_
    rintro id _ rfl
    refine (runsAlike_accept (h.agree_readBody rfl EvaluateStoredRequest.tracesAt)).bind
      fun r r' hr => ?_
    exact (Service.runsAlike_evaluateStored setup occasion id hr).bind fun v v' hv =>
      Service.runsAlike_pure ⟨v, v', rfl, rfl, hv⟩

/-- Two replies that tell one failure, or verdicts for the same. -/
def Reply.SameAnswer (reply reply' : Reply) : Prop :=
  (∃ error, reply = .ofError error ∧ reply' = .ofError error) ∨ reply.SameVerdict reply'

theorem Reply.sameAnswer_of_agree {x y : Except Service.Error Reply}
    (h : Agree Reply.SameVerdict x y) : (Reply.ofResult x).SameAnswer (.ofResult y) := by
  cases h with
  | error e => exact .inl ⟨e, rfl, rfl⟩
  | ok h => exact .inr h

/-- Two requests that differ in their bodies and are carried out alike leave the same session. -/
theorem snd_serve_of_runsAlike {setup : Setup} {occasion : Occasion} {again : Request}
    {located : Located} (hagain : again = { request with body := body })
    (hpath : locate? request.path = some located) (hoptions : request.method ≠ "OPTIONS")
    (hmethod : request.method ∈ located.route.methods)
    (h : RunsAlike Reply.SameVerdict (handle setup occasion request located)
      (handle setup occasion again located)) (s : Session) :
    (serve setup occasion request s).2 = (serve setup occasion again s).2 := by
  have hpath' : locate? again.path = some located := by rw [hagain]; exact hpath
  have hmethod' : again.method = request.method := by rw [hagain]
  have hlabel : again.path = request.path := by rw [hagain]; rfl
  obtain ⟨hresult, hsession⟩ := h s
  rw [serve_eq, serve_eq, respond_eq_handle setup occasion hpath hoptions hmethod,
    respond_eq_handle setup occasion hpath' (hmethod' ▸ hoptions) (hmethod' ▸ hmethod), hmethod',
    hlabel]
  generalize (handle setup occasion request located).run s = r at hresult hsession ⊢
  generalize (handle setup occasion again located).run s = r' at hresult hsession ⊢
  obtain ⟨x, s₁⟩ := r
  obtain ⟨y, s₂⟩ := r'
  obtain rfl : s₁ = s₂ := hsession
  cases hresult with
  | error e => rfl
  | ok h =>
      -- a verdict is always told with one status, and that is all that is measured of it
      obtain ⟨v, v', rfl, rfl, -⟩ := h
      rfl

/-- The two requests are answered alike, and leave the same session. -/
theorem Request.AsksAgain.exists_carries (h : request.AsksAgain route body) (setup : Setup)
    (occasion : Occasion) (s : Session) :
    (∃ reply reply', (serve setup occasion request s).1.Carries reply ∧
      (serve setup occasion { request with body := body } s).1.Carries reply' ∧
      reply.SameAnswer reply') ∧
    (serve setup occasion request s).2 =
      (serve setup occasion { request with body := body } s).2 := by
  obtain ⟨hmethod, ids, hpath⟩ := h.asks
  obtain ⟨n, hn, -⟩ := h.texts
  have hanswered : request.method ∈ (Located.mk route ids).route.methods := by
    rw [hmethod]
    rcases traceField?_eq_some_iff.1 hn with ⟨rfl, -⟩ | ⟨rfl, -⟩ <;> exact List.mem_cons_self
  have hhead : request.method ≠ "HEAD" := by rw [hmethod]; decide
  have hoptions : request.method ≠ "OPTIONS" := by rw [hmethod]; decide
  have hpath' : locate? (Request.path { request with body := body }) = some ⟨route, ids⟩ := hpath
  have hruns := h.runsAlike_handle setup occasion ids
  exact ⟨⟨_, _, serve_carries setup occasion hpath hanswered hhead s,
    serve_carries setup occasion hpath' hanswered hhead s, Reply.sameAnswer_of_agree (hruns s).1⟩,
    snd_serve_of_runsAlike rfl hpath hoptions hanswered hruns s⟩

end Requests

/-! ### The verdicts of all ways to evaluate -/

/-- **Tracing changes no verdict.**  An execution that is traced reports what one without a trace
reports, and its trace besides; what is reported is what would be written down on the way; and its
verdict or its error is that of an evaluation, which tells a verdict against where it fails.  Under the
policy that is followed by default every expression has a verdict.  So two requests for an evaluation
that differ in the trace they ask for are answered with one failure or with one verdict, and leave the
same session. -/
theorem tracing_changes_no_verdict :
    (∀ (p : Policy) (data : Json) (e : Expr),
      e.execute p data false = (e.execute p data true).map (fun o => { o with trace := [] }) ∧
      ∀ traced, e.execute p data traced = e.record p data traced ∧
        e.tryEvaluate p data = (e.execute p data traced).map Outcome.matched ∧
        e.evaluate p data = ((e.execute p data traced).map Outcome.matched).toOption.getD false) ∧
    (∀ (data : Json) (e : Expr), e.holds data = e.evaluate default data ∧
      e.tryEvaluate default data = .ok (e.holds data)) ∧
    ∀ (request : Request) (route : Route) (body : String), request.AsksAgain route body →
      ∀ (setup : Setup) (occasion : Occasion) (s : Session),
        (∃ reply reply', (serve setup occasion request s).1.Carries reply ∧
          (serve setup occasion { request with body := body } s).1.Carries reply' ∧
          reply.SameAnswer reply') ∧
        (serve setup occasion request s).2 =
          (serve setup occasion { request with body := body } s).2 := by
  refine ⟨fun p data e => ⟨e.execute_untraced p data, fun traced => ⟨?_, ?_, ?_⟩⟩,
    fun data e => ⟨rfl, e.tryEvaluate_default data⟩,
    fun request route body h setup occasion s => h.exists_carries setup occasion s⟩
  · exact (e.record_eq_execute p data traced).symm
  · exact e.tryEvaluate_eq_map_execute p data traced
  · rw [← e.tryEvaluate_eq_map_execute p data traced, Expr.evaluate]
    cases e.tryEvaluate p data <;> rfl

/-- The body that asks whether a team is the one wanted, with a trace or without. -/
def teamBody (traced : Bool) : Json :=
  .object [("ast", (Expr.comparison .eq (.reference "team" none) (.literal (.string "ops"))).toJson),
    ("data", .object [("team", .string "ops")]), ("trace", .bool traced)]

/-- A request with a trace and one without are answered alike. -/
theorem traced_request_is_answered_alike :
    ∃ reply reply',
      (serve (.inMemory .strict) default (postJson "/api/rules/evaluate" (teamBody true))
        .fresh).1.Carries reply ∧
      (serve (.inMemory .strict) default (postJson "/api/rules/evaluate" (teamBody false))
        .fresh).1.Carries reply' ∧
      reply.SameAnswer reply' := by
  have htext (traced : Bool) : Document.ofText (teamBody traced).text =
      ((teamBody traced).toDocument, true) :=
    Json.ofText_text (fun _ hn => nomatch hn) (by cases traced <;> decide)
  have hasks : (postJson "/api/rules/evaluate" (teamBody true)).AsksAgain .evaluate
      (teamBody false).text := by
    refine ⟨⟨rfl, [], by decide +kernel⟩, by decide +kernel, ⟨2, rfl, ?_⟩, ?_⟩
    · rw [postJson, htext, htext]
      exact .members true (.cons (.same _) (.cons (.same _) (.cons (.trace true false) .nil)))
    · rw [postJson, htext, htext]
  exact (tracing_changes_no_verdict.2.2 _ _ _ hasks (.inMemory .strict) default .fresh).1

end Rulebook.Http
