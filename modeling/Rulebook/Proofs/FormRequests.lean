/-
**Rows of a form that are sent.**

The rows of a request are read off a document, in which every number is finite, and checked; the rules
they state are then written, joined, read and evaluated.  Rows that pass the checks and have numbers or
text for their values state rules that are read, so what is answered is the verdict of the rule that is
shown with it, and never that a rule cannot be read.

Main definitions:

* `Rulebook.Form.HoldsFinite` — a value whose number, if it is one, is finite;
* `Rulebook.Http.rowsAnswer` — what is answered to rows;
* `Rulebook.Http.rowsReply` — the verdict of the rule that rows state, as it is answered;
* `Rulebook.Http.Reply.code?` — the code that a reply tells.

Main results:

* `Rulebook.Json.Record.exists_parts_of_read` — an invariant of reading a record;
* `Rulebook.Http.holdsFinite_of_readBody` — the rows of a request compare with finite numbers;
* `Rulebook.Http.rowsAnswer_cases` — rows are refused, or answered by the verdict of what they state;
* `Rulebook.Http.form_rows_state_rules` — **rows of a form state the rule that is evaluated**.
-/

import Rulebook.Proofs.FiniteNumber
import Rulebook.Proofs.FormRows
import Rulebook.Proofs.Ledger
import Rulebook.Proofs.RecordParts
import Rulebook.Proofs.Reposting

set_option autoImplicit false

namespace Rulebook.Json

open Document (FiniteNumbers)

/-! ### What is read of a record -/

namespace Record

variable {ε α σ τ : Type} {src : Source ε α} {Given : α → Prop} {Good : σ → Prop}

theorem readMembers_keeps {fields : List (Field ε α σ)}
    (hstep : ∀ f ∈ fields, ∀ v s s', Given v → Good s → f.read v s = .ok s' → Good s')
    {members : List (String × α)} {s s' : σ} (hmembers : ∀ m ∈ members, Given m.2) (hs : Good s)
    (h : readMembers src fields members s = .ok s') : Good s' := by
  induction members generalizing s with
  | nil =>
      rw [readMembers] at h
      exact Except.ok.inj h ▸ hs
  | cons m rest ih =>
      obtain ⟨key, v⟩ := m
      obtain ⟨hv, hrest⟩ := List.forall_mem_cons.1 hmembers
      obtain ⟨-, -, h⟩ | ⟨f, s₁, hf, -, hread, h⟩ := readMembers_cons_eq_ok_iff.1 h
      · exact ih hrest hs h
      · have hs₁ : Good s₁ := hstep f (List.mem_of_find?_eq_some hf) v s s₁ hv hs hread
        exact ih hrest hs₁ h

theorem readItems_keeps {fields : List (Field ε α σ)} {tooShort : Nat → Fault}
    {ending : Except ε Unit} {n : Nat}
    (hstep : ∀ f ∈ fields, ∀ v s s', Given v → Good s → f.read v s = .ok s' → Good s')
    {items : List α} {s s' : σ} (hitems : ∀ v ∈ items, Given v) (hs : Good s)
    (h : readItems src tooShort ending n fields items s = .ok s') : Good s' := by
  induction fields generalizing n items s with
  | nil =>
      obtain ⟨-, -, rfl⟩ := readItems_nil_iff.1 h
      exact hs
  | cons f fields ih =>
      obtain ⟨hf, hfields⟩ := List.forall_mem_cons.1 hstep
      cases items with
      | nil =>
          obtain ⟨-, -, h⟩ := readItems_cons_nil_iff.1 h
          exact ih hfields hitems hs h
      | cons v rest =>
          obtain ⟨hv, hrest⟩ := List.forall_mem_cons.1 hitems
          obtain ⟨s₁, hread, h⟩ := readItems_cons_cons_iff.1 h
          exact ih hfields hrest (hf v s s₁ hv hs hread) h

/-- What holds of nothing read so far and is kept by reading a field holds of what a record is made
of. -/
theorem exists_parts_of_read {r : Record ReadError Document σ τ} {d : Document} {t : τ}
    (Good : σ → Prop) (hstart : Good r.start)
    (hstep : ∀ f ∈ r.fields, ∀ d s s', FiniteNumbers d → Good s → f.read d s = .ok s' → Good s')
    (hd : d.FiniteNumbers) (h : r.read inText d = .ok t) : ∃ s, Good s ∧ r.finish s = .ok t := by
  obtain ⟨contents, hcontents, hread⟩ := bind_eq_ok_iff.1 h
  cases hd with
  | @array items hitems closed =>
      obtain rfl := Except.ok.inj hcontents
      obtain ⟨s, hread, hs⟩ := bind_eq_ok_iff.1 hread
      exact ⟨s, readItems_keeps hstep hitems hstart hread, finished_eq_ok_iff.1 hs⟩
  | @object members hmembers closed =>
      obtain rfl := Except.ok.inj hcontents
      obtain ⟨s, hread, hs⟩ := bind_eq_ok_iff.1 hread
      obtain ⟨-, -, hs⟩ := bind_eq_ok_iff.1 hs
      have hreadable : ∀ m ∈ Document.readable members, FiniteNumbers m.2 :=
        fun m hm => hmembers _ (Document.mem_of_mem_readable hm)
      exact ⟨s, readMembers_keeps hstep hreadable hstart hread, finished_eq_ok_iff.1 hs⟩
  | _ => cases hcontents

end Record

/-- What is read of the items of an array. -/
theorem Document.forall_of_readList {τ : Type} {readItem : Document → Except ReadError τ}
    {Good : τ → Prop} (hitem : ∀ d t, FiniteNumbers d → readItem d = .ok t → Good t)
    {d : Document} (hd : d.FiniteNumbers) {values : List τ} (h : d.readList readItem = .ok values) :
    ∀ t ∈ values, Good t := by
  have hgo : ∀ {items : List Document} {n : Nat} {values : List τ},
      (∀ d ∈ items, FiniteNumbers d) → readList.go readItem n items = .ok values →
        ∀ t ∈ values, Good t := by
    intro items
    induction items with
    | nil =>
        intro n values _ h
        rw [← Except.ok.inj h]
        exact List.forall_mem_nil _
    | cons d rest ih =>
        intro n values hitems h
        obtain ⟨hd, hrest⟩ := List.forall_mem_cons.1 hitems
        rw [readList.go] at h
        split at h
        · cases h
        · rename_i t ht
          obtain ⟨ts, hgo, rfl⟩ := map_eq_ok_iff.1 h
          exact List.forall_mem_cons.2 ⟨hitem d t hd ht, ih hrest hgo⟩
  cases hd with
  | @array items hitems closed =>
      obtain ⟨ts, hread, h⟩ := bind_eq_ok_iff.1 h
      obtain ⟨-, -, h⟩ := bind_eq_ok_iff.1 h
      rw [← Except.ok.inj h]
      exact hgo hitems hread
  | _ => cases h

end Rulebook.Json

namespace Rulebook.Form

open Json (Document ReadError)
open Json.Document (FiniteNumbers)

/-- A value whose number, if it is one, is finite. -/
def HoldsFinite (value : Json) : Prop := ∀ n, value = .number n → n.toFloat.isFinite = true

theorem holdsFinite_of_readValue {d : Document} (hd : d.FiniteNumbers) {value : Json}
    (h : d.readValue = .ok value) : HoldsFinite value := by
  rintro n rfl
  exact hd.isFinite_of_readValue h

/-- A row that is read off a document compares with a finite number, if it does with one. -/
theorem Row.holdsFinite_of_ofDocument? {d : Document} (hd : d.FiniteNumbers) {row : Row}
    (h : Row.ofDocument? d = .ok row) : HoldsFinite row.value := by
  have hstep : ∀ f ∈ (Row.record Document.readString (Document.readVariant Relation.wireNames)
      Document.readValue).fields, ∀ d (p p' : Row.Parts), FiniteNumbers d →
      (∀ value, p.value = some value → HoldsFinite value) → f.read d p = .ok p' →
        ∀ value, p'.value = some value → HoldsFinite value := by
    intro f hf d p p' hd hp hread
    simp only [Row.record, List.mem_cons, List.not_mem_nil, or_false] at hf
    -- of the three fields only the last is a value
    rcases hf with rfl | rfl | rfl
    · obtain ⟨name, -, hread⟩ := bind_eq_ok_iff.1 hread
      obtain rfl := Except.ok.inj hread
      exact hp
    · obtain ⟨relation, -, hread⟩ := bind_eq_ok_iff.1 hread
      obtain rfl := Except.ok.inj hread
      exact hp
    · obtain ⟨value, hvalue, hread⟩ := bind_eq_ok_iff.1 hread
      obtain rfl := Except.ok.inj hread
      intro w hw
      obtain rfl := Option.some.inj hw
      exact holdsFinite_of_readValue hd hvalue
  obtain ⟨p, hp, hfinish⟩ :=
    Json.Record.exists_parts_of_read _ (fun _ h => by cases h) hstep hd h
  obtain ⟨name, -, hfinish⟩ := bind_eq_ok_iff.1 hfinish
  obtain ⟨relation, -, hfinish⟩ := bind_eq_ok_iff.1 hfinish
  obtain ⟨value, hvalue, hfinish⟩ := bind_eq_ok_iff.1 hfinish
  obtain rfl := Except.ok.inj hfinish
  exact hp value (Json.required_eq_ok_iff.1 hvalue)

end Rulebook.Form

namespace Rulebook.Http

open Json (Document ReadError Record)
open Json.Document (FiniteNumbers)
open Service (Complaint Error EvaluateRowsRequest Occasion Session Setup)

/-! ### What a request says -/

theorem read_of_readBody {σ τ : Type} {record : Record ReadError Document σ τ} {request : Request}
    {t : τ} (h : readBody record request = .ok t) :
    record.read Json.inText (Document.ofText request.body).1 = .ok t := by
  rw [readBody] at h
  split at h
  · cases h
  · split at h
    · cases h
    · simp only [readText] at h
      split at h
      · cases h
      · rename_i hread
        split at h
        · rw [hread, Except.ok.inj h]
        · cases h

/-- **The rows of a request compare with finite numbers**, where they do with numbers. -/
theorem holdsFinite_of_readBody {request : Request} {r : EvaluateRowsRequest}
    (h : readBody EvaluateRowsRequest.record request = .ok r) :
    ∀ row ∈ r.rows, Form.HoldsFinite row.value := by
  have hstep : ∀ f ∈ EvaluateRowsRequest.record.fields, ∀ d (p p' : EvaluateRowsRequest.Parts),
      FiniteNumbers d →
      (∀ rows, p.rows = some rows → ∀ row ∈ rows, Form.HoldsFinite row.value) → f.read d p = .ok p' →
        ∀ rows, p'.rows = some rows → ∀ row ∈ rows, Form.HoldsFinite row.value := by
    intro f hf d p p' hd hp hread
    simp only [EvaluateRowsRequest.record, List.mem_cons, List.not_mem_nil, or_false] at hf
    rcases hf with rfl | rfl
    · obtain ⟨rows, hrows, hread⟩ := bind_eq_ok_iff.1 hread
      obtain rfl := Except.ok.inj hread
      intro w hw
      obtain rfl := Option.some.inj hw
      exact Document.forall_of_readList
        (fun d row hd hrow => Form.Row.holdsFinite_of_ofDocument? hd hrow) hd hrows
    · obtain ⟨data, -, hread⟩ := bind_eq_ok_iff.1 hread
      obtain rfl := Except.ok.inj hread
      exact hp
  obtain ⟨p, hp, hfinish⟩ := Record.exists_parts_of_read _ (fun _ h => by cases h) hstep
    (Document.finiteNumbers_ofText request.body) (read_of_readBody h)
  obtain ⟨rows, hrows, hfinish⟩ := bind_eq_ok_iff.1 hfinish
  obtain ⟨data, -, hfinish⟩ := bind_eq_ok_iff.1 hfinish
  obtain rfl := Except.ok.inj hfinish
  exact hp rows (Json.required_eq_ok_iff.1 hrows)

/-! ### Rows that keep their limits -/

theorem attributeFaults_of_rowFaults {rows : List Form.Row} {n : Nat}
    (h : EvaluateRowsRequest.rowFaults n rows = []) :
    ∀ row ∈ rows, Form.attributeFaults row.name = [] := by
  induction rows generalizing n with
  | nil => exact List.forall_mem_nil _
  | cons row rest ih =>
      obtain ⟨hrow, hrest⟩ := List.append_eq_nil_iff.1 h
      refine List.forall_mem_cons.2 ⟨?_, ih hrest⟩
      rw [Service.attributeFault] at hrow
      split at hrow
      · assumption
      · cases hrow

/-- A request that keeps its limits has rows, and names for their attributes. -/
theorem rows_of_faults {r : EvaluateRowsRequest} (h : r.faults = []) :
    r.rows ≠ [] ∧ ∀ row ∈ r.rows, Form.attributeFaults row.name = [] := by
  have hrows := (List.append_eq_nil_iff.1 h).1
  split at hrows
  · rename_i hcount
    split at hrows
    · rename_i hnames
      exact ⟨List.ne_nil_of_length_pos hcount.1, attributeFaults_of_rowFaults hnames⟩
    · cases hrows
  · cases hrows

theorem isLiteral_of_holdsFinite {value : Json} (hfinite : Form.HoldsFinite value)
    (h : (∃ n, value = .number n) ∨ ∃ t, value = .string t) : Form.IsLiteral value := by
  rcases h with ⟨n, rfl⟩ | ⟨t, rfl⟩
  · exact .number (hfinite n rfl)
  · exact .string t

theorem isLiteral_of_ruleText? {row : Form.Row} (hfinite : Form.HoldsFinite row.value) {rule : String}
    (h : row.ruleText? = .ok rule) : Form.IsLiteral row.value := by
  obtain ⟨name, relation, value⟩ := row
  cases value with
  | number n => exact .number (hfinite n rfl)
  | string s => exact .string s
  | _ => cases h

/-! ### Answers -/

/-- The answer to rows of a form that state a whole: its verdict and the text of the rules, or why there
is no verdict. -/
def rowsReply (policy : Policy) (rules : List String) (whole : Expr) (data : Json) : Reply :=
  match whole.tryEvaluate policy data with
  | .ok result => .ofData (rowsVerdictJson result (Service.conjunctionText rules))
  | .error error => .ofError (.evaluation (.evaluation error))

/-- What is answered to rows. -/
def rowsAnswer (setup : Setup) (occasion : Occasion) (r : EvaluateRowsRequest) (s : Session) : Reply :=
  .ofResult (((Service.evaluateRows setup occasion r).run s).1.map fun x =>
    .ofData (rowsVerdictJson x.1 x.2))

section Answers

variable (setup : Setup) (occasion : Occasion) (s : Session) {r : EvaluateRowsRequest}

/-- Rows that state a whole are answered by its verdict. -/
theorem rowsAnswer_of_conjunction (hfaults : r.faults = []) {rules : List String}
    {conditions : List Expr} {whole : Expr}
    (h : Form.Conjunction r.rows rules conditions whole) :
    rowsAnswer setup occasion r s = rowsReply setup.policy rules whole r.data := by
  rw [rowsAnswer, Service.evaluateRows, Service.keepLimits, if_pos hfaults, pure_bind,
    h.ruleTexts?_eq]
  simp only [h.combine_eq]
  rw [Service.runEvaluation, execute_eq_map, rowsReply, Expr.tryEvaluate,
    Expr.verdictAt_eq_map_observeAt]
  cases whole.observeAt setup.policy r.data .root <;> rfl

/-- Rows are refused, or they state a whole and are answered by its verdict. -/
theorem rowsAnswer_cases (hfinite : ∀ row ∈ r.rows, Form.HoldsFinite row.value)
    (hread : ∀ row ∈ r.rows, row.NumberReadsBack) :
    (∃ complaint, rowsAnswer setup occasion r s = .ofError (.refused complaint)) ∨
      ∃ rules conditions whole, Form.Conjunction r.rows rules conditions whole ∧
        rowsAnswer setup occasion r s = rowsReply setup.policy rules whole r.data := by
  by_cases hfaults : r.faults = []
  · obtain ⟨hne, hnames⟩ := rows_of_faults hfaults
    cases hrules : Form.ruleTexts? r.rows with
    | error fault =>
        -- a value that is neither a number nor a text, the one way a row is not written
        refine .inl ⟨.rowValue fault, ?_⟩
        rw [rowsAnswer, Service.evaluateRows, Service.keepLimits, if_pos hfaults, pure_bind, hrules]
        rfl
    | ok rules =>
        have hvalid : ∀ row ∈ r.rows, row.IsValid := by
          intro row hrow
          obtain ⟨_, hrule⟩ := exists_of_mapM hrules hrow
          exact ⟨hnames row hrow, isLiteral_of_ruleText? (hfinite row hrow) hrule⟩
        obtain ⟨rules, conditions, whole, h⟩ := Form.exists_conjunction hne hvalid hread
        exact .inr ⟨rules, conditions, whole, h,
          rowsAnswer_of_conjunction setup occasion s hfaults h⟩
  · refine .inl ⟨.fields r.faults, ?_⟩
    rw [rowsAnswer, Service.evaluateRows, Service.keepLimits, if_neg hfaults]
    rfl

end Answers

/-! ### Responses -/

section Responses

variable {request : Request} (setup : Setup) (occasion : Occasion) (s : Session)

/-- The response to a request for rows to be evaluated tells what is answered to the rows it is read
as. -/
theorem Request.Asks.carries_rows (h : request.Asks "POST" .evaluateRows) :
    (∀ complaint, readBody EvaluateRowsRequest.record request = .error complaint →
      (serve setup occasion request s).1.Carries (.ofError (.refused complaint))) ∧
    ∀ r, readBody EvaluateRowsRequest.record request = .ok r →
      (serve setup occasion request s).1.Carries (rowsAnswer setup occasion r s) := by
  obtain ⟨hmethod, ids, hpath⟩ := h
  have hanswered : request.method ∈ Route.methods .evaluateRows := by rw [hmethod]; decide
  have hcarries := serve_carries setup occasion hpath hanswered (by rw [hmethod]; decide) s
  rw [handle] at hcarries
  refine ⟨fun complaint hread => ?_, fun r hread => ?_⟩
  · rw [hread] at hcarries
    exact hcarries
  · rw [hread] at hcarries
    simp only [accept, pure_bind] at hcarries
    rw [Service.fst_run_bind_pure] at hcarries
    exact hcarries

/-- A request for rows to be evaluated is refused, or its rows state a whole and it is answered by the
verdict of that. -/
theorem Request.Asks.carries_rows_cases (h : request.Asks "POST" .evaluateRows)
    (hread : ∀ r, readBody EvaluateRowsRequest.record request = .ok r →
      ∀ row ∈ r.rows, row.NumberReadsBack) :
    (∃ complaint, (serve setup occasion request s).1.Carries (.ofError (.refused complaint))) ∨
      ∃ r rules conditions whole, readBody EvaluateRowsRequest.record request = .ok r ∧
        Form.Conjunction r.rows rules conditions whole ∧
        (serve setup occasion request s).1.Carries (rowsReply setup.policy rules whole r.data) := by
  obtain ⟨hrefused, hanswered⟩ := h.carries_rows setup occasion s
  cases hbody : readBody EvaluateRowsRequest.record request with
  | error complaint => exact .inl ⟨complaint, hrefused complaint hbody⟩
  | ok r =>
      have hcarries := hanswered r hbody
      rcases rowsAnswer_cases setup occasion s (holdsFinite_of_readBody hbody) (hread r hbody) with
        ⟨complaint, hanswer⟩ | ⟨rules, conditions, whole, hconjunction, hanswer⟩
      · exact .inl ⟨complaint, hanswer ▸ hcarries⟩
      · exact .inr ⟨r, rules, conditions, whole, rfl, hconjunction, hanswer ▸ hcarries⟩

end Responses

/-! ### Codes -/

/-- The code that a reply tells. -/
def Reply.code? (reply : Reply) : Option Json := reply.body.get? "code"

theorem code?_ofError (e : Error) : (Reply.ofError e).code? = some (.string e.code) := rfl

theorem code?_ofData (data : Json) : (Reply.ofData data).code? = some (.string "SUCCESS") := rfl

theorem ofError_ne_ofData (e : Error) (data : Json) : Reply.ofError e ≠ .ofData data := fun h =>
  (status_error_ne e).1 (congrArg Reply.status h)

/-- A verdict on rows is told with the text of their rules. -/
theorem eq_of_rowsReply_eq {policy : Policy} {rules : List String} {whole : Expr} {data : Json}
    {result : Bool} {rule : String}
    (h : rowsReply policy rules whole data = .ofData (rowsVerdictJson result rule)) :
    rule = Service.conjunctionText rules ∧ whole.tryEvaluate policy data = .ok result := by
  rw [rowsReply] at h
  split at h
  · rename_i verdict hverdict
    obtain ⟨rfl, rfl⟩ : verdict = result ∧ Service.conjunctionText rules = rule := by
      simpa [Reply.ofData, Reply.success, rowsVerdictJson] using h
    exact ⟨rfl, hverdict⟩
  · exact absurd h (ofError_ne_ofData _ _)

theorem code?_rowsReply_ne (policy : Policy) (rules : List String) (whole : Expr) (data : Json) :
    (rowsReply policy rules whole data).code? ≠ some (.string "RULE_PARSE_ERROR") := by
  rw [rowsReply]
  split
  · rw [code?_ofData]
    simp
  · rw [code?_ofError]
    simp [Error.code]

theorem code?_refused_ne (complaint : Complaint) :
    (Reply.ofError (.refused complaint)).code? ≠ some (.string "RULE_PARSE_ERROR") := by
  rw [code?_ofError]
  simp [Error.code]

theorem Response.Carries.code_ne {r : Response} {reply : Reply} (h : r.Carries reply)
    {code : Json} (hcode : reply.code? ≠ some code) {body : Json} (hbody : r.body = some body) :
    body.get? "code" ≠ some code := by
  obtain rfl : reply.body = body := Option.some_inj.1 (h.2.symm.trans hbody)
  exact hcode

/-- **Rows of a form state the rule that is evaluated.**  Rows that have names for their attributes, and
numbers or texts of any kind for their values, are each written as a rule; each rule is read as one
comparison of the attribute with the literal that the value stands for, and the rules joined with `AND`
are read as what they combine to, the comparisons joined from left to right.  So, whatever is posted
to have rows evaluated, it is never answered that a rule cannot be read, and a verdict is that of the
rule shown with it on the data sent; rows that keep the limits of a request are answered by it.  A number
of a row is taken to be read back from its text. -/
theorem form_rows_state_rules :
    (∀ rows : List Form.Row, rows ≠ [] → (∀ row ∈ rows, row.IsValid) →
      (∀ row ∈ rows, row.NumberReadsBack) →
        ∃ rules conditions whole, Form.Conjunction rows rules conditions whole) ∧
    ∀ (setup : Setup) (occasion : Occasion) (s : Session) (request : Request),
      request.Asks "POST" .evaluateRows →
      (∀ r, readBody EvaluateRowsRequest.record request = .ok r →
        ∀ row ∈ r.rows, row.NumberReadsBack) →
      let response := (serve setup occasion request s).1
      (∀ body, response.body = some body →
        body.get? "code" ≠ some (.string "RULE_PARSE_ERROR")) ∧
      (∀ result rule, response.Carries (.ofData (rowsVerdictJson result rule)) →
        ∃ r whole, readBody EvaluateRowsRequest.record request = .ok r ∧ parse rule = .ok whole ∧
          whole.tryEvaluate setup.policy r.data = .ok result) ∧
      ∀ r, readBody EvaluateRowsRequest.record request = .ok r → r.faults = [] →
        (∀ row ∈ r.rows, (∃ n, row.value = .number n) ∨ ∃ t, row.value = .string t) →
          ∃ rules conditions whole, Form.Conjunction r.rows rules conditions whole ∧
            response.Carries (rowsReply setup.policy rules whole r.data) := by
  refine ⟨fun rows => Form.exists_conjunction, ?_⟩
  intro setup occasion s request hasks hread response
  have hcases := hasks.carries_rows_cases setup occasion s hread
  refine ⟨fun body hbody => ?_, fun result rule hresult => ?_, fun r hr hfaults hvalues => ?_⟩
  · rcases hcases with ⟨complaint, hcarries⟩ | ⟨r, rules, conditions, whole, -, -, hcarries⟩
    · exact hcarries.code_ne (code?_refused_ne complaint) hbody
    · exact hcarries.code_ne (code?_rowsReply_ne _ _ _ _) hbody
  · rcases hcases with ⟨complaint, hcarries⟩ | ⟨r, rules, conditions, whole, hr, h, hcarries⟩
    · exact absurd (hcarries.unique hresult) (ofError_ne_ofData _ _)
    · obtain ⟨rfl, hverdict⟩ := eq_of_rowsReply_eq (hcarries.unique hresult)
      exact ⟨r, whole, hr, h.parse_eq, hverdict⟩
  · obtain ⟨hne, hnames⟩ := rows_of_faults hfaults
    have hfinite := holdsFinite_of_readBody hr
    have hvalid : ∀ row ∈ r.rows, row.IsValid := fun row hrow =>
      ⟨hnames row hrow, isLiteral_of_holdsFinite (hfinite row hrow) (hvalues row hrow)⟩
    obtain ⟨rules, conditions, whole, h⟩ := Form.exists_conjunction hne hvalid (hread r hr)
    have hcarries := (hasks.carries_rows setup occasion s).2 r hr
    rw [rowsAnswer_of_conjunction setup occasion s hfaults h] at hcarries
    exact ⟨rules, conditions, whole, h, hcarries⟩

/-- Rows whose values are a text with quotes and a text of a number. -/
def quotedRows : List Form.Row :=
  [⟨"team", .eq, .string "a\" OR \"b"⟩, ⟨"age", .gt, .string " +5 "⟩]

/-- The rule that they state. -/
def quotedRule : Expr :=
  .logical .and (.comparison .eq (.reference "team" none) (.literal (.string "a\" OR \"b")))
    (.comparison .gt (.reference "age" none) (.literal (.number 5)))

/-- The request to evaluate them on a record. -/
def quotedRowsRequest : Request :=
  ⟨"POST", "/api/rules/evaluate-conditions", [("content-type", "application/json")],
    Json.objectText [("conditions", (Json.array (quotedRows.map Form.Row.toJson)).text),
      ("data", (Json.object [("age", .number (.integer 6)), ("team", .string "a\" OR \"b")]).text)]⟩

theorem quotedRows_values {rows : List Form.Row}
    (h : rows.map (fun row => Form.literal? row.value) =
      [some (.string "a\" OR \"b"), some (.number 5)]) :
    ∀ row ∈ rows, ((∃ n, row.value = .number n) ∨ ∃ t, row.value = .string t) ∧
      row.NumberReadsBack := by
  intro row hrow
  have hliteral : Form.literal? row.value ∈ [some (.string "a\" OR \"b"), some (.number 5)] :=
    h ▸ List.mem_map_of_mem hrow
  refine ⟨?_, fun x hx _ => ?_⟩
  · obtain ⟨v, hv⟩ : ∃ v, Form.StandsFor row.value v := by
      rcases List.mem_pair.1 hliteral with h | h <;> exact ⟨_, Form.literal?_eq_some_iff.1 h⟩
    exact hv.number_or_string
  · rw [Form.literal?_eq_some_iff.2 hx] at hliteral
    rcases List.mem_pair.1 hliteral with h | h
    · cases h
    · cases h
      rfl

/-- A quote in the value of a row stays in the text it is compared with, and a text of a number is that
number: the two rows are answered by the verdict of the two conditions. -/
theorem quoted_rows_are_evaluated :
    (∃ rules conditions, Form.Conjunction quotedRows rules conditions quotedRule ∧
      Service.conjunctionText rules = "team == \"a\\\" OR \\\"b\" AND age > 5") ∧
    (serve (.inMemory .strict) default quotedRowsRequest .fresh).1.Carries
      (.ofData (rowsVerdictJson true "team == \"a\\\" OR \\\"b\" AND age > 5")) := by
  have hparse : parse "team == \"a\\\" OR \\\"b\" AND age > 5" = .ok quotedRule := by
    decide +kernel
  have hstated : ∀ {rows rules conditions whole}, Form.Conjunction rows rules conditions whole →
      (Form.ruleTexts? rows).toOption = some ["team == \"a\\\" OR \\\"b\"", "age > 5"] →
        rules = ["team == \"a\\\" OR \\\"b\"", "age > 5"] ∧ whole = quotedRule := by
    intro rows rules conditions whole h hrules
    rw [h.ruleTexts?_eq] at hrules
    obtain rfl := Option.some_inj.1 hrules
    exact ⟨rfl, Except.ok.inj (h.parse_eq.symm.trans hparse)⟩
  constructor
  · have hvalues := @quotedRows_values quotedRows (by decide +kernel)
    have hvalid : ∀ row ∈ quotedRows, row.IsValid := by
      intro row hrow
      rcases List.mem_pair.1 hrow with rfl | rfl
      · exact ⟨by decide, .string _⟩
      · exact ⟨by decide, .string _⟩
    obtain ⟨rules, conditions, whole, h⟩ := form_rows_state_rules.1 quotedRows (by decide) hvalid
      fun row hrow => (hvalues row hrow).2
    obtain ⟨rfl, rfl⟩ := hstated h rfl
    exact ⟨_, conditions, h, rfl⟩
  · have hread : ∃ r ∈ (readBody EvaluateRowsRequest.record quotedRowsRequest).toOption,
        r.rows.map (fun row => Form.literal? row.value) =
          [some (.string "a\" OR \"b"), some (.number 5)] ∧ r.faults = [] ∧
        (Form.ruleTexts? r.rows).toOption = some ["team == \"a\\\" OR \\\"b\"", "age > 5"] ∧
        (quotedRule.tryEvaluate .strict r.data).toOption = some true := by decide +kernel
    obtain ⟨r, hr, hliterals, hfaults, hrules, hverdict⟩ := hread
    have hbody := toOption_eq_some_iff.1 hr
    have hvalues := quotedRows_values hliterals
    obtain ⟨-, -, hanswered⟩ := form_rows_state_rules.2 (.inMemory .strict) default .fresh
      quotedRowsRequest ⟨rfl, [], by decide +kernel⟩
      (fun r' hr' row hrow => by
        obtain rfl := Except.ok.inj (hbody.symm.trans hr')
        exact (hvalues row hrow).2)
    obtain ⟨rules, conditions, whole, h, hcarries⟩ :=
      hanswered r hbody hfaults fun row hrow => (hvalues row hrow).1
    obtain ⟨rfl, rfl⟩ := hstated h hrules
    have hstrict : (Setup.inMemory .strict).policy = .strict := rfl
    rw [rowsReply, hstrict, toOption_eq_some_iff.1 hverdict] at hcarries
    exact hcarries

end Rulebook.Http
