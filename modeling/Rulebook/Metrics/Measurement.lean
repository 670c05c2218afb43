/-
**What a service measures.**

Everything that a service counts or times is a measurement, kept in the order in which it is taken.
Each measurement changes one or more series, where a series is a name with labels.

Main definitions:

* `Rulebook.Measurement` — the measurements of the service;
* `Rulebook.Series`, `Rulebook.Change` — a series, and what a measurement does to it;
* `Rulebook.Measurement.changes` — the changes that a measurement makes.
-/

set_option autoImplicit false

namespace Rulebook

/-! ### Measurements -/

/-- How an evaluation ended. -/
inductive EvaluationOutcome where
  | matched
  | notMatched
  | failed
  deriving DecidableEq, Repr

/-- The outcome as a label. -/
def EvaluationOutcome.label : EvaluationOutcome → String
  | matched => "matched"
  | notMatched => "not_matched"
  | failed => "error"

/-- The outcome of an evaluation with a verdict. -/
def EvaluationOutcome.ofVerdict (matched : Bool) : EvaluationOutcome :=
  if matched then .matched else .notMatched

/-- Something that was counted or timed. -/
inductive Measurement where
  /-- A service was started. -/
  | serviceStart (service : String)
  /-- A request was answered with a status, after some seconds. -/
  | request (method path : String) (status : Nat) (seconds : Float)
  /-- Rule text was read, or found not to be a rule. -/
  | parse (succeeded : Bool)
  /-- An expression was evaluated, within some seconds. -/
  | evaluation (outcome : EvaluationOutcome) (seconds : Float)
  /-- So many rules are stored. -/
  | ruleCount (n : Nat)

/-! ### Series -/

/-- A name with labels. -/
structure Series where
  name : String
  labels : List (String × String)
  deriving DecidableEq, Repr

/-- What a measurement does to a series. -/
inductive Change where
  /-- Counts one more. -/
  | increment
  /-- Sets the series to a value. -/
  | set (x : Float)
  /-- Adds an observed value. -/
  | observe (x : Float)

namespace Series

/-- Counts the starts of services. -/
def serviceStarts (service : String) : Series := ⟨"service_starts_total", [("service", service)]⟩

/-- The labels of a request. -/
def requestLabels (method path : String) (status : Nat) : List (String × String) :=
  [("method", method), ("path", path), ("status", toString status)]

/-- Counts requests. -/
def requests (method path : String) (status : Nat) : Series :=
  ⟨"http_requests_total", requestLabels method path status⟩

/-- Times requests. -/
def requestSeconds (method path : String) (status : Nat) : Series :=
  ⟨"http_request_duration_seconds", requestLabels method path status⟩

/-- Counts rule texts that were read. -/
def parses (succeeded : Bool) : Series :=
  ⟨"rule_parses_total", [("outcome", if succeeded then "ok" else "error")]⟩

/-- Counts evaluations. -/
def evaluations (outcome : EvaluationOutcome) : Series :=
  ⟨"rule_evaluations_total", [("outcome", outcome.label)]⟩

/-- Times evaluations. -/
def evaluationSeconds : Series := ⟨"rule_evaluation_duration_seconds", []⟩

/-- Tells the number of stored rules. -/
def rulesStored : Series := ⟨"rules_stored", []⟩

end Series

/-- The changes that a measurement makes. -/
def Measurement.changes : Measurement → List (Series × Change)
  | serviceStart service => [(.serviceStarts service, .increment)]
  | request method path status seconds =>
    [(.requests method path status, .increment),
      (.requestSeconds method path status, .observe seconds)]
  | parse succeeded => [(.parses succeeded, .increment)]
  | evaluation outcome seconds =>
    [(.evaluations outcome, .increment), (.evaluationSeconds, .observe seconds)]
  | ruleCount n => [(.rulesStored, .set (Float.ofNat n))]

end Rulebook
