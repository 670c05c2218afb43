/-
**The text in which measurements are exposed.**

What was measured is read off the log of measurements: a count for every series that was incremented,
the last value of one that was set, the number and the sum of the values that were observed.  It is
exposed as lines of text: a description and a kind for each name, then the samples.

Main definitions:

* `Rulebook.Reading`, `Rulebook.Series.readings` — what a log says of each series;
* `Rulebook.Sample`, `Rulebook.samples` — the samples of a log;
* `Rulebook.exposition` — the lines of a log, sorted.
-/

import Rulebook.Decimal.Layout
import Rulebook.Metrics.Measurement

set_option autoImplicit false

namespace Rulebook

/-! ### Readings -/

/-- What is known of a series. -/
inductive Reading where
  | counter (n : Nat)
  | gauge (x : Float)
  | summary (count : Nat) (sum : Float)

namespace Reading

/-- The kind of a reading. -/
def kind : Reading → String
  | counter _ => "counter"
  | gauge _ => "gauge"
  | summary _ _ => "summary"

/-- The reading of a series that had none before. -/
def first : Change → Reading
  | .increment => counter 1
  | .set x => gauge x
  | .observe x => summary 1 x

/-- The reading after one more change. -/
def next : Reading → Change → Reading
  | counter n, .increment => counter (n + 1)
  | summary n sum, .observe x => summary (n + 1) (sum + x)
  | _, change => first change

end Reading

/-- The readings after one more change. -/
def applyChange (series : Series) (change : Change) :
    List (Series × Reading) → List (Series × Reading)
  | [] => [(series, .first change)]
  | (s, r) :: rest =>
    if s = series then (s, r.next change) :: rest else (s, r) :: applyChange series change rest

/-- What a log says of each series, in the order in which the series first occur. -/
def readings (log : List Measurement) : List (Series × Reading) :=
  (log.flatMap Measurement.changes).foldl (fun seen c => applyChange c.1 c.2 seen) []

/-! ### Samples -/

/-- A value of a series at one time. -/
structure Sample where
  series : Series
  value : String
  deriving DecidableEq, Repr

/-- A label's value in quotes.  A backslash that already escapes what follows it, another backslash or
a quote, stays; any other is escaped, as are quotes and line ends. -/
def labelChars : List Char → List Char
  | [] => []
  | '\\' :: '\\' :: rest => '\\' :: '\\' :: labelChars rest
  | '\\' :: '"' :: rest => '\\' :: '"' :: labelChars rest
  | '\\' :: rest => '\\' :: '\\' :: labelChars rest
  | '"' :: rest => '\\' :: '"' :: labelChars rest
  | '\n' :: rest => '\\' :: 'n' :: labelChars rest
  | c :: rest => c :: labelChars rest

/-- One label. -/
def labelText (label : String × String) : String :=
  label.1 ++ "=\"" ++ String.ofList (labelChars label.2.toList) ++ "\""

/-- The text of a series: its name, with labels in braces if it has any. -/
def Series.text (s : Series) : String :=
  if s.labels = [] then s.name
  else s.name ++ "\x7b" ++ ",".intercalate (s.labels.map labelText) ++ "\x7d"

/-- The line of a sample. -/
def Sample.text (s : Sample) : String := s.series.text ++ " " ++ s.value

/-- What is added to the name of a summary for the number of its values. -/
def countEnding : String := "_count"

/-- What is added to the name of a summary for the sum of its values. -/
def sumEnding : String := "_sum"

/-- The samples of a reading. -/
def Reading.samples (s : Series) : Reading → List Sample
  | counter n => [⟨s, toString n⟩]
  | gauge x => [⟨s, decimalText x⟩]
  | summary n sum =>
    [⟨⟨s.name ++ sumEnding, s.labels⟩, decimalText sum⟩,
      ⟨⟨s.name ++ countEnding, s.labels⟩, toString n⟩]

/-- The samples of a log. -/
def samples (log : List Measurement) : List Sample :=
  (readings log).flatMap fun r => r.2.samples r.1

/-! ### Descriptions and kinds -/

/-- What the names mean; a name that is not listed is not described. -/
def descriptions : List (String × String) :=
  [("http_requests_total", "Total number of HTTP requests"),
    ("http_request_duration_seconds", "HTTP request duration in seconds"),
    ("rule_parses_total", "Total number of rule string parses"),
    ("rule_evaluations_total", "Total number of rule evaluations"),
    ("rule_evaluation_duration_seconds", "Rule evaluation duration in seconds"),
    ("rules_stored", "Number of rules currently stored")]

/-- The description of a name, if it has one. -/
def helpLine? (name : String) : Option String :=
  (descriptions.lookup name).map fun text => "# HELP " ++ name ++ " " ++ text

/-- The kind of a name. -/
def typeLine (name : String) (r : Reading) : String := "# TYPE " ++ name ++ " " ++ r.kind

/-- The first reading of every name. -/
def families : List (Series × Reading) → List (String × Reading)
  | [] => []
  | (s, r) :: rest => (s.name, r) :: (families rest).filter fun f => f.1 != s.name

/-- Lines in the order of their code points. -/
def sortLines (lines : List String) : List String := lines.mergeSort fun a b => !decide (b < a)

/-- The lines of a log, sorted. -/
def exposition (log : List Measurement) : List String :=
  let heads := (families (readings log)).flatMap fun f =>
    (helpLine? f.1).toList ++ [typeLine f.1 f.2]
  sortLines (heads ++ (samples log).map Sample.text)

end Rulebook
