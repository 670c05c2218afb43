/-
**Starting to log and to measure.**

A process takes one logger and one recorder of measurements, and keeps them.  Starting a second time
fails, at the logger if both are asked for.

Main definitions:

* `Rulebook.Observers` — whether a process has its logger and its recorder;
* `Rulebook.Observers.startLogging`, `Rulebook.Observers.startRecording` — taking one of them;
* `Rulebook.Observers.start` — both, as a service does when it starts.
-/

import Rulebook.Metrics.Measurement
import Rulebook.Store.Failure

set_option autoImplicit false

namespace Rulebook

/-- Why a process cannot start to log or to measure. -/
inductive StartFault where
  /-- It has a logger. -/
  | logging
  /-- It has a recorder of measurements. -/
  | recording
  deriving DecidableEq, Repr

/-- The wording of a fault. -/
def StartFault.message : StartFault → String
  | logging => "a global default trace dispatcher has already been set"
  | recording =>
    "failed to install exporter as global recorder: attempted to set a recorder after the " ++
      "metrics system was already initialized"

/-- What a process has started. -/
structure Observers where
  logging : Bool
  recording : Bool
  /-- What was measured, in order. -/
  log : List Measurement

namespace Observers

/-- A process that has started nothing. -/
def idle : Observers := ⟨false, false, []⟩

/-- Starts to log. -/
def startLogging (o : Observers) : Except StartFault Observers :=
  if o.logging then .error .logging else .ok { o with logging := true }

/-- Starts to measure, which counts the start of the service. -/
def startRecording (service : String) (o : Observers) : Except StartFault Observers :=
  if o.recording then .error .recording
  else .ok { o with recording := true, log := o.log ++ [.serviceStart service] }

/-- Starts to log and, unless that is switched off, to measure. -/
def start (service : String) (measured : Bool) (o : Observers) : Except Failure Observers :=
  let started := do
    let o ← o.startLogging
    if measured then o.startRecording service else return o
  started.mapError fun f => .observability f.message

/-- Measures something, in a process that has a recorder. -/
def record (m : Measurement) (o : Observers) : Observers :=
  if o.recording then { o with log := o.log ++ [m] } else o

end Observers

end Rulebook
