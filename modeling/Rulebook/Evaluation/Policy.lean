/-
**Evaluation policies.**

What an evaluation does with data that does not fit is chosen by four policies: when an attribute
counts as present, how values of different kinds compare, whether `>=` and `<=` are evaluated at all,
and what a missing attribute means.

Main definitions:

* `Rulebook.Policy` — the four choices;
* `Rulebook.Policy.lenient`, `Rulebook.Policy.legacy`, `Rulebook.Policy.strict` — three presets;
* `Rulebook.Policy.all` — every combination;
* `Rulebook.Policy.toJson`, `Rulebook.Policy.ofJson?` — policies as JSON.
-/

import Rulebook.Json.Record

set_option autoImplicit false

namespace Rulebook

/-- When an attribute counts as present. -/
inductive Presence where
  /-- When the data has it and it is not `null`. -/
  | strict
  /-- When it is also neither zero nor false nor an empty text. -/
  | truthy
  deriving DecidableEq, Repr

/-- How values of different kinds compare. -/
inductive Coercion where
  /-- As numbers when both look like numbers, otherwise as texts. -/
  | loose
  /-- Not at all. -/
  | strict
  deriving DecidableEq, Repr

/-- What becomes of the relations `>=` and `<=`. -/
inductive Inclusive where
  /-- They are evaluated. -/
  | evaluate
  /-- They never hold. -/
  | legacyFalse
  deriving DecidableEq, Repr

/-- What a missing attribute without a default means. -/
inductive Missing where
  /-- The condition does not hold. -/
  | failClosed
  /-- There is no verdict. -/
  | error
  deriving DecidableEq, Repr

/-- The choices that an evaluation follows. -/
structure Policy where
  presence : Presence
  comparison : Coercion
  inclusive : Inclusive
  missing : Missing
  deriving DecidableEq, Repr

namespace Policy

/-- Missing data and values that do not compare make a condition fail, never the evaluation. -/
def lenient : Policy := ⟨.strict, .loose, .evaluate, .failClosed⟩

/-- Empty values count as missing and inclusive relations never hold. -/
def legacy : Policy := ⟨.truthy, .loose, .legacyFalse, .failClosed⟩

/-- Nothing is converted, and what is missing is an error. -/
def strict : Policy := ⟨.strict, .strict, .evaluate, .error⟩

instance : Inhabited Policy := ⟨lenient⟩

/-- Whether values and nodes that do not fit are errors. -/
def rejectsUnsupported (p : Policy) : Bool := p.comparison == .strict

/-- Every combination of choices, the last choice varying fastest. -/
def all : List Policy :=
  [Presence.strict, .truthy].flatMap fun presence =>
    [Coercion.loose, .strict].flatMap fun comparison =>
      [Inclusive.evaluate, .legacyFalse].flatMap fun inclusive =>
        [Missing.failClosed, .error].map fun missing =>
          ⟨presence, comparison, inclusive, missing⟩

theorem mem_all (p : Policy) : p ∈ all := by
  obtain ⟨presence, comparison, inclusive, missing⟩ := p
  cases presence <;> cases comparison <;> cases inclusive <;> cases missing <;> decide

end Policy

/-! ### Names -/

/-- The names of the choices for presence. -/
def Presence.wireNames : List (String × Presence) := [("strict", .strict), ("truthy", .truthy)]

/-- The names of the choices for comparison. -/
def Coercion.wireNames : List (String × Coercion) := [("loose", .loose), ("strict", .strict)]

/-- The names of the choices for inclusive relations. -/
def Inclusive.wireNames : List (String × Inclusive) :=
  [("evaluate", .evaluate), ("legacy_false", .legacyFalse)]

/-- The names of the choices for missing attributes. -/
def Missing.wireNames : List (String × Missing) :=
  [("fail_closed", .failClosed), ("error", .error)]

/-- The name under which a choice is listed. -/
def wireName {τ : Type} [BEq τ] (names : List (String × τ)) (t : τ) : String :=
  match names.find? fun n => n.2 == t with
  | some (name, _) => name
  | none => ""

/-! ### JSON -/

namespace Policy

open Json (Fault Field Record)

/-- The JSON form of a policy. -/
def toJson (p : Policy) : Json :=
  .object [("presence", .string (wireName Presence.wireNames p.presence)),
    ("comparison", .string (wireName Coercion.wireNames p.comparison)),
    ("inclusive", .string (wireName Inclusive.wireNames p.inclusive)),
    ("missing", .string (wireName Missing.wireNames p.missing))]

/-- What was read of a policy so far. -/
structure Parts where
  presence : Option Presence := none
  comparison : Option Coercion := none
  inclusive : Option Inclusive := none
  missing : Option Missing := none

/-- A policy: four choices, each of which may be absent and is then the lenient one. -/
def record : Record Fault Json Parts Policy where
  name := "EvaluatorOptions"
  fields :=
    [⟨"presence", true, fun p => p.presence.isSome, fun v p => do
        return { p with presence := some (← Json.readVariant Json.isNull Presence.wireNames v) }⟩,
      ⟨"comparison", true, fun p => p.comparison.isSome, fun v p => do
        return { p with comparison := some (← Json.readVariant Json.isNull Coercion.wireNames v) }⟩,
      ⟨"inclusive", true, fun p => p.inclusive.isSome, fun v p => do
        return { p with inclusive := some (← Json.readVariant Json.isNull Inclusive.wireNames v) }⟩,
      ⟨"missing", true, fun p => p.missing.isSome, fun v p => do
        return { p with missing := some (← Json.readVariant Json.isNull Missing.wireNames v) }⟩]
  start := {}
  finish p := .ok
    ⟨p.presence.getD lenient.presence, p.comparison.getD lenient.comparison,
      p.inclusive.getD lenient.inclusive, p.missing.getD lenient.missing⟩

/-- The policy that a value in normal form spells. -/
def ofJson? (v : Json) : Except Fault Policy := record.read Json.alone v

end Policy

end Rulebook
