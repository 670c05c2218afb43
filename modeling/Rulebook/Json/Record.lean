/-
**Reading records.**

A record is written as an object, or as an array of its fields in order.  Members are taken in the
order in which they come: a field given twice is refused where it comes the second time, a member with
an unknown name is passed over, and only at the end is it asked whether a field is missing.

Values come from three sources, which differ in how they word an array that is too long, in whether
places are kept track of, and in whether there is a text that may break off.

Main definitions:

* `Rulebook.Json.Source` — where values come from;
* `Rulebook.Json.Record` — the fields of a record and how they are read;
* `Rulebook.Json.Record.read` — a record from an object or an array;
* `Rulebook.Json.alone`, `Rulebook.Json.buffered`, `Rulebook.Json.inText` — the three sources.

Main results:

* `Rulebook.Json.Record.readMembers_cons_eq_ok_iff`, `Rulebook.Json.Record.readItems_cons_cons_iff` — what
  one member and one item do.
-/

import Rulebook.Json.Fault

set_option autoImplicit false

namespace Rulebook.Json

/-! ### Sources -/

/-- What an array or object holds, and whether the text reaches its end. -/
inductive Contents (ε α : Type) where
  | members (ms : List (String × α)) (ending : Except ε Unit)
  | items (xs : List α) (ending : Except ε Unit)

/-- Where values come from: what they look like, and what errors look like. -/
structure Source (ε α : Type) where
  /-- A fault of the value at hand, as an error. -/
  fault : Fault → ε
  /-- An error found one step further down. -/
  under : Step → ε → ε
  /-- Passes over a value that nobody asks for. -/
  skip : α → Except ε Unit
  /-- Looks into an array or object; anything else is not what was expected. -/
  contents : (expected : String) → α → Except ε (Contents ε α)
  /-- The complaint about an array of `found` items for `count` fields. -/
  tooLong : (found count : Nat) → ε

/-- A value that stands on its own. -/
def alone : Source Fault Json where
  fault f := f
  under _ f := f
  skip _ := .ok ()
  contents expected
    | .object ms => .ok (.members ms (.ok ()))
    | .array xs => .ok (.items xs (.ok ()))
    | v => .error (.wrongType v.describe expected)
  tooLong found _ := .wrongLength found "fewer elements in array"

/-- A number of elements, as messages count them. -/
def elements (n : Nat) : String := toString n ++ (if n = 1 then " element" else " elements")

/-- A value that was set aside until the kind of the record it belongs to was known. -/
def buffered : Source Fault Json :=
  { alone with tooLong := fun found count => .wrongLength found (elements count ++ " in sequence") }

/-- A document as messages name it, or the complaint that it is not JSON. -/
def Document.describe? : Document → Except ReadError String
  | .broken => .error .notJson
  | .unreadable => .error .notJson
  | .null => .ok "null"
  | .bool b => .ok (Json.bool b).describe
  | .number n => .ok n.describe
  | .string s => .ok (Json.string s).describe
  | .array _ _ => .ok "sequence"
  | .object _ _ => .ok "map"
  | .strayKey _ => .ok "map"

/-- The complaint that a document is not what was expected. -/
def Document.unexpected (d : Document) (expected : String) : ReadError :=
  match d.describe? with
  | .ok found => .misfit [] (.wrongType found expected)
  | .error e => e

/-- The end of an array or object of a text. -/
def ending (closed : Bool) : Except ReadError Unit := if closed then .ok () else .error .notJson

/-- A value that is read off a text.  An array with more items than were asked for is not closed
where it should be, and an object is read as far as its keys are texts. -/
def inText : Source ReadError Document where
  fault f := .misfit [] f
  under := .under
  skip d := ending d.isWhole
  contents expected
    | .object ms closed =>
      .ok (.members (Document.readable ms) (ending (Document.hasTextKeys ms && closed)))
    | .array xs closed => .ok (.items xs (ending closed))
    | .strayKey _ => .error .notJson
    | d => .error (d.unexpected expected)
  tooLong _ _ := .notJson

/-! ### Records -/

/-- A field of a record.  `σ` holds what was read of the record so far. -/
structure Field (ε α σ : Type) where
  name : String
  /-- Whether the field may be left off at the end of an array. -/
  optional : Bool
  /-- Whether it was read already. -/
  isSet : σ → Bool
  /-- Reads its value. -/
  read : α → σ → Except ε σ

/-- How a record is read. -/
structure Record (ε α σ τ : Type) where
  /-- What messages call it. -/
  name : String
  /-- Its fields, in order. -/
  fields : List (Field ε α σ)
  /-- Nothing read so far. -/
  start : σ
  /-- The record, unless a field is missing. -/
  finish : σ → Except Fault τ

/-- A field that must have been read by now. -/
def required {α : Type} (name : String) : Option α → Except Fault α
  | some a => .ok a
  | none => .error (.missingField name)

namespace Record

variable {ε α σ τ : Type}

/-- Adds one step to the place of an error. -/
def locate (src : Source ε α) (s : Step) : Except ε σ → Except ε σ
  | .ok a => .ok a
  | .error e => .error (src.under s e)

/-- Reads members in the order in which they come. -/
def readMembers (src : Source ε α) (fields : List (Field ε α σ)) :
    List (String × α) → σ → Except ε σ
  | [], s => .ok s
  | (key, v) :: rest, s =>
    match fields.find? (fun f => f.name == key) with
    | none =>
      match src.skip v with
      | .ok () => readMembers src fields rest s
      | .error e => .error e
    | some f =>
      if f.isSet s then .error (src.fault (.duplicateField key))
      else
        match locate src (.key key) (f.read v s) with
        | .ok s => readMembers src fields rest s
        | .error e => .error e

/-- Reads the items of an array of which `n` were read before.  Where the array ends early, fields
that may be left off are passed over, and the first that may not is missed. -/
def readItems (src : Source ε α) (tooShort : Nat → Fault) (ending : Except ε Unit) (n : Nat) :
    List (Field ε α σ) → List α → σ → Except ε σ
  | [], [], s => ending.map fun _ => s
  | [], rest, _ => .error (src.tooLong (n + rest.length) n)
  | f :: fields, v :: rest, s =>
    match locate src (.index n) (f.read v s) with
    | .ok s => readItems src tooShort ending (n + 1) fields rest s
    | .error e => .error e
  | f :: fields, [], s =>
    match ending with
    | .error e => .error e
    | .ok () =>
      if f.optional then readItems src tooShort ending n fields [] s
      else .error (src.fault (tooShort n))

section Steps

variable {src : Source ε α} {fields : List (Field ε α σ)} {key : String} {v : α} {s s' : σ}

/-- A member is passed over if it is no field, and else read into a field that was not read before. -/
theorem readMembers_cons_eq_ok_iff {rest : List (String × α)} :
    readMembers src fields ((key, v) :: rest) s = .ok s' ↔
      (fields.find? (fun f => f.name == key) = none ∧ src.skip v = .ok () ∧
        readMembers src fields rest s = .ok s') ∨
      ∃ f s₁, fields.find? (fun f => f.name == key) = some f ∧ f.isSet s = false ∧
        f.read v s = .ok s₁ ∧ readMembers src fields rest s₁ = .ok s' := by
  rw [readMembers]
  cases fields.find? (fun f => f.name == key) with
  | none => cases hskip : src.skip v <;> simp
  | some f =>
    cases hset : f.isSet s <;> cases hread : f.read v s <;> simp [locate, hset, hread]

variable {tooShort : Nat → Fault} {ending : Except ε Unit} {n : Nat} {f : Field ε α σ} {xs : List α}

@[simp] theorem readItems_nil_iff :
    readItems src tooShort ending n [] xs s = .ok s' ↔ xs = [] ∧ ending = .ok () ∧ s = s' := by
  cases xs <;> cases ending <;> simp [readItems, Except.map]

@[simp] theorem readItems_cons_nil_iff :
    readItems src tooShort ending n (f :: fields) [] s = .ok s' ↔
      ending = .ok () ∧ f.optional = true ∧
        readItems src tooShort ending n fields [] s = .ok s' := by
  cases ending <;> cases hf : f.optional <;> simp [readItems, hf]

@[simp] theorem readItems_cons_cons_iff :
    readItems src tooShort ending n (f :: fields) (v :: xs) s = .ok s' ↔
      ∃ s₁, f.read v s = .ok s₁ ∧
        readItems src tooShort ending (n + 1) fields xs s₁ = .ok s' := by
  cases hv : f.read v s <;> simp [readItems, locate, hv]

end Steps

/-- Finishes a record, with the fault as an error of the source. -/
def finished (src : Source ε α) (r : Record ε α σ τ) (s : σ) : Except ε τ :=
  match r.finish s with
  | .ok t => .ok t
  | .error f => .error (src.fault f)

theorem finished_eq_ok_iff {src : Source ε α} {r : Record ε α σ τ} {s : σ} {t : τ} :
    finished src r s = .ok t ↔ r.finish s = .ok t := by
  rw [finished]
  cases r.finish s <;> simp

/-- What messages expect when an array for the record is too short. -/
def expectation (r : Record ε α σ τ) : String :=
  "struct " ++ r.name ++ " with " ++ elements r.fields.length

/-- Reads a record from the contents of an object or array. -/
def readContents (src : Source ε α) (r : Record ε α σ τ) : Contents ε α → Except ε τ
  | .members ms ending => do
    let s ← readMembers src r.fields ms r.start
    ending
    finished src r s
  | .items xs ending => do
    let s ← readItems src (fun n => .wrongLength n r.expectation) ending 0 r.fields xs r.start
    finished src r s

/-- Reads a record. -/
def read (src : Source ε α) (r : Record ε α σ τ) (v : α) : Except ε τ := do
  readContents src r (← src.contents ("struct " ++ r.name) v)

end Record

/-! ### Values that are no records -/

/-- A text. -/
def readString : Json → Except Fault String
  | .string s => .ok s
  | v => .error (.wrongType v.describe "a string")

/-- A value that one of several names stands for.  Instead of a name there may be an object with the
name as its only key and nothing as its value; `isNothing` says what counts as nothing. -/
def readVariant {τ : Type} (isNothing : Json → Bool) (names : List (String × τ)) :
    Json → Except Fault τ
  | .string s => named s
  | .object [(key, v)] => do
    let t ← named key
    if isNothing v then return t else .error (.wrongType v.describe "unit")
  | .object _ => .error .notOneKey
  | v => .error (.wrongType v.describe "string or map")
where
  /-- What a name stands for. -/
  named (s : String) : Except Fault τ :=
    match names.lookup s with
    | some t => .ok t
    | none => .error (.unknownVariant s (names.map Prod.fst))

/-- What messages expect where a name should stand. -/
def variantExpectation : String := "variant identifier"

/-- `null` is nothing. -/
def isNull : Json → Bool
  | .null => true
  | _ => false

/-- In a value that was set aside, an object without members is nothing as well. -/
def isNullOrEmpty : Json → Bool
  | .null => true
  | .object [] => true
  | _ => false

namespace Document

/-- A text in a text. -/
def readString : Document → Except ReadError String
  | .string s => .ok s
  | d => .error (d.unexpected "a string")

/-- A truth value in a text. -/
def readBool : Document → Except ReadError Bool
  | .bool b => .ok b
  | d => .error (d.unexpected "a boolean")

/-- Any value in a text, in normal form. -/
def readValue (d : Document) : Except ReadError Json :=
  match d.toJson? with
  | some v => .ok v.normalize
  | none => .error .notJson

/-- A name in a text.  Anything but a text or an object with one key is no JSON for a name; but what
stands in the place of that key is told. -/
def readVariant {τ : Type} (names : List (String × τ)) : Document → Except ReadError τ
  | .string s => named s
  | .object ((some key, d) :: rest) closed => do
    let t ← named key
    match d with
    | .null => if rest.isEmpty ∧ closed then return t else .error .notJson
    | d => .error ((d.unexpected "unit").under (.key key))
  | .strayKey d => .error (d.unexpected variantExpectation)
  | _ => .error .notJson
where
  /-- What a name stands for. -/
  named (s : String) : Except ReadError τ :=
    match names.lookup s with
    | some t => .ok t
    | none => .error (.misfit [] (.unknownVariant s (names.map Prod.fst)))

/-- The items of an array in a text, each read in turn. -/
def readList {τ : Type} (readItem : Document → Except ReadError τ) :
    Document → Except ReadError (List τ)
  | .array items closed => do
    let values ← go 0 items
    ending closed
    return values
  | d => .error (d.unexpected "a sequence")
where
  /-- The items from the `n`-th on. -/
  go (n : Nat) : List Document → Except ReadError (List τ)
    | [] => .ok []
    | d :: rest =>
      match readItem d with
      | .error e => .error (e.under (.index n))
      | .ok t => (go (n + 1) rest).map (t :: ·)

end Document

end Rulebook.Json
