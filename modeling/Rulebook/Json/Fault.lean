/-
**What can be wrong with a JSON value.**

A value that is JSON may still not have the shape that is asked for.  Each fault is a cause, worded
once, here.  A fault found while a text is read also has a place.

Main definitions:

* `Rulebook.Json.Fault`, `Rulebook.Json.Fault.message` — why a value does not fit;
* `Rulebook.Json.Step`, `Rulebook.Json.placeText` — the way to a place in a text;
* `Rulebook.Json.ReadError` — the outcome of reading a text that cannot be used.
-/

import Rulebook.Text.Quoted
import Rulebook.Json.Document
import Rulebook.Decimal.Layout

set_option autoImplicit false

namespace Rulebook.Json

/-! ### Faults -/

/-- Why a value does not have the shape that is asked for. -/
inductive Fault where
  /-- A required member is absent. -/
  | missingField (name : String)
  /-- A member is given twice. -/
  | duplicateField (name : String)
  /-- A value of one kind where another is expected. -/
  | wrongType (found expected : String)
  /-- A name that is none of those known. -/
  | unknownVariant (name : String) (known : List String)
  /-- A number that is no index of a known name. -/
  | unknownIndex (index : Nat) (count : Nat)
  /-- An object in place of a name must have one key. -/
  | notOneKey
  /-- An array with too few or too many items. -/
  | wrongLength (found : Nat) (expected : String)
  /-- A literal that is neither a number nor a text. -/
  | noScalar
  /-- An operand that tells neither its kind nor a name nor a value. -/
  | noOperand
  deriving DecidableEq, Repr

/-- A name as messages quote it. -/
def ticked (s : String) : String := "`" ++ s ++ "`"

/-- The names that were expected, as messages list them. -/
def oneOf : List String → String
  | [a, b] => ticked a ++ " or " ++ ticked b
  | names => "one of " ++ ", ".intercalate (names.map ticked)

/-- The wording of a fault. -/
def Fault.message : Fault → String
  | missingField name => "missing field " ++ ticked name
  | duplicateField name => "duplicate field " ++ ticked name
  | wrongType found expected => "invalid type: " ++ found ++ ", expected " ++ expected
  | unknownVariant name known => "unknown variant " ++ ticked name ++ ", expected " ++ oneOf known
  | unknownIndex index count =>
    "invalid value: integer " ++ ticked (toString index) ++ ", expected variant index 0 <= i < " ++
      toString count
  | notOneKey => "invalid value: map, expected map with a single key"
  | wrongLength found expected =>
    "invalid length " ++ toString found ++ ", expected " ++ expected
  | noScalar => "data did not match any variant of untagged enum Scalar"
  | noOperand => "操作数必须包含 type、name 或 value 字段"

/-! ### Naming what was found -/

/-- A number as messages name it. -/
def Number.describe : Number → String
  | .integer n => "integer " ++ ticked (toString n)
  | .double x => "floating point " ++ ticked (pointedText x)

/-- A value as messages name it. -/
def describe : Json → String
  | .null => "null"
  | .bool b => "boolean " ++ ticked (toString b)
  | .number n => n.describe
  | .string s => "string " ++ quoted s
  | .array _ => "sequence"
  | .object _ => "map"

/-! ### Places -/

/-- One step into a JSON text. -/
inductive Step where
  /-- To the member with a name. -/
  | key (name : String)
  /-- To the item with a number. -/
  | index (n : Nat)
  deriving DecidableEq, Repr

/-- The way to a place, as messages write it. -/
def placeText : List Step → String
  | [] => ""
  | .key name :: rest => rest.foldl further name
  | .index n :: rest => rest.foldl further (bracketed n)
where
  /-- The number of an item in brackets. -/
  bracketed (n : Nat) : String := "[" ++ toString n ++ "]"
  /-- The way one step further. -/
  further (text : String) : Step → String
    | .key name => text ++ "." ++ name
    | .index n => text ++ bracketed n

/-- Why a text cannot be used. -/
inductive ReadError where
  /-- The text is not JSON, or cannot be read as a value. -/
  | notJson
  /-- At a place of the text stands something of the wrong shape. -/
  | misfit (place : List Step) (fault : Fault)
  deriving DecidableEq, Repr

/-- The same error one step further down. -/
def ReadError.under (s : Step) : ReadError → ReadError
  | notJson => notJson
  | misfit place fault => misfit (s :: place) fault

end Rulebook.Json
