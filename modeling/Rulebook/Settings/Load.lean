/-
**Where settings come from.**

Settings are laid over each other in a fixed order: the names that the service is started with, a file
for every service, a file for the environment, a file for the service, and the environment variables
that belong to the program.  At last a variable of the service's own may name its port.

Main definitions:

* `Rulebook.Settings.variablePath?` — the setting that an environment variable gives;
* `Rulebook.Settings.variableValue` — the value that its text spells;
* `Rulebook.Settings.portVariable` — the variable that names the port of a service;
* `Rulebook.Settings.load` — the settings of a service in an environment;
* `Rulebook.Settings.loadFromVariables` — the same, with the environment named by a variable.
-/

import Rulebook.Settings.Basic
import Rulebook.Text.Case
import Rulebook.Toml.Document

set_option autoImplicit false

namespace Rulebook.Settings

/-- Texts under names: files or environment variables. -/
abbrev Sources := List (String × String)

/-- Why there are no settings. -/
inductive LoadFault where
  /-- A file is malformed. -/
  | malformed (file : String)
  /-- A setting is of the wrong kind or out of range. -/
  | misfit
  deriving DecidableEq, Repr

/-! ### Paths -/

/-- Whether a text can be a part of a path of settings. -/
def isPathPart (part : List Char) : Bool := !part.isEmpty && part.all Toml.isBareChar

/-- The path that a key of the outermost table stands for: its parts between dots or, if those are no
parts of a path, the key as a whole. -/
def keyPath (key : String) : List String :=
  let parts := key.toList.splitOn '.'
  if parts.all isPathPart then parts.map String.ofList else [key]

/-- Lays settings with paths over others, in order. -/
def overlay (ms : List (String × Setting)) (layer : List (List String × Setting)) :
    List (String × Setting) :=
  layer.foldl (fun ms entry => Setting.assign entry.2 entry.1 ms) ms

/-! ### Environment variables -/

/-- What the names of the program's variables start with. -/
def variableStart : List Char := "rules_".toList

/-- A text with every pair of underscores, from the left, written as a dot. -/
def dotted : List Char → List Char
  | '_' :: '_' :: cs => '.' :: dotted cs
  | c :: cs => c :: dotted cs
  | [] => []

/-- The path of the setting that a variable gives, if it belongs to the program; case does not
matter. -/
def variablePath? (name : String) : Option (List String) :=
  let cs := name.toList.map Char.toLower
  if variableStart.isPrefixOf cs then
    some (keyPath (String.ofList (dotted (cs.drop variableStart.length))))
  else none

/-- The whole number with a sign and of 64 bits that a text spells. -/
def signedNumber? (cs : List Char) : Option Int :=
  let (negative, body) := splitSign cs
  let value : Int := if negative then -(natOfDigits body : Int) else natOfDigits body
  if body ≠ [] ∧ body.all Char.isDigit then (some value).filter Toml.fitsSigned else none

/-- The value that the text of a variable spells: a truth value, a whole number, a number, or else the
text itself. -/
def variableValue (s : String) : Setting :=
  let word := lowerWord s
  if word = "true" then .bool true
  else if word = "false" then .bool false
  else
    match signedNumber? s.toList with
    | some n => .integer n
    | none =>
      match readFloat? s.toList with
      | some x => .float x
      | none => .text s

/-- The settings that environment variables give. -/
def variableLayer (vars : Sources) : List (List String × Setting) :=
  vars.filterMap fun v => (variablePath? v.1).map fun path => (path, variableValue v.2)

/-! ### Files -/

/-- The ending of the names of settings files. -/
def fileEnding : String := ".toml"

/-- The settings of the file with a name, if there is one.  What consists of the ending alone is no name
of a settings file. -/
def fileLayer (files : Sources) (name : String) : Except LoadFault (List (List String × Setting)) :=
  match files.lookup (name ++ fileEnding) with
  | none => .ok []
  | some text =>
    if name = "" then .ok []
    else
      match Toml.parse? text with
      | some ms => .ok (ms.map fun m => (keyPath m.1, m.2))
      | none => .error (.malformed (name ++ fileEnding))

/-! ### All together -/

/-- The variable that names the port of a service. -/
def portVariable (service : String) : String :=
  String.ofList ((upperCase service).toList.map fun c => if c = '-' then '_' else c) ++ "_PORT"

/-- The port that a variable names for a service, if it is usable. -/
def variablePort? (vars : Sources) (service : String) : Option Nat :=
  (vars.lookup (portVariable service)).bind fun s => indexOf? portBound s.toList

/-- The file that is read for every service. -/
def commonFile : String := "default"

/-- The settings of a service in an environment. -/
def load (files vars : Sources) (service environment : String) : Except LoadFault Settings := do
  let common ← fileLayer files commonFile
  let ofEnvironment ← fileLayer files environment
  let ofService ← fileLayer files service
  let start := [("service_name", Setting.text service), ("environment", .text environment)]
  let ms := [common, ofEnvironment, ofService, variableLayer vars].foldl overlay start
  match ofSetting? (.table ms) with
  | none => throw .misfit
  | some s =>
    match variablePort? vars service with
    | some port => return { s with server := { s.server with port } }
    | none => return s

/-- The variable that names the environment. -/
def environmentVariable : String := "RULES_ENV"

/-- The environment of a service when nothing names one. -/
def defaultEnvironment : String := "development"

/-- The settings of a service, in the environment that a variable names. -/
def loadFromVariables (files vars : Sources) (service : String) : Except LoadFault Settings :=
  load files vars service ((vars.lookup environmentVariable).getD defaultEnvironment)

end Rulebook.Settings
