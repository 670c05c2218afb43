/-
**The tables of a settings file.**

A settings file gives its members one by one, under headers that open tables and with keys that lead
into tables of their own.  No key may be given twice and no table opened twice; how a table came about
decides what may still be added to it.

Main definitions:

* `Rulebook.Toml.Node` — a member of a file that is being read;
* `Rulebook.Toml.insert?` — adds a member to the open table;
* `Rulebook.Toml.openTable?`, `Rulebook.Toml.openItem?` — opens a table or one more item of a list;
* `Rulebook.Toml.within?` — changes the table that was opened at a path;
* `Rulebook.Toml.Node.toSetting` — a member as a setting.
-/

import Rulebook.Toml.Setting

set_option autoImplicit false

namespace Rulebook.Toml

/-- How a table came about. -/
inductive Origin where
  /-- By a header. -/
  | header
  /-- By the header of a table inside it. -/
  | passage
  /-- By a key with dots. -/
  | dots
  deriving DecidableEq, Repr

/-- A member of a file that is being read. -/
inductive Node where
  /-- A value, to which nothing can be added. -/
  | leaf (v : Setting)
  | table (origin : Origin) (members : List (String × Node))
  /-- A list of tables, the last first. -/
  | tables (items : List (List (String × Node)))

/-- The members of a table. -/
abbrev Members := List (String × Node)

/-! ### Adding members -/

/-- Adds a value under a key with dots to the open table.  Tables on the way are made if they are not
there; they may not have been opened by a header, and the one that takes the value must have been made
by a key with dots. -/
def insert? (v : Setting) : List String → Members → Option Members
  | [], _ => none
  | [key], ms =>
    match ms.lookup key with
    | some _ => none
    | none => some (ms ++ [(key, .leaf v)])
  | key :: next :: path, ms =>
    match ms.lookup key with
    | none => (insert? v (next :: path) []).map fun t => ms ++ [(key, .table .dots t)]
    | some (.table .dots t) =>
      (insert? v (next :: path) t).map fun t => Setting.put key (.table .dots t) ms
    | some (.table .passage t) =>
      if path = [] then none
      else (insert? v (next :: path) t).map fun t => Setting.put key (.table .passage t) ms
    | some (.tables (last :: before)) =>
      if path = [] then none
      else (insert? v (next :: path) last).map fun t => Setting.put key (.tables (t :: before)) ms
    | some _ => none

/-! ### Opening tables -/

/-- Opens what a path leads to; `openLast` opens the member under the last key.  Tables on the way are
made if they are not there. -/
def openAt? (openLast : Option Node → Option Node) : List String → Members → Option Members
  | [], _ => none
  | [key], ms => (openLast (ms.lookup key)).map fun n => Setting.put key n ms
  | key :: path, ms =>
    match ms.lookup key with
    | none => (openAt? openLast path []).map fun t => Setting.put key (.table .passage t) ms
    | some (.table origin t) =>
      (openAt? openLast path t).map fun t => Setting.put key (.table origin t) ms
    | some (.tables (last :: before)) =>
      (openAt? openLast path last).map fun t => Setting.put key (.tables (t :: before)) ms
    | some _ => none

/-- Opens a table: one that is not there, or that came about on the way to another. -/
def openTable? : List String → Members → Option Members :=
  openAt? fun
    | none => some (.table .header [])
    | some (.table .passage t) => some (.table .header t)
    | some _ => none

/-- Opens one more item of a list of tables. -/
def openItem? : List String → Members → Option Members :=
  openAt? fun
    | none => some (.tables [[]])
    | some (.tables items) => some (.tables ([] :: items))
    | some _ => none

/-- Changes the table that was opened at a path; in lists of tables, the last is meant. -/
def within? (change : Members → Option Members) : List String → Members → Option Members
  | [], ms => change ms
  | key :: path, ms =>
    match ms.lookup key with
    | some (.table origin t) =>
      (within? change path t).map fun t => Setting.put key (.table origin t) ms
    | some (.tables (last :: before)) =>
      (within? change path last).map fun t => Setting.put key (.tables (t :: before)) ms
    | _ => none

/-! ### Settings -/

mutual

/-- A member as a setting. -/
def Node.toSetting : Node → Setting
  | .leaf v => v
  | .table _ ms => .table (membersToSettings ms)
  | .tables items => .list (tablesToSettings items [])

/-- The members of a table as settings. -/
def membersToSettings : List (String × Node) → List (String × Setting)
  | [] => []
  | (key, n) :: rest => (key, n.toSetting) :: membersToSettings rest

/-- A list of tables, the last first, as settings, before those that were converted before. -/
def tablesToSettings : List (List (String × Node)) → List Setting → List Setting
  | [], before => before
  | ms :: rest, before => tablesToSettings rest (.table (membersToSettings ms) :: before)

end

end Rulebook.Toml
