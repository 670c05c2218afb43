/-
**Settings as they are written.**

A setting is a value of a settings file or of an environment variable.  Tables hold further settings
under keys.  Several sources of settings are laid over each other: what comes later replaces what came
before, except that tables are joined.

Main definitions:

* `Rulebook.Setting` — settings;
* `Rulebook.Setting.merge` — a setting laid over another;
* `Rulebook.Setting.assign` — a setting laid over what stands at a path.

Main results:

* `Rulebook.Setting.lookup_put` — what stands under a key after a change.
-/

set_option autoImplicit false

namespace Rulebook

/-- A setting. -/
inductive Setting where
  | bool (b : Bool)
  | integer (n : Int)
  | float (x : Float)
  | text (s : String)
  | list (items : List Setting)
  | table (members : List (String × Setting))

instance : Inhabited Setting := ⟨.table []⟩

namespace Setting

/-- The members of a table; anything else has none. -/
def members : Setting → List (String × Setting)
  | table ms => ms
  | _ => []

/-- Puts a value under a key, in place of the one that was there. -/
def put {α : Type} (key : String) (v : α) : List (String × α) → List (String × α)
  | [] => [(key, v)]
  | (k, w) :: rest => if k = key then (key, v) :: rest else (k, w) :: put key v rest

theorem lookup_put {α : Type} (key key' : String) (v : α) (ms : List (String × α)) :
    (put key v ms).lookup key' = if key' = key then some v else ms.lookup key' := by
  induction ms with
  | nil =>
    by_cases h : key' = key
    · simp [put, h]
    · have hne : (key' == key) = false := by simpa using h
      simp [put, List.lookup_cons, h, hne]
  | cons m rest ih =>
    obtain ⟨k, w⟩ := m
    by_cases hk : k = key
    · by_cases h : key' = key
      · simp [put, hk, h]
      · have hne : (key' == key) = false := by simpa using h
        simp [put, List.lookup_cons, hk, h, hne]
    · by_cases h : key' = k
      · simp [put, hk, h]
      · have hne : (key' == k) = false := by simpa using h
        simp [put, List.lookup_cons, hk, hne, ih]

mutual

/-- A setting laid over what was there before, if anything: tables are joined, and anything else is
replaced. -/
def merge (before : Option Setting) : Setting → Setting
  | table ms => table (mergeMembers ((before.map members).getD []) ms)
  | v => v

/-- The members of a table laid over those that were there before. -/
def mergeMembers (before : List (String × Setting)) : List (String × Setting) → List (String × Setting)
  | [] => before
  | (key, v) :: rest => mergeMembers (put key (merge (before.lookup key) v) before) rest

end

/-- Lays a setting over what stands at a path in a table.  What is no table on the way becomes one. -/
def assign (v : Setting) : List String → List (String × Setting) → List (String × Setting)
  | [], ms => ms
  | [key], ms => put key (merge (ms.lookup key) v) ms
  | key :: path, ms => put key (table (assign v path ((ms.lookup key).map members |>.getD []))) ms

end Setting

end Rulebook
