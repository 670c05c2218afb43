/-
**JSON values.**

The data that rules are evaluated on, the wire form of rules, requests and answers are all JSON.  A
value keeps the members of an object in a list; in a value that stands on its own, as the data of an
evaluation does, the list is sorted by key and no key occurs twice, and `Json.normalize` brings any
value into that form.

Main definitions:

* `Rulebook.Json` — JSON values, with integers of 64 bits kept apart from doubles;
* `Rulebook.Json.get?` — the member of an object under a key;
* `Rulebook.Json.normalize` — keys sorted, the last of equal keys kept;
* `Rulebook.Json.depth` — how deep arrays and objects are nested.
-/

set_option autoImplicit false

namespace Rulebook

/-- A number of JSON: an integer of at most 64 bits keeps its kind, every other number is a double. -/
inductive Json.Number where
  /-- An integer between `-2 ^ 63` and `2 ^ 64 - 1`. -/
  | integer (n : Int)
  /-- Any other number. -/
  | double (x : Float)

/-- A JSON value. -/
inductive Json where
  | null
  | bool (b : Bool)
  | number (n : Json.Number)
  | string (s : String)
  | array (items : List Json)
  | object (members : List (String × Json))

instance : Inhabited Json := ⟨.null⟩

namespace Json

/-- The double that a number of JSON stands for. -/
def Number.toFloat : Number → Float
  | .integer n => if n < 0 then -Float.ofNat n.natAbs else Float.ofNat n.natAbs
  | .double x => x

/-- The kind of a value, as messages name it. -/
def kind : Json → String
  | .null => "null"
  | .bool _ => "boolean"
  | .number _ => "number"
  | .string _ => "string"
  | .array _ => "array"
  | .object _ => "object"

/-- Whether the value is an object. -/
def isObject : Json → Bool
  | .object _ => true
  | _ => false

/-- The first member of an object under a key. -/
def get? : Json → String → Option Json
  | .object members, key => members.lookup key
  | _, _ => none

/-! ### Normal form -/

/-- Puts a member into a sorted list of members; an earlier member under the same key is replaced. -/
def insertMember {α : Type} (key : String) (value : α) : List (String × α) → List (String × α)
  | [] => [(key, value)]
  | (k, v) :: rest =>
    if key < k then (key, value) :: (k, v) :: rest
    else if key = k then (key, value) :: rest
    else (k, v) :: insertMember key value rest

/-- Members sorted by key, of equal keys the last. -/
def sortMembers {α : Type} (members : List (String × α)) : List (String × α) :=
  members.foldl (fun sorted m => insertMember m.1 m.2 sorted) []

mutual

/-- The value with the members of every object sorted by key, of equal keys the last. -/
def normalize : Json → Json
  | .array items => .array (normalizeItems items)
  | .object members => .object (sortMembers (normalizeMembers members))
  | v => v

/-- `normalize` for every item. -/
def normalizeItems : List Json → List Json
  | [] => []
  | v :: rest => normalize v :: normalizeItems rest

/-- `normalize` for the value of every member. -/
def normalizeMembers : List (String × Json) → List (String × Json)
  | [] => []
  | (key, v) :: rest => (key, normalize v) :: normalizeMembers rest

end

/-! ### Nesting -/

mutual

/-- How deep arrays and objects are nested; zero for a value that is neither. -/
def depth : Json → Nat
  | .array items => 1 + depthItems items
  | .object members => 1 + depthMembers members
  | _ => 0

/-- The greatest depth among items. -/
def depthItems : List Json → Nat
  | [] => 0
  | v :: rest => max (depth v) (depthItems rest)

/-- The greatest depth among the values of members. -/
def depthMembers : List (String × Json) → Nat
  | [] => 0
  | (_, v) :: rest => max (depth v) (depthMembers rest)

end

@[simp] theorem normalizeItems_eq_map (items : List Json) :
    normalizeItems items = items.map normalize := by
  induction items with
  | nil => rfl
  | cons v rest ih => simp [normalizeItems, ih]

theorem get?_object (members : List (String × Json)) (key : String) :
    (Json.object members).get? key = members.lookup key := rfl

theorem mem_of_lookup {α : Type} {members : List (String × α)} {key : String} {v : α}
    (h : members.lookup key = some v) : (key, v) ∈ members := by
  obtain ⟨before, after, rfl, -⟩ := List.lookup_eq_some_iff.1 h
  exact List.mem_append_right before List.mem_cons_self

end Json

end Rulebook
