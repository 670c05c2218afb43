/-
**What a JSON text says, as far as it says something.**

A request is judged while its text is read: a value of the wrong shape is reported even if the text
breaks off further on, and a part that nobody asks for is passed over.  A `Document` is the outcome of
reading such a text.  It keeps members in the order of the text and with repetitions; it may end
early, at the place where the text stops being JSON; and it may hold parts that can be passed over but
not read, such as a number too large for a double or a key that holds half a surrogate pair.

Main definitions:

* `Rulebook.Json.Document` — what was read of a JSON text;
* `Rulebook.Json.Document.isWhole` — whether the text of the value was read to its end;
* `Rulebook.Json.Document.toJson?` — the value, when all of it can be read;
* `Rulebook.Json.Document.readable` — the members of an object up to a key that is no text;
* `Rulebook.Json.toDocument` — a value as a document.

Main results:

* `Rulebook.Json.Document.mem_of_mem_readable` — what can be read of an object are members of it;
* `Rulebook.Json.toJson?_toDocument` — a value's document reads as the value.
-/

import Rulebook.Json.Basic

set_option autoImplicit false

namespace Rulebook.Json

/-- What was read of the text of a JSON value. -/
inductive Document where
  /-- Here the text stops being JSON. -/
  | broken
  /-- JSON that can be passed over but has no value: a number out of range, half a surrogate pair,
  or nesting beyond the limit. -/
  | unreadable
  | null
  | bool (b : Bool)
  | number (n : Number)
  | string (s : String)
  /-- An array: the items read, and whether its closing bracket was reached. -/
  | array (items : List Document) (closed : Bool)
  /-- An object: the members, in the order of the text, and whether its closing brace was reached.  A
  key is `none` if it holds half a surrogate pair; then it can be passed over but is no text. -/
  | object (members : List (Option String × Document)) (closed : Bool)
  /-- An object that opens with something other than a text for its first key; there the text stops
  being JSON. -/
  | strayKey (key : Document)

instance : Inhabited Document := ⟨.broken⟩

namespace Document

/-- Whether the text of the value was read to its end. -/
def isWhole : Document → Bool
  | .broken => false
  | .array _ closed => closed
  | .object _ closed => closed
  | .strayKey _ => false
  | _ => true

mutual

/-- The value of a document, when all of it was read and can be read. -/
def toJson? : Document → Option Json
  | .broken => none
  | .unreadable => none
  | .strayKey _ => none
  | .null => some .null
  | .bool b => some (.bool b)
  | .number n => some (.number n)
  | .string s => some (.string s)
  | .array items closed => if closed then (itemsToJson? items).map .array else none
  | .object members closed => if closed then (membersToJson? members).map .object else none

/-- The values of items, when all can be read. -/
def itemsToJson? : List Document → Option (List Json)
  | [] => some []
  | d :: rest =>
    match toJson? d with
    | some v => (itemsToJson? rest).map (v :: ·)
    | none => none

/-- The members, when all their keys and values can be read. -/
def membersToJson? : List (Option String × Document) → Option (List (String × Json))
  | [] => some []
  | (none, _) :: _ => none
  | (some key, d) :: rest =>
    match toJson? d with
    | some v => (membersToJson? rest).map ((key, v) :: ·)
    | none => none

end

/-- An object with a value has one in front of those of its other members, under a key that is a text. -/
theorem membersToJson?_cons_eq_some_iff {key : Option String} {d : Document}
    {rest : List (Option String × Document)} {values : List (String × Json)} :
    membersToJson? ((key, d) :: rest) = some values ↔
      ∃ name v others, key = some name ∧ d.toJson? = some v ∧
        membersToJson? rest = some others ∧ (name, v) :: others = values := by
  cases key with
  | none => simp [membersToJson?]
  | some name => cases hd : d.toJson? <;> simp [membersToJson?, hd]

/-- The members before the first key that is no text. -/
def readable : List (Option String × Document) → List (String × Document)
  | (some key, d) :: rest => (key, d) :: readable rest
  | _ => []

/-- Whether every key is a text. -/
def hasTextKeys (members : List (Option String × Document)) : Bool := members.all (·.1.isSome)

/-- A member that can be read is a member. -/
theorem mem_of_mem_readable {members : List (Option String × Document)} {m : String × Document}
    (h : m ∈ readable members) : (some m.1, m.2) ∈ members := by
  fun_induction readable members with
  | case1 key d rest ih =>
    rcases List.mem_cons.1 h with rfl | h
    · exact List.mem_cons_self
    · exact List.mem_cons_of_mem _ (ih h)
  | case2 => cases h

end Document

mutual

/-- A value as a document that was read to its end. -/
def toDocument : Json → Document
  | .null => .null
  | .bool b => .bool b
  | .number n => .number n
  | .string s => .string s
  | .array items => .array (itemsToDocument items) true
  | .object members => .object (membersToDocument members) true

/-- `toDocument` for every item. -/
def itemsToDocument : List Json → List Document
  | [] => []
  | v :: rest => toDocument v :: itemsToDocument rest

/-- `toDocument` for the value of every member. -/
def membersToDocument : List (String × Json) → List (Option String × Document)
  | [] => []
  | (key, v) :: rest => (some key, toDocument v) :: membersToDocument rest

end

mutual

/-- A value's document reads as the value. -/
theorem toJson?_toDocument : ∀ v : Json, (toDocument v).toJson? = some v
  | .null | .bool _ | .number _ | .string _ => rfl
  | .array items => by simp [toDocument, Document.toJson?, itemsToJson?_toDocument items]
  | .object members => by simp [toDocument, Document.toJson?, membersToJson?_toDocument members]

theorem itemsToJson?_toDocument :
    ∀ items : List Json, Document.itemsToJson? (itemsToDocument items) = some items
  | [] => rfl
  | v :: rest => by
    simp [itemsToDocument, Document.itemsToJson?, toJson?_toDocument v,
      itemsToJson?_toDocument rest]

theorem membersToJson?_toDocument :
    ∀ members : List (String × Json),
      Document.membersToJson? (membersToDocument members) = some members
  | [] => rfl
  | (key, v) :: rest => by
    simp [membersToDocument, Document.membersToJson?, toJson?_toDocument v,
      membersToJson?_toDocument rest]

end

end Rulebook.Json
