/-
**Ways into data.**

An attribute is a key of the data or a way into it.  As a relation, a way goes step by step: into an
object by a key, into an array by the number of an item.  Looking an attribute up takes the member under
its whole name and otherwise goes the way of its parts, of which there is one.  Where no key has a dot in
it, at any depth, a member under the whole name lies on that way too; then looking up is going the way,
and ways compose.

Main definitions:

* `Rulebook.IsUnsigned` — digits, with or without a plus sign, and the number that they spell;
* `Rulebook.ArePartsOf` — the parts of a name;
* `Rulebook.Json.Steps`, `Rulebook.Json.Leads` — one step into a value, and a way of many;
* `Rulebook.Json.keys`, `Rulebook.Json.DotFree` — the keys of a value at any depth, none with a dot.

Main results:

* `Rulebook.indexOf?_eq_some_iff` — the parts that number an item, and which;
* `Rulebook.Json.step?_eq_some_iff`, `Rulebook.Json.follow?_eq_some_iff` — following parts is going a
  way;
* `Rulebook.Json.DotFree.field?_eq` — without dots in keys, looking up is going the way;
* `Rulebook.Json.dotted_names_compose` — **a dotted name is looked up part by part, and a flat key
  wins**.
-/

import Rulebook.Evaluation.Lookup
import Rulebook.Proofs.Numeral

set_option autoImplicit false

namespace Rulebook

/-! ### Numbers of items -/

/-- A row of digits, with or without a plus sign before it, and the number that it spells. -/
inductive IsUnsigned : List Char → Nat → Prop
  | bare {ds : List Char} (h : IsDigits ds) : IsUnsigned ds (natOfDigits ds)
  | plus {ds : List Char} (h : IsDigits ds) : IsUnsigned ('+' :: ds) (natOfDigits ds)

theorem isUnsigned_plus {ds : List Char} {n : Nat} :
    IsUnsigned ('+' :: ds) n ↔ IsDigits ds ∧ natOfDigits ds = n := by
  constructor
  · intro h
    cases h with
    | bare h => exact absurd (h.2 '+' List.mem_cons_self) (by decide)
    | plus h => exact ⟨h, rfl⟩
  · rintro ⟨h, rfl⟩
    exact .plus h

theorem isUnsigned_of_ne_plus {cs : List Char} (hcs : ∀ ds, cs ≠ '+' :: ds) {n : Nat} :
    IsUnsigned cs n ↔ IsDigits cs ∧ natOfDigits cs = n := by
  constructor
  · intro h
    cases h with
    | bare h => exact ⟨h, rfl⟩
    | plus h => exact absurd rfl (hcs _)
  · rintro ⟨h, rfl⟩
    exact .bare h

/-- **A part numbers an item** by its digits, which may have a plus sign before them. -/
theorem indexOf?_eq_some_iff {bound n : Nat} {cs : List Char} :
    indexOf? bound cs = some n ↔ IsUnsigned cs n ∧ n < bound := by
  have hdigits (ds : List Char) :
      (if ds ≠ [] ∧ ds.all Char.isDigit ∧ natOfDigits ds < bound then some (natOfDigits ds)
        else none) = some n ↔ (IsDigits ds ∧ natOfDigits ds = n) ∧ n < bound := by
    rw [Option.ite_none_right_eq_some, List.all_eq_true, IsDigits, Option.some.injEq]
    constructor
    · rintro ⟨⟨hne, hall, hlt⟩, rfl⟩
      exact ⟨⟨⟨hne, hall⟩, rfl⟩, hlt⟩
    · rintro ⟨⟨⟨hne, hall⟩, rfl⟩, hlt⟩
      exact ⟨⟨hne, hall, hlt⟩, rfl⟩
  by_cases hplus : ∃ ds, cs = '+' :: ds
  · obtain ⟨ds, rfl⟩ := hplus
    exact (hdigits ds).trans (and_congr_left' isUnsigned_plus.symm)
  · have hcs : ∀ ds, cs ≠ '+' :: ds := fun ds h => hplus ⟨ds, h⟩
    rw [indexOf?]
    · exact (hdigits cs).trans (and_congr_left' (isUnsigned_of_ne_plus hcs).symm)
    · exact hcs

/-! ### The parts of a name -/

/-- The parts of a name: no part has a dot in it, and with dots between them they make up the name. -/
structure ArePartsOf (parts : List (List Char)) (name : String) : Prop where
  ne_nil : parts ≠ []
  dotless : ∀ part ∈ parts, '.' ∉ part
  joined : ['.'].intercalate parts = name.toList

/-- No part of a name has a dot in it. -/
theorem notMem_of_mem_segments {cs part : List Char} (h : part ∈ segments cs) : '.' ∉ part := by
  induction cs generalizing part with
  | nil =>
      obtain rfl : part = [] := List.mem_singleton.1 h
      exact List.not_mem_nil
  | cons c cs ih =>
      rw [segments, List.splitOn_cons_eq_if_modifyHead] at h
      split at h
      · rcases List.mem_cons.1 h with rfl | h
        · exact List.not_mem_nil
        · exact ih h
      · next hc =>
          obtain ⟨first, rest, hsplit⟩ := List.exists_cons_of_ne_nil (List.splitOn_ne_nil '.' cs)
          rw [segments, hsplit] at ih
          rw [hsplit, List.modifyHead_cons] at h
          rcases List.mem_cons.1 h with rfl | h
          · have hne : '.' ≠ c := fun hdot => hc (beq_iff_eq.2 hdot.symm)
            exact List.not_mem_cons_of_ne_of_not_mem hne (ih List.mem_cons_self)
          · exact ih (List.mem_cons_of_mem _ h)

theorem arePartsOf_iff {parts : List (List Char)} {name : String} :
    ArePartsOf parts name ↔ segments name.toList = parts := by
  constructor
  · rintro ⟨hne, hdotless, hjoined⟩
    rw [segments, ← hjoined]
    exact List.splitOn_intercalate '.' hdotless hne
  · rintro rfl
    exact ⟨List.splitOn_ne_nil '.' _, fun _ => notMem_of_mem_segments, List.intercalate_splitOn '.'⟩

namespace Json

/-! ### Going a way -/

/-- One step into a value: into an object by a key, into an array by an unsigned number of 64 bits that
is the number of an item. -/
inductive Steps : Json → List Char → Json → Prop
  | member {members : List (String × Json)} {part : List Char} {w : Json}
      (h : members.lookup (String.ofList part) = some w) : Steps (.object members) part w
  | item {items : List Json} {part : List Char} {n : Nat} (hpart : IsUnsigned part n)
      (hbound : n < UInt64.size) (h : n < items.length) : Steps (.array items) part items[n]

/-- A way into a value: one step for each part. -/
inductive Leads : Json → List (List Char) → Json → Prop
  | here (v : Json) : Leads v [] v
  | step {v w u : Json} {part : List Char} {parts : List (List Char)} (h : v.Steps part w)
      (hrest : w.Leads parts u) : Leads v (part :: parts) u

/-- A step into an array. -/
theorem step?_array_eq_some_iff {items : List Json} {part : List Char} {w : Json} :
    (Json.array items).step? part = some w ↔
      ∃ n, ∃ h : n < items.length, IsUnsigned part n ∧ n < UInt64.size ∧ items[n] = w := by
  rw [step?, Option.bind_eq_some_iff]
  constructor
  · rintro ⟨n, hn, hw⟩
    obtain ⟨hpart, hbound⟩ := indexOf?_eq_some_iff.1 hn
    obtain ⟨h, hw⟩ := List.getElem?_eq_some_iff.1 hw
    exact ⟨n, h, hpart, hbound, hw⟩
  · rintro ⟨n, h, hpart, hbound, hw⟩
    exact ⟨n, indexOf?_eq_some_iff.2 ⟨hpart, hbound⟩, List.getElem?_eq_some_iff.2 ⟨h, hw⟩⟩

theorem step?_eq_some_iff {v w : Json} {part : List Char} :
    v.step? part = some w ↔ v.Steps part w := by
  cases v with
  | object members =>
      refine ⟨.member, fun h => ?_⟩
      cases h with
      | member h => exact h
  | array items =>
      rw [step?_array_eq_some_iff]
      constructor
      · rintro ⟨n, h, hpart, hbound, rfl⟩
        exact .item hpart hbound h
      · intro h
        cases h with
        | item hpart hbound h => exact ⟨_, h, hpart, hbound, rfl⟩
  | _ => exact iff_of_false (fun h => by cases h) fun h => by cases h

/-- **Following parts is going a way.** -/
theorem follow?_eq_some_iff {v w : Json} {parts : List (List Char)} :
    v.follow? parts = some w ↔ v.Leads parts w := by
  induction parts generalizing v with
  | nil =>
      rw [follow?, Option.some.injEq]
      constructor
      · rintro rfl
        exact .here v
      · intro h
        cases h with
        | here => rfl
  | cons part parts ih =>
      rw [follow?]
      constructor
      · intro h
        cases hstep : v.step? part with
        | some u =>
            rw [hstep] at h
            exact .step (step?_eq_some_iff.1 hstep) (ih.1 h)
        | none =>
            rw [hstep] at h
            cases h
      · intro h
        cases h with
        | step h hrest => rw [step?_eq_some_iff.2 h]; exact ih.2 hrest

/-! ### The keys of a value -/

mutual

/-- The keys of all objects in a value, at any depth. -/
def keys : Json → List String
  | .array items => itemKeys items
  | .object members => memberKeys members
  | _ => []

/-- The keys in the items of an array. -/
def itemKeys : List Json → List String
  | [] => []
  | v :: rest => keys v ++ itemKeys rest

/-- The keys of members and the keys in their values. -/
def memberKeys : List (String × Json) → List String
  | [] => []
  | (key, v) :: rest => (key :: keys v) ++ memberKeys rest

end

theorem itemKeys_eq_flatMap (items : List Json) : itemKeys items = items.flatMap keys := by
  induction items with
  | nil => rfl
  | cons v rest ih => rw [itemKeys, List.flatMap_cons, ih]

theorem memberKeys_eq_flatMap (members : List (String × Json)) :
    memberKeys members = members.flatMap fun m => m.1 :: m.2.keys := by
  induction members with
  | nil => rfl
  | cons m rest ih => rw [memberKeys, List.flatMap_cons, ih]

/-- The key under which a member is found is among the keys, and so are those of what is found. -/
theorem cons_keys_subset_of_lookup {members : List (String × Json)} {key : String} {w : Json}
    (h : members.lookup key = some w) : key :: w.keys ⊆ (Json.object members).keys := by
  rw [keys, memberKeys_eq_flatMap]
  intro k hk
  exact List.mem_flatMap_of_mem (mem_of_lookup h) hk

/-- A step leads to no key that was not there before. -/
theorem Steps.keys_subset {v w : Json} {part : List Char} (h : v.Steps part w) :
    w.keys ⊆ v.keys := by
  cases h with
  | member h => exact (List.cons_subset.1 (cons_keys_subset_of_lookup h)).2
  | item _ _ h =>
      rw [keys, itemKeys_eq_flatMap]
      intro k hk
      exact List.mem_flatMap_of_mem (List.getElem_mem h) hk

/-- No more does a way. -/
theorem Leads.keys_subset {v w : Json} {parts : List (List Char)} (h : v.Leads parts w) :
    w.keys ⊆ v.keys := by
  induction h with
  | here v => exact List.Subset.refl _
  | step h _ ih => exact fun key hkey => h.keys_subset (ih hkey)

/-! ### Keys without dots -/

/-- No key of an object in the value has a dot in it. -/
def DotFree (v : Json) : Prop := ∀ key ∈ v.keys, '.' ∉ key.toList

instance (v : Json) : Decidable v.DotFree :=
  inferInstanceAs (Decidable (∀ key ∈ v.keys, '.' ∉ key.toList))

theorem Leads.dotFree {v w : Json} {parts : List (List Char)} (h : v.Leads parts w)
    (hv : v.DotFree) : w.DotFree := fun key hkey => hv key (h.keys_subset hkey)

/-- **Without dots in keys, looking up is going the way**: a member under the whole name of an attribute
is one step away. -/
theorem DotFree.field?_eq {v : Json} (hv : v.DotFree) (name : String) :
    v.field? name = v.follow? (segments name.toList) := by
  cases v with
  | object members =>
      rw [field?, get?_object]
      cases h : members.lookup name with
      | none => rfl
      | some w =>
          have hdot : '.' ∉ name.toList := hv name (cons_keys_subset_of_lookup h List.mem_cons_self)
          have hstep : (Json.object members).step? name.toList = some w := by
            rw [step?, String.ofList_toList, h]
          simp only [segments, List.splitOn_eq_singleton hdot, follow?, hstep]
  | _ => rfl

/-- What an attribute finds has keys without dots again. -/
theorem DotFree.of_field? {v w : Json} (hv : v.DotFree) {name : String}
    (h : v.field? name = some w) : w.DotFree := by
  rw [hv.field?_eq] at h
  exact (follow?_eq_some_iff.1 h).dotFree hv

/-! ### Dotted names -/

/-- **A dotted name is looked up part by part, and a flat key wins.**  A member under the whole name is
what is found, whatever else the data holds.  Without one, what is found is what the parts of the name
lead to, and into an array only an unsigned number of 64 bits below its length leads.  Where no key has a
dot in it, looking up two names with a dot between them is looking up the first and, in what it finds, the
second. -/
theorem dotted_names_compose (data : Json) :
    (∀ name w, data.get? name = some w → data.field? name = some w) ∧
    (∀ name, data.get? name = none → ∀ w, data.field? name = some w ↔
      ∃ parts, ArePartsOf parts name ∧ data.Leads parts w) ∧
    (∀ items part w, (Json.array items).step? part = some w ↔
      ∃ n, ∃ h : n < items.length, IsUnsigned part n ∧ n < UInt64.size ∧ items[n] = w) ∧
    (data.DotFree → ∀ p q : String,
      data.field? (p ++ "." ++ q) = (data.field? p).bind fun v => v.field? q) := by
  refine ⟨?_, ?_, ?_, ?_⟩
  · intro name w h
    rw [field?, h]
  · intro name h w
    rw [field?, h]
    simp only [arePartsOf_iff, exists_eq_left']
    exact follow?_eq_some_iff
  · intro items part w
    exact step?_array_eq_some_iff
  · intro hdata p q
    have hparts : segments (p ++ "." ++ q).toList = segments p.toList ++ segments q.toList := by
      rw [String.toList_append, String.toList_append, List.append_assoc]
      exact segments_append p.toList q.toList
    calc data.field? (p ++ "." ++ q)
        = data.follow? (segments p.toList ++ segments q.toList) := by rw [hdata.field?_eq, hparts]
      _ = (data.field? p).bind fun v => v.follow? (segments q.toList) := by
          rw [follow?_append, hdata.field?_eq]
      _ = (data.field? p).bind fun v => v.field? q :=
          Option.bind_congr fun v hv => ((hdata.of_field? hv).field?_eq q).symm

/-- A flat key hides what lies on the way; parts may be empty, and the number of an item may be spelled
with a plus sign and leading zeros. -/
theorem member_of_second_tag_is_found :
    let flat : Json := .object [("a", .object [("b", .string "nested")]), ("a.b", .string "flat")]
    let tags : Json := .array [.string "vip", .object [("", .string "frequent")]]
    let data : Json := .object [("", .null), ("user", .object [("tags", tags)])]
    (flat.get? "a.b" = some (.string "flat") ∧ flat.field? "a.b" = some (.string "flat")) ∧
    (data.get? "user.tags" = none ∧ data.field? "user.tags" = some tags) ∧
    data.DotFree ∧ data.field? ("user.tags" ++ "." ++ "+01.") = some (.string "frequent") := by
  intro flat tags data
  have hflat : flat.get? "a.b" = some (.string "flat") := rfl
  have hnone : data.get? "user.tags" = none := rfl
  have hdata : data.DotFree := by decide
  obtain ⟨-, hway, -, hdots⟩ := dotted_names_compose data
  have hparts : ArePartsOf ["user".toList, "tags".toList] "user.tags" :=
    ⟨by decide, by decide, by decide⟩
  have htags : data.field? "user.tags" = some tags :=
    (hway "user.tags" hnone tags).2 ⟨_, hparts, .step (.member rfl) (.step (.member rfl) (.here tags))⟩
  refine ⟨⟨hflat, (dotted_names_compose flat).1 "a.b" _ hflat⟩, ⟨hnone, htags⟩, hdata, ?_⟩
  rw [hdots hdata, htags]
  rfl

/-- A key with a dot in it lies on no way. -/
example :
    let data : Json := .object [("a", .object [("b.c", .bool true)])]
    (data.field? "a.b.c").isNone ∧ ((data.field? "a").bind fun v => v.field? "b.c").isSome := by
  decide

end Json

end Rulebook
