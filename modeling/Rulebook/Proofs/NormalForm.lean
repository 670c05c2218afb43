/-
**Values in normal form.**

Bringing a value into normal form sorts the members of every object by their keys.  Where no key occurs
twice nothing is lost by that: the members stay the same up to their order, and with them how deep the
value is nested.

Main definitions:

* `Rulebook.Json.KeysDistinct` — no object of a value has two members under one key.

Main results:

* `Rulebook.Json.sorted_perm` — the members in normal form are the members, each in normal form;
* `Rulebook.Json.keysDistinct_normalize`, `Rulebook.Json.depth_normalize` — what normal form keeps.
-/

import Rulebook.Proofs.Spelling

set_option autoImplicit false

namespace Rulebook.Json

/-! ### Keys that occur once -/

mutual

/-- No object of the value has two members under one key. -/
def KeysDistinct : Json → Prop
  | .array items => ItemsKeysDistinct items
  | .object members => Distinct members ∧ MembersKeysDistinct members
  | _ => True

/-- `KeysDistinct` for every item. -/
def ItemsKeysDistinct : List Json → Prop
  | [] => True
  | v :: rest => KeysDistinct v ∧ ItemsKeysDistinct rest

/-- `KeysDistinct` for the value of every member. -/
def MembersKeysDistinct : List (String × Json) → Prop
  | [] => True
  | (_, v) :: rest => KeysDistinct v ∧ MembersKeysDistinct rest

end

instance {α : Type} (members : List (String × α)) : Decidable (Distinct members) :=
  inferInstanceAs (Decidable (members.map Prod.fst).Nodup)

mutual

/-- Whether no key occurs twice can be computed. -/
def decideKeysDistinct : (v : Json) → Decidable v.KeysDistinct
  | .array items => decideItemsKeysDistinct items
  | .object members =>
    have := decideMembersKeysDistinct members
    inferInstanceAs (Decidable (Distinct members ∧ MembersKeysDistinct members))
  | .null | .bool _ | .number _ | .string _ => .isTrue trivial

/-- `decideKeysDistinct` for every item. -/
def decideItemsKeysDistinct : (items : List Json) → Decidable (ItemsKeysDistinct items)
  | [] => .isTrue trivial
  | v :: rest =>
    have := decideKeysDistinct v
    have := decideItemsKeysDistinct rest
    inferInstanceAs (Decidable (KeysDistinct v ∧ ItemsKeysDistinct rest))

/-- `decideKeysDistinct` for the value of every member. -/
def decideMembersKeysDistinct :
    (members : List (String × Json)) → Decidable (MembersKeysDistinct members)
  | [] => .isTrue trivial
  | (_, v) :: rest =>
    have := decideKeysDistinct v
    have := decideMembersKeysDistinct rest
    inferInstanceAs (Decidable (KeysDistinct v ∧ MembersKeysDistinct rest))

end

instance : DecidablePred KeysDistinct := decideKeysDistinct

theorem itemsKeysDistinct_iff {items : List Json} :
    ItemsKeysDistinct items ↔ ∀ v ∈ items, v.KeysDistinct := by
  induction items with
  | nil => simp [ItemsKeysDistinct]
  | cons v rest ih => rw [ItemsKeysDistinct, ih, List.forall_mem_cons]

theorem membersKeysDistinct_iff {members : List (String × Json)} :
    MembersKeysDistinct members ↔ ∀ m ∈ members, m.2.KeysDistinct := by
  induction members with
  | nil => simp [MembersKeysDistinct]
  | cons m rest ih => rw [MembersKeysDistinct, ih, List.forall_mem_cons]

theorem keysDistinct_of_lookup {members : List (String × Json)} (h : MembersKeysDistinct members)
    {key : String} {v : Json} (hv : members.lookup key = some v) : v.KeysDistinct :=
  membersKeysDistinct_iff.1 h (key, v) (mem_of_lookup hv)

/-- An item is nested no deeper than the items together. -/
theorem depth_le_depthItems {items : List Json} {v : Json} (h : v ∈ items) :
    v.depth ≤ depthItems items := by
  induction items with
  | nil => cases h
  | cons w rest ih =>
      rw [depthItems]
      rcases List.mem_cons.1 h with rfl | h
      · exact Nat.le_max_left _ _
      · exact (ih h).trans (Nat.le_max_right _ _)

/-! ### Sorting is permuting -/

section Sorting

variable {α : Type}

theorem insertMember_perm {key : String} (v : α) {members : List (String × α)}
    (h : key ∉ members.map Prod.fst) :
    (insertMember key v members).Perm ((key, v) :: members) := by
  induction members with
  | nil => exact .refl _
  | cons m rest ih =>
      obtain ⟨k, w⟩ := m
      rw [List.map_cons, List.mem_cons, not_or] at h
      rw [insertMember, if_neg h.1]
      split
      · exact .refl _
      · exact ((ih h.2).cons _).trans (.swap _ _ _)

theorem foldl_insertMember_perm {members seen : List (String × α)} (h : Distinct (members ++ seen)) :
    (members.foldl (fun sorted m => insertMember m.1 m.2 sorted) seen).Perm (members ++ seen) := by
  induction members generalizing seen with
  | nil => exact .refl _
  | cons m rest ih =>
      obtain ⟨key, v⟩ := m
      have hkey : key ∉ (rest ++ seen).map Prod.fst := (List.nodup_cons.1 h).1
      have hseen : key ∉ seen.map Prod.fst := fun hmem =>
        hkey (by rw [List.map_append]; exact List.mem_append_right _ hmem)
      have hmove : (rest ++ insertMember key v seen).Perm ((key, v) :: rest ++ seen) :=
        ((insertMember_perm v hseen).append_left rest).trans List.perm_middle
      have hdistinct : Distinct (rest ++ insertMember key v seen) :=
        (hmove.map Prod.fst).nodup_iff.2 h
      exact (ih hdistinct).trans hmove

/-- Sorting members under distinct keys changes nothing but their order. -/
theorem sortMembers_perm {members : List (String × α)} (h : Distinct members) :
    (sortMembers members).Perm members := by
  have hempty : Distinct (members ++ []) := by rwa [List.append_nil]
  have hperm := foldl_insertMember_perm hempty
  rwa [List.append_nil] at hperm

end Sorting

theorem sorted_perm {members : List (String × Json)} (h : Distinct members) :
    (sorted members).Perm (normalizeMembers members) := by
  refine sortMembers_perm ?_
  rw [Distinct, map_fst_normalizeMembers]
  exact h

/-! ### What normal form keeps -/

theorem membersKeysDistinct_perm {members members' : List (String × Json)}
    (h : members.Perm members') : MembersKeysDistinct members ↔ MembersKeysDistinct members' := by
  rw [membersKeysDistinct_iff, membersKeysDistinct_iff]
  exact ⟨fun hm m hmem => hm m (h.mem_iff.2 hmem), fun hm m hmem => hm m (h.mem_iff.1 hmem)⟩

theorem depthMembers_perm {members members' : List (String × Json)} (h : members.Perm members') :
    depthMembers members = depthMembers members' := by
  induction h with
  | nil => rfl
  | cons m _ ih => rw [depthMembers, depthMembers, ih]
  | swap m m' rest => rw [depthMembers, depthMembers, depthMembers, depthMembers, Nat.max_left_comm]
  | trans _ _ ih ih' => exact ih.trans ih'

mutual

theorem keysDistinct_normalize : ∀ v : Json, v.KeysDistinct → v.normalize.KeysDistinct
  | .null, _ | .bool _, _ | .number _, _ | .string _, _ => trivial
  | .array items, h => itemsKeysDistinct_normalize items h
  | .object members, h => by
    rw [normalize_object, KeysDistinct, membersKeysDistinct_perm (sorted_perm h.1)]
    exact ⟨distinct_sorted members, membersKeysDistinct_normalize members h.2⟩

theorem itemsKeysDistinct_normalize :
    ∀ items : List Json, ItemsKeysDistinct items → ItemsKeysDistinct (normalizeItems items)
  | [], _ => trivial
  | v :: rest, h => ⟨keysDistinct_normalize v h.1, itemsKeysDistinct_normalize rest h.2⟩

theorem membersKeysDistinct_normalize : ∀ members : List (String × Json),
    MembersKeysDistinct members → MembersKeysDistinct (normalizeMembers members)
  | [], _ => trivial
  | (_, v) :: rest, h => ⟨keysDistinct_normalize v h.1, membersKeysDistinct_normalize rest h.2⟩

end

mutual

theorem depth_normalize : ∀ v : Json, v.KeysDistinct → v.normalize.depth = v.depth
  | .null, _ | .bool _, _ | .number _, _ | .string _, _ => rfl
  | .array items, h => by rw [normalize, depth, depth, depthItems_normalize items h]
  | .object members, h => by
    rw [normalize_object, depth, depth, depthMembers_perm (sorted_perm h.1),
      depthMembers_normalize members h.2]

theorem depthItems_normalize : ∀ items : List Json, ItemsKeysDistinct items →
    depthItems (normalizeItems items) = depthItems items
  | [], _ => rfl
  | v :: rest, h => by
    rw [normalizeItems, depthItems, depthItems, depth_normalize v h.1,
      depthItems_normalize rest h.2]

theorem depthMembers_normalize : ∀ members : List (String × Json), MembersKeysDistinct members →
    depthMembers (normalizeMembers members) = depthMembers members
  | [], _ => rfl
  | (_, v) :: rest, h => by
    rw [normalizeMembers, depthMembers, depthMembers, depth_normalize v h.1,
      depthMembers_normalize rest h.2]

end

end Rulebook.Json
