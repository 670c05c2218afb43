/-
**What records are read from.**

A record is read exactly if every part that it must have is there and can be read.  Where the part stands
does not matter: under its key among the members of an object, in whatever order, or at its place in an
array.  So what a record is read as is told by its parts, and two ways of writing it are read alike if
their parts are.

Main definitions:

* `Rulebook.Json.Contents.part?`, `Rulebook.Json.Contents.read?` — a part, and what it is read as;
* `Rulebook.Json.Slot`, `Rulebook.Json.Slot.IsRow` — where a part is kept that was read, and slots of which
  none touches another.

Main results:

* `Rulebook.Json.Slot.IsRow.readMembers` — what is read into a slot, by induction over the members;
* `Rulebook.Expr.readContents_reference_iff`, `Rulebook.Expr.readContents_literal_iff`,
  `Rulebook.Expr.readContents_branch_iff` — **what references, literals and nodes with two children are
  read from**.
-/

import Mathlib.Data.List.Pairwise
import Mathlib.Tactic.MkIffOfInductiveProp
import Rulebook.Proofs.Fallible
import Rulebook.Proofs.Spelling

set_option autoImplicit false

namespace Rulebook

namespace Json

/-! ### Parts -/

namespace Contents

/-- What contents hold for a part: the member under its key, or the item at its place. -/
def part? {ε α : Type} : Contents ε α → Nat → String → Option α
  | members ms _, _, key => ms.lookup key
  | items xs _, i, _ => xs[i]?

/-- There are no more items than parts. -/
def Fits {ε α : Type} (n : Nat) : Contents ε α → Prop
  | members _ _ => True
  | items xs _ => xs.length ≤ n

/-- Contents that were read to their end, with no two members under one key. -/
inductive Plain : Contents Fault Json → Prop
  | members {ms : List (String × Json)} (distinct : Distinct ms) : Plain (.members ms (.ok ()))
  | items (xs : List Json) : Plain (.items xs (.ok ()))

/-- What a part is read as, if it is there and can be read. -/
def read? {α : Type} (c : Contents Fault Json) (i : Nat) (key : String)
    (read : Json → Except Fault α) : Option α :=
  (c.part? i key).bind fun v => (read v).toOption

theorem read?_eq_some_iff {α : Type} {c : Contents Fault Json} {i : Nat} {key : String}
    {read : Json → Except Fault α} {a : α} :
    c.read? i key read = some a ↔ ∃ v, c.part? i key = some v ∧ read v = .ok a := by
  simp only [read?, Option.bind_eq_some_iff, toOption_eq_some_iff]

end Contents

/-! ### Reading members -/

/-- Where a part is kept in what was read of a record so far, and how it is read. -/
structure Slot (σ : Type) where
  {α : Type}
  name : String
  optional : Bool
  get : σ → Option α
  put : α → σ → σ
  read : Json → Except Fault α

namespace Slot

variable {σ : Type}

/-- The field that reads into a slot. -/
def field (p : Slot σ) : Field Fault Json σ :=
  ⟨p.name, p.optional, fun s => (p.get s).isSome, fun v s => do return p.put (← p.read v) s⟩

/-- Two slots go by different names, and setting either leaves the other as it is. -/
@[mk_iff]
structure Apart (p q : Slot σ) : Prop where
  name_ne : p.name ≠ q.name
  get_put_left : ∀ a s, q.get (p.put a s) = q.get s
  get_put_right : ∀ a s, p.get (q.put a s) = p.get s

instance : Std.Symm (@Apart σ) :=
  ⟨fun _ _ h => ⟨h.name_ne.symm, h.get_put_right, h.get_put_left⟩⟩

/-- Slots that hold what they are set to, each apart from the others. -/
structure IsRow (slots : List (Slot σ)) : Prop where
  get_put : ∀ p ∈ slots, ∀ a s, p.get (p.put a s) = some a
  apart : slots.Pairwise Apart

namespace IsRow

variable {slots : List (Slot σ)} {p q : Slot σ}

theorem eq_or_apart (h : IsRow slots) (hp : p ∈ slots) (hq : q ∈ slots) : p = q ∨ p.Apart q :=
  or_iff_not_imp_left.2 fun hne => h.apart.forall hp hq hne

variable {src : Source Fault Json} {ms : List (String × Json)} {s s' : σ}

/-- What was read into a slot: nothing, where there is no member for it, and else what the member is
read as. -/
theorem readMembers (h : IsRow slots) (hp : p ∈ slots)
    (hread : Record.readMembers src (slots.map field) ms s = .ok s') :
    (ms.lookup p.name = none ∧ p.get s' = p.get s) ∨
      p.get s = none ∧ ∃ v a, ms.lookup p.name = some v ∧ p.read v = .ok a ∧ p.get s' = some a := by
  induction ms generalizing s with
  | nil =>
      obtain rfl : s = s' := Except.ok.inj hread
      exact .inl ⟨rfl, rfl⟩
  | cons m rest ih =>
      obtain ⟨key, v⟩ := m
      obtain ⟨hnone, -, hrest⟩ | ⟨g, s₁, hfind, hunset, hv, hrest⟩ :=
        Record.readMembers_cons_eq_ok_iff.1 hread
      · have hkey : p.name ≠ key := by
          rintro rfl
          exact List.find?_eq_none.1 hnone p.field (List.mem_map_of_mem hp) (beq_self_eq_true p.name)
        rw [lookup_cons_of_ne hkey]
        exact ih hrest
      · obtain ⟨q, hq, rfl⟩ := List.mem_map.1 (List.mem_of_find?_eq_some hfind)
        obtain rfl : q.name = key := by simpa [field] using List.find?_some hfind
        obtain ⟨a, ha, rfl⟩ := bind_pure_eq_ok_iff.1 hv
        obtain rfl | hapart := h.eq_or_apart hp hq
        · have hs : p.get s = none := by simpa [field] using hunset
          have hset : p.get (p.put a s) = some a := h.get_put p hp a s
          rw [List.lookup_cons_self]
          -- a second member for the slot would have been refused
          obtain ⟨-, hkept⟩ | ⟨hnone, -⟩ := ih hrest
          · exact .inr ⟨hs, v, a, rfl, ha, hkept.trans hset⟩
          · exact absurd (hset.symm.trans hnone) (Option.some_ne_none a)
        · rw [lookup_cons_of_ne hapart.name_ne, ← hapart.get_put_right a s]
          exact ih hrest

/-- From nothing on, what was read into a slot is what its member is read as. -/
theorem get_eq_read? (h : IsRow slots) (hp : p ∈ slots)
    (hread : Record.readMembers src (slots.map field) ms s = .ok s') (hstart : p.get s = none)
    (i : Nat) : p.get s' = (Contents.members ms (.ok ())).read? i p.name p.read := by
  rw [Contents.read?, Contents.part?]
  rcases h.readMembers hp hread with ⟨hnone, hget⟩ | ⟨-, v, a, hv, ha, hget⟩
  · rw [hnone, hget, hstart]
    rfl
  · rw [hv, hget, Option.bind_some, ha]
    rfl

end IsRow

end Slot

theorem required_eq_ok_iff {α : Type} {name : String} {o : Option α} {a : α} :
    required name o = .ok a ↔ o = some a := by
  cases o <;> simp [required]

/-- A record is read from members if they are read and no part is missing. -/
theorem Record.readContents_members_iff {σ τ : Type} {src : Source Fault Json}
    {r : Record Fault Json σ τ} {ms : List (String × Json)} {t : τ} :
    r.readContents src (.members ms (.ok ())) = .ok t ↔
      ∃ s, readMembers src r.fields ms r.start = .ok s ∧ r.finish s = .ok t := by
  rw [readContents]
  exact bind_eq_ok_iff.trans (exists_congr fun s => and_congr_right' finished_eq_ok_iff)

/-- Likewise from items. -/
theorem Record.readContents_items_iff {σ τ : Type} {src : Source Fault Json}
    {r : Record Fault Json σ τ} {xs : List Json} {t : τ} :
    r.readContents src (.items xs (.ok ())) = .ok t ↔
      ∃ s, readItems src (fun n => .wrongLength n r.expectation) (.ok ()) 0 r.fields xs r.start =
        .ok s ∧ r.finish s = .ok t := by
  rw [readContents]
  exact bind_eq_ok_iff.trans (exists_congr fun s => and_congr_right' finished_eq_ok_iff)

end Json

namespace Expr

open Json (Contents Fault Record Slot Source)

/-! ### The parts of expressions -/

section Parts

def nameSlot : Slot ReferenceParts :=
  ⟨"name", false, ReferenceParts.name, fun s p => { p with name := some s }, Json.readString⟩

def defaultSlot : Slot ReferenceParts :=
  ⟨"default", true, ReferenceParts.default, fun d p => { p with default := some d }, readDefault⟩

theorem isRow_reference : Slot.IsRow [nameSlot, defaultSlot] := by
  constructor <;> simp [nameSlot, defaultSlot, Slot.apart_iff]

def valueSlot : Slot (Option Scalar) := ⟨"value", false, id, fun x _ => some x, readScalar⟩

theorem isRow_literal : Slot.IsRow [valueSlot] := by
  constructor <;> simp [valueSlot]

variable {τ : Type} (readOperator : Json → Except Fault τ) (readChild : Json → Except Fault Expr)

def operatorSlot : Slot (BranchParts τ) :=
  ⟨"operator", false, BranchParts.operator, fun o p => { p with operator := some o }, readOperator⟩

def leftSlot : Slot (BranchParts τ) :=
  ⟨"left", false, BranchParts.left, fun e p => { p with left := some e }, readChild⟩

def rightSlot : Slot (BranchParts τ) :=
  ⟨"right", false, BranchParts.right, fun e p => { p with right := some e }, readChild⟩

theorem isRow_branch :
    Slot.IsRow [operatorSlot readOperator, leftSlot readChild, rightSlot readChild] := by
  constructor <;> simp [operatorSlot, leftSlot, rightSlot, Slot.apart_iff]

end Parts

/-! ### What expressions are read from -/

section Reading

variable {src : Source Fault Json} {c : Contents Fault Json} {e : Expr}

/-- What a default is read as, which may be absent. -/
def default? (c : Contents Fault Json) : Option (Option Scalar) :=
  (c.part? 1 "default").elim (some none) fun v => (readDefault v).toOption

theorem readString_eq_ok_iff {v : Json} {s : String} :
    Json.readString v = .ok s ↔ v = .string s := by
  cases v <;> simp [Json.readString]

theorem spells_of_readScalar {v : Json} {x : Scalar} (h : readScalar v = .ok x) : x.Spells v := by
  cases v with
  | number n =>
      cases h
      exact .number n
  | string s =>
      cases h
      exact .string s
  | _ => cases h

theorem spellsDefault_of_readDefault {v : Json} {d : Option Scalar} (h : readDefault v = .ok d) :
    Scalar.SpellsDefault d (some v) := by
  cases v with
  | null =>
      cases h
      exact .null
  | number n =>
      cases h
      exact .given (.number n)
  | string s =>
      cases h
      exact .given (.string s)
  | _ => cases h

/-- **What a reference is read from**: its name, and a default that may be absent. -/
theorem readContents_reference_iff (hskip : ∀ v, src.skip v = .ok ()) (hc : c.Plain) :
    referenceRecord.readContents src c = .ok e ↔
      c.Fits 2 ∧ ∃ name default, c.read? 0 "name" Json.readString = some name ∧
        default? c = some default ∧ .reference name default = e := by
  cases hc with
  | @members ms distinct =>
      constructor
      · intro h
        obtain ⟨s, hs, hfinish⟩ := Record.readContents_members_iff.1 h
        obtain ⟨name, hname, rfl⟩ := bind_pure_eq_ok_iff.1 hfinish
        rw [Json.required_eq_ok_iff] at hname
        have hread := isRow_reference.get_eq_read? (.head _) hs rfl 0
        have hdefault : (ms.lookup "default" = none ∧ s.default = none) ∨
            ∃ v d, ms.lookup "default" = some v ∧ readDefault v = .ok d ∧ s.default = some d :=
          (isRow_reference.readMembers (.tail _ (.head _)) hs).imp_right And.right
        refine ⟨trivial, name, s.default.getD none, hread.symm.trans hname, ?_, rfl⟩
        rw [default?, Contents.part?]
        obtain ⟨hnone, hget⟩ | ⟨v, d, hv, hd, hget⟩ := hdefault
        · rw [hnone, hget]
          rfl
        · rw [hv, hget, Option.elim_some, hd]
          rfl
      · rintro ⟨-, name, default, hname, hdefault, rfl⟩
        obtain ⟨v, hv, hread⟩ := Contents.read?_eq_some_iff.1 hname
        rw [readString_eq_ok_iff.1 hread] at hv
        refine readContents_reference hskip distinct hv ?_
        rw [default?, Contents.part?] at hdefault
        cases hd : ms.lookup "default" with
        | none =>
            rw [hd] at hdefault
            obtain rfl : none = default := Option.some.inj hdefault
            exact .absent
        | some v =>
            rw [hd] at hdefault
            exact spellsDefault_of_readDefault (toOption_eq_some_iff.1 hdefault)
  | items xs =>
      rw [Record.readContents_items_iff]
      match xs with
      | [] => simp [referenceRecord, Contents.read?, Contents.part?]
      | [n] =>
        simp [referenceRecord, map_eq_ok_iff, Json.required_eq_ok_iff, Contents.read?, Contents.part?,
          Contents.Fits, default?, toOption_eq_some_iff]
      | [n, d] =>
        simp [referenceRecord, map_eq_ok_iff, Json.required_eq_ok_iff, Contents.read?, Contents.part?,
          Contents.Fits, default?, toOption_eq_some_iff]
      | n :: d :: x :: rest => simp [referenceRecord, Contents.Fits]

/-- **What a literal is read from**: its value. -/
theorem readContents_literal_iff (hskip : ∀ v, src.skip v = .ok ()) (hc : c.Plain) :
    literalRecord.readContents src c = .ok e ↔
      c.Fits 1 ∧ ∃ value, c.read? 0 "value" readScalar = some value ∧ .literal value = e := by
  cases hc with
  | @members ms distinct =>
      constructor
      · intro h
        obtain ⟨s, hs, hfinish⟩ := Record.readContents_members_iff.1 h
        obtain ⟨value, hvalue, rfl⟩ := bind_pure_eq_ok_iff.1 hfinish
        rw [Json.required_eq_ok_iff] at hvalue
        exact ⟨trivial, value, (isRow_literal.get_eq_read? (.head _) hs rfl 0).symm.trans hvalue, rfl⟩
      · rintro ⟨-, value, hvalue, rfl⟩
        obtain ⟨v, hv, hread⟩ := Contents.read?_eq_some_iff.1 hvalue
        exact readContents_literal hskip distinct hv (spells_of_readScalar hread)
  | items xs =>
      rw [Record.readContents_items_iff]
      match xs with
      | [] => simp [literalRecord, Contents.read?, Contents.part?]
      | [v] =>
        simp [literalRecord, map_eq_ok_iff, Json.required_eq_ok_iff, Contents.read?, Contents.part?,
          Contents.Fits, toOption_eq_some_iff]
      | v :: x :: rest => simp [literalRecord, Contents.Fits]

/-- A node with two children is finished if it has an operator and both children. -/
theorem finish_branch_iff {τ : Type} {name : String} {readOperator : Json → Except Fault τ}
    {readChild : Json → Except Fault Expr} {make : τ → Expr → Expr → Expr} {p : BranchParts τ} :
    (branchRecord name readOperator readChild make).finish p = .ok e ↔
      ∃ operator left right, p.operator = some operator ∧ p.left = some left ∧
        p.right = some right ∧ make operator left right = e := by
  obtain ⟨operator, left, right⟩ := p
  cases operator <;> cases left <;> cases right <;>
    simp [branchRecord, Json.required, bind, Except.bind, pure, Except.pure]

/-- **What a node with two children is read from**: its operator and the children. -/
theorem readContents_branch_iff {τ : Type} {name : String} {readOperator : Json → Except Fault τ}
    {readChild : Json → Except Fault Expr} {make : τ → Expr → Expr → Expr}
    (hskip : ∀ v, src.skip v = .ok ()) (hc : c.Plain) :
    (branchRecord name readOperator readChild make).readContents src c = .ok e ↔
      c.Fits 3 ∧ ∃ operator left right, c.read? 0 "operator" readOperator = some operator ∧
        c.read? 1 "left" readChild = some left ∧ c.read? 2 "right" readChild = some right ∧
        make operator left right = e := by
  cases hc with
  | @members ms distinct =>
      constructor
      · intro h
        obtain ⟨s, hs, hfinish⟩ := Record.readContents_members_iff.1 h
        obtain ⟨operator, left, right, hoperator, hleft, hright, rfl⟩ := finish_branch_iff.1 hfinish
        have row := isRow_branch readOperator readChild
        have ho := row.get_eq_read? (.head _) hs rfl 0
        have hl := row.get_eq_read? (.tail _ (.head _)) hs rfl 1
        have hr := row.get_eq_read? (.tail _ (.tail _ (.head _))) hs rfl 2
        exact ⟨trivial, operator, left, right, ho.symm.trans hoperator, hl.symm.trans hleft,
          hr.symm.trans hright, rfl⟩
      · rintro ⟨-, operator, left, right, hoperator, hleft, hright, rfl⟩
        obtain ⟨o, ho, hoperator⟩ := Contents.read?_eq_some_iff.1 hoperator
        obtain ⟨l, hl, hleft⟩ := Contents.read?_eq_some_iff.1 hleft
        obtain ⟨r, hr, hright⟩ := Contents.read?_eq_some_iff.1 hright
        exact readContents_branch_of_lookup hskip distinct ho hoperator hl hleft hr hright
  | items xs =>
      rw [Record.readContents_items_iff]
      simp only [finish_branch_iff]
      match xs with
      | [] => simp [branchRecord, Contents.read?, Contents.part?]
      | [o] => simp [branchRecord, Contents.read?, Contents.part?]
      | [o, l] => simp [branchRecord, Contents.read?, Contents.part?]
      | [o, l, r] =>
        simp [branchRecord, map_eq_ok_iff, Contents.read?, Contents.part?, Contents.Fits,
          toOption_eq_some_iff, and_assoc]
      | o :: l :: r :: x :: rest => simp [branchRecord, Contents.Fits]

end Reading

end Expr

end Rulebook
