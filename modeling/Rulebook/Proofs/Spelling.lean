/-
**The spellings of an expression.**

The reader of nodes accepts more than the writer produces.  Members may come in any order and among
members that nobody asks for, connectives have several names, a number may be an integer, a default
that is not there may be `null`, and an operand of a condition need not tell its kind.  None of this
changes what is read: every spelling of an expression is read as the expression, whatever its shape.

Main definitions:

* `Rulebook.Expr.Spells` — the values that spell an expression;
* `Rulebook.Json.Awaits` — a part of a record between being read and being still to be read.

Main results:

* `Rulebook.Json.Record.readMembers_of_invariant` — members are read in any order;
* `Rulebook.Expr.spells_toJson` — the JSON form of an expression spells it;
* `Rulebook.Expr.Spells.normalize` — a spelling stays one in normal form;
* `Rulebook.Expr.ofJson?_of_spells` — **every spelling is read as the expression**.
-/

import Rulebook.Proofs.Combination
import Rulebook.Wire.Expr

set_option autoImplicit false

namespace Rulebook.Json

/-! ### Members under distinct keys -/

section Members

variable {α : Type}

/-- No two members have the same key. -/
def Distinct (members : List (String × α)) : Prop := (members.map Prod.fst).Nodup

theorem lookup_cons_of_ne {key k : String} (h : key ≠ k) (v : α) (rest : List (String × α)) :
    List.lookup key ((k, v) :: rest) = rest.lookup key := by
  rw [List.lookup_cons, beq_false_of_ne h]

theorem lookup_cons_eq_none_iff {key k : String} {v : α} {rest : List (String × α)} :
    List.lookup key ((k, v) :: rest) = none ↔ k ≠ key ∧ rest.lookup key = none := by
  by_cases h : k = key
  · subst h
    simp
  · simp [lookup_cons_of_ne (Ne.symm h), h]

/-- What is found is the value of the first member, or of another one if the first has another key. -/
theorem lookup_cons_eq_some_iff {key k : String} {v w : α} {rest : List (String × α)} :
    List.lookup key ((k, v) :: rest) = some w ↔
      k = key ∧ v = w ∨ k ≠ key ∧ rest.lookup key = some w := by
  by_cases h : k = key
  · subst h
    simp
  · simp [lookup_cons_of_ne (Ne.symm h), h]

theorem lookup_eq_none_of_notMem {key : String} {members : List (String × α)}
    (h : key ∉ members.map Prod.fst) : members.lookup key = none :=
  List.lookup_eq_none_iff.2 fun _ hm => bne_iff_ne.2 fun heq => h (heq ▸ List.mem_map_of_mem hm)

theorem Distinct.lookup_head {key : String} {v : α} {rest : List (String × α)}
    (h : Distinct ((key, v) :: rest)) : rest.lookup key = none :=
  lookup_eq_none_of_notMem (List.nodup_cons.1 h).1

theorem Distinct.tail {m : String × α} {rest : List (String × α)} (h : Distinct (m :: rest)) :
    Distinct rest := (List.nodup_cons.1 h).2

/-! ### Normal form -/

theorem lookup_insertMember (key k : String) (v : α) (members : List (String × α)) :
    (insertMember k v members).lookup key = if key = k then some v else members.lookup key := by
  induction members with
  | nil =>
      rw [insertMember]
      by_cases h : key = k
      · rw [if_pos h, h, List.lookup_cons_self]
      · rw [if_neg h, lookup_cons_of_ne h]
  | cons m rest ih =>
      obtain ⟨k', v'⟩ := m
      rw [insertMember]
      by_cases h : key = k
      · subst h
        rw [if_pos rfl]
        split
        · exact List.lookup_cons_self
        · split
          · exact List.lookup_cons_self
          · next hne => rw [lookup_cons_of_ne hne, ih, if_pos rfl]
      · rw [if_neg h]
        split
        · exact lookup_cons_of_ne h v _
        · split
          · next heq => rw [lookup_cons_of_ne h, lookup_cons_of_ne (heq ▸ h)]
          · by_cases h' : key = k'
            · subst h'
              rw [List.lookup_cons_self, List.lookup_cons_self]
            · rw [lookup_cons_of_ne h', lookup_cons_of_ne h', ih, if_neg h]

theorem map_fst_insertMember (k : String) (v : α) (members : List (String × α)) :
    (insertMember k v members).map Prod.fst = Expr.insertName k (members.map Prod.fst) := by
  induction members with
  | nil => rfl
  | cons m rest ih =>
      rw [insertMember, List.map_cons, Expr.insertName]
      split
      · rfl
      · split
        · next heq => rw [List.map_cons, heq]
        · rw [List.map_cons, ih]

theorem foldl_insertMember {members : List (String × α)} (h : Distinct members)
    (sorted : List (String × α)) (key : String) :
    (members.foldl (fun sorted m => insertMember m.1 m.2 sorted) sorted).lookup key =
      (members.lookup key).or (sorted.lookup key) := by
  induction members generalizing sorted with
  | nil => rfl
  | cons m rest ih =>
      obtain ⟨k, v⟩ := m
      rw [List.foldl_cons, ih h.tail, lookup_insertMember]
      by_cases hkey : key = k
      · subst hkey
        rw [if_pos rfl, List.lookup_cons_self, h.lookup_head]
        rfl
      · rw [if_neg hkey, lookup_cons_of_ne hkey]

/-- Sorting members under distinct keys does not change what is found under a key. -/
theorem lookup_sortMembers {members : List (String × α)} (h : Distinct members) (key : String) :
    (sortMembers members).lookup key = members.lookup key := by
  rw [sortMembers, foldl_insertMember h]
  exact Option.or_none

/-- Sorted members have distinct keys. -/
theorem distinct_sortMembers (members : List (String × α)) : Distinct (sortMembers members) := by
  have hkeys : ∀ sorted : List (String × α),
      (members.foldl (fun sorted m => insertMember m.1 m.2 sorted) sorted).map Prod.fst =
        (members.map Prod.fst).foldl (fun names n => Expr.insertName n names)
          (sorted.map Prod.fst) := by
    induction members with
    | nil => exact fun sorted => rfl
    | cons m rest ih =>
        intro sorted
        rw [List.foldl_cons, ih, map_fst_insertMember]
        rfl
  rw [Distinct, sortMembers, hkeys]
  exact (Expr.foldl_insertName_pairwise _ .nil).imp ne_of_lt

end Members

theorem lookup_normalizeMembers (members : List (String × Json)) (key : String) :
    (normalizeMembers members).lookup key = (members.lookup key).map normalize := by
  induction members with
  | nil => rfl
  | cons m rest ih =>
      obtain ⟨k, v⟩ := m
      rw [normalizeMembers]
      by_cases h : key = k
      · subst h
        rw [List.lookup_cons_self, List.lookup_cons_self, Option.map_some]
      · rw [lookup_cons_of_ne h, lookup_cons_of_ne h, ih]

theorem map_fst_normalizeMembers (members : List (String × Json)) :
    (normalizeMembers members).map Prod.fst = members.map Prod.fst := by
  induction members with
  | nil => rfl
  | cons m rest ih => rw [normalizeMembers, List.map_cons, ih, List.map_cons]

/-- The members of an object in normal form. -/
def sorted (members : List (String × Json)) : List (String × Json) :=
  sortMembers (normalizeMembers members)

theorem normalize_object (members : List (String × Json)) :
    (Json.object members).normalize = .object (sorted members) := by
  rw [normalize, sorted]

theorem distinct_sorted (members : List (String × Json)) : Distinct (sorted members) :=
  distinct_sortMembers _

/-- In normal form, the value under a key is the value in normal form. -/
theorem lookup_sorted {members : List (String × Json)} (h : Distinct members) (key : String) :
    (sorted members).lookup key = (members.lookup key).map normalize := by
  have hkeys : Distinct (normalizeMembers members) := by
    rw [Distinct, map_fst_normalizeMembers]
    exact h
  rw [sorted, lookup_sortMembers hkeys, lookup_normalizeMembers]

/-- A member is nested no deeper than the members together. -/
theorem depth_le_depthMembers {members : List (String × Json)} {key : String} {v : Json}
    (h : (key, v) ∈ members) : v.depth ≤ depthMembers members := by
  induction members with
  | nil => cases h
  | cons m rest ih =>
      rw [depthMembers]
      rcases List.mem_cons.1 h with rfl | h
      · exact Nat.le_max_left _ _
      · exact (ih h).trans (Nat.le_max_right _ _)

/-! ### Records whose members come in any order -/

/-- Reading members keeps an invariant between the members that are left and what was read, if every
member does: one that nobody asks for is passed over, and any other is read into its part. -/
theorem Record.readMembers_of_invariant {σ : Type} {src : Source Fault Json}
    (hskip : ∀ v, src.skip v = .ok ()) (fields : List (Field Fault Json σ))
    (I : List (String × Json) → σ → Prop)
    (hothers : ∀ key v rest s, (∀ f ∈ fields, f.name ≠ key) → I ((key, v) :: rest) s → I rest s)
    (hfields : ∀ f ∈ fields, ∀ v rest s, I ((f.name, v) :: rest) s →
      f.isSet s = false ∧ ∃ s', f.read v s = .ok s' ∧ I rest s')
    {members : List (String × Json)} {s : σ} (h : I members s) :
    ∃ s', readMembers src fields members s = .ok s' ∧ I [] s' := by
  induction members generalizing s with
  | nil => exact ⟨s, rfl, h⟩
  | cons m rest ih =>
      obtain ⟨key, v⟩ := m
      rw [readMembers]
      cases hfind : fields.find? (fun f => f.name == key) with
      | none =>
          have hnone : ∀ f ∈ fields, f.name ≠ key := by simpa using hfind
          simp only [hskip]
          exact ih (hothers key v rest s hnone h)
      | some f =>
          obtain rfl : f.name = key := by simpa using List.find?_some hfind
          obtain ⟨hunset, s', hread, hkept⟩ := hfields f (List.mem_of_find?_eq_some hfind) v rest s h
          simp only [hunset, hread, locate, Bool.false_eq_true, if_false]
          exact ih hkept

/-- A record is read, with its members in any order, from an invariant that starts with nothing read
and ends with what the record is made of. -/
theorem Record.readContents_of_invariant {σ τ : Type} {src : Source Fault Json}
    (hskip : ∀ v, src.skip v = .ok ()) (r : Record Fault Json σ τ)
    (I : List (String × Json) → σ → Prop)
    (hothers : ∀ key v rest s, (∀ f ∈ r.fields, f.name ≠ key) → I ((key, v) :: rest) s → I rest s)
    (hfields : ∀ f ∈ r.fields, ∀ v rest s, I ((f.name, v) :: rest) s →
      f.isSet s = false ∧ ∃ s', f.read v s = .ok s' ∧ I rest s')
    {t : τ} (hfinish : ∀ s, I [] s → r.finish s = .ok t) {members : List (String × Json)}
    (hstart : I members r.start) : r.readContents src (.members members (.ok ())) = .ok t := by
  obtain ⟨s, hs, h⟩ := readMembers_of_invariant hskip r.fields I hothers hfields hstart
  simp only [readContents, hs, bind, Except.bind, finished, hfinish s h]

/-- A part of a record, as long as members under distinct keys are read: either there is no member for
it any more, and it is as it should be, or its member is still to come and will make it so. -/
def Awaits {α : Type} (read : Json → Except Fault α) (key : String)
    (members : List (String × Json)) (part : Option α) (good : Option α → Prop) : Prop :=
  (members.lookup key = none ∧ good part) ∨
    (part = none ∧ ∃ v a, members.lookup key = some v ∧ read v = .ok a ∧ good (some a))

section Awaits

variable {α : Type} {read : Json → Except Fault α} {key : String} {v : Json}
  {rest : List (String × Json)} {part : Option α} {good : Option α → Prop}

theorem awaits_of_lookup {members : List (String × Json)} {a : α}
    (h : members.lookup key = some v) (hread : read v = .ok a) (hgood : good (some a)) :
    Awaits read key members none good := .inr ⟨rfl, v, a, h, hread, hgood⟩

theorem Awaits.of_ne {k : String} (h : Awaits read key ((k, v) :: rest) part good)
    (hne : key ≠ k) : Awaits read key rest part good := by
  rw [Awaits, lookup_cons_of_ne hne] at h
  exact h

/-- The member for a part is read into it, and there is no further one. -/
theorem Awaits.exists_read (h : Awaits read key ((key, v) :: rest) part good)
    (hkeys : Distinct ((key, v) :: rest)) :
    part = none ∧ ∃ a, read v = .ok a ∧ Awaits read key rest (some a) good := by
  rcases h with ⟨hnone, -⟩ | ⟨rfl, w, a, hw, hread, hgood⟩
  · rw [List.lookup_cons_self] at hnone
    cases hnone
  · rw [List.lookup_cons_self] at hw
    obtain rfl := Option.some.inj hw
    exact ⟨rfl, a, hread, .inl ⟨hkeys.lookup_head, hgood⟩⟩

theorem Awaits.good_of_nil (h : Awaits read key [] part good) : good part := by
  rcases h with ⟨-, hgood⟩ | ⟨-, w, a, hw, -⟩
  · exact hgood
  · cases hw

end Awaits

end Rulebook.Json

namespace Rulebook

open Json (Fault Document Distinct Awaits)

/-! ### Spellings -/

/-- The values that spell a literal: a number is any number that stands for the double. -/
inductive Scalar.Spells : Scalar → Json → Prop
  | number (n : Json.Number) : Spells (.number n.toFloat) (.number n)
  | string (s : String) : Spells (.string s) (.string s)

/-- What may be found under the key of a default: `null` is no default. -/
inductive Scalar.SpellsDefault : Option Scalar → Option Json → Prop
  | absent : SpellsDefault none none
  | null : SpellsDefault none (some .null)
  | given {d : Scalar} {v : Json} (h : d.Spells v) : SpellsDefault (some d) (some v)

/-- The names that a connective has in JSON. -/
def Connective.aliases : Connective → List String
  | and => ["&&", "and", "AND"]
  | or => ["||", "or", "OR"]

namespace Expr

/-- Where an expression is spelled. -/
inductive Place where
  /-- By itself or as a part of a joined expression. -/
  | node
  /-- As an operand of a condition. -/
  | operand

/-- What may be found under the key of a kind: only an operand may leave its kind untold. -/
inductive TellsKind (kind : String) : Place → Option Json → Prop
  | told {place : Place} : TellsKind kind place (some (.string kind))
  | untold : TellsKind kind .operand none

/-- The values that spell an expression: objects with the parts of the node under their keys, whatever
else they hold.  A literal that does not tell its kind must not have a name. -/
inductive Spells : Place → Expr → Json → Prop
  | reference {place : Place} {members : List (String × Json)} {name : String}
      {default : Option Scalar} (distinct : Distinct members)
      (kind : TellsKind "Identifier" place (members.lookup "type"))
      (hname : members.lookup "name" = some (.string name))
      (hdefault : Scalar.SpellsDefault default (members.lookup "default")) :
      Spells place (.reference name default) (.object members)
  | literal {place : Place} {members : List (String × Json)} {value : Scalar} {v : Json}
      (distinct : Distinct members)
      (kind : TellsKind "Literal" place (members.lookup "type"))
      (unnamed : members.lookup "type" = none → members.lookup "name" = none)
      (hvalue : members.lookup "value" = some v) (spelled : value.Spells v) :
      Spells place (.literal value) (.object members)
  | comparison {place : Place} {members : List (String × Json)} {relation : Relation}
      {left right : Expr} {l r : Json} (distinct : Distinct members)
      (kind : members.lookup "type" = some (.string "BinaryExpression"))
      (operator : members.lookup "operator" = some (.string relation.symbol))
      (hleft : members.lookup "left" = some l) (spellsLeft : Spells .operand left l)
      (hright : members.lookup "right" = some r) (spellsRight : Spells .operand right r) :
      Spells place (.comparison relation left right) (.object members)
  | logical {place : Place} {members : List (String × Json)} {connective : Connective}
      {word : String} {left right : Expr} {l r : Json} (distinct : Distinct members)
      (kind : members.lookup "type" = some (.string "LogicalExpression"))
      (operator : members.lookup "operator" = some (.string word))
      (hword : word ∈ connective.aliases)
      (hleft : members.lookup "left" = some l) (spellsLeft : Spells .node left l)
      (hright : members.lookup "right" = some r) (spellsRight : Spells .node right r) :
      Spells place (.logical connective left right) (.object members)

/-! ### The JSON form is a spelling -/

theorem spells_toJson_scalar (v : Scalar) : v.Spells v.toJson := by
  cases v with
  | number x => exact .number (.double x)
  | string s => exact .string s

/-- The JSON form of an expression spells it. -/
theorem spells_toJson (place : Place) (e : Expr) : Spells place e e.toJson := by
  induction e generalizing place with
  | reference name default =>
      cases default with
      | none => exact .reference (by simp [Distinct]) .told rfl .absent
      | some d => exact .reference (by simp [Distinct]) .told rfl (.given (spells_toJson_scalar d))
  | literal value =>
      exact .literal (by simp [Distinct]) .told (fun h => nomatch h) rfl (spells_toJson_scalar value)
  | comparison r left right ihl ihr =>
      exact .comparison (by simp [Distinct]) rfl rfl rfl (ihl .operand) rfl (ihr .operand)
  | logical c left right ihl ihr =>
      exact .logical (by simp [Distinct]) rfl rfl (by cases c <;> decide) rfl (ihl .node) rfl
        (ihr .node)

/-! ### Spellings in normal form -/

theorem normalize_of_spells_scalar {v : Scalar} {j : Json} (h : v.Spells j) : j.normalize = j := by
  cases h <;> rfl

theorem spellsDefault_map_normalize {d : Option Scalar} {j : Option Json}
    (h : Scalar.SpellsDefault d j) : Scalar.SpellsDefault d (j.map Json.normalize) := by
  cases h with
  | absent => exact .absent
  | null => exact .null
  | given h =>
      rw [Option.map_some, normalize_of_spells_scalar h]
      exact .given h

theorem TellsKind.map_normalize {kind : String} {place : Place} {j : Option Json}
    (h : TellsKind kind place j) : TellsKind kind place (j.map Json.normalize) := by
  cases h with
  | told => exact .told
  | untold => exact .untold

/-- A spelling stays one in normal form. -/
theorem Spells.normalize {place : Place} {e : Expr} {v : Json} (h : Spells place e v) :
    Spells place e v.normalize := by
  induction h with
  | reference distinct kind hname hdefault =>
      rw [Json.normalize_object]
      refine .reference (Json.distinct_sorted _) ?_ ?_ ?_
      · rw [Json.lookup_sorted distinct]
        exact kind.map_normalize
      · rw [Json.lookup_sorted distinct, hname]
        rfl
      · rw [Json.lookup_sorted distinct]
        exact spellsDefault_map_normalize hdefault
  | literal distinct kind unnamed hvalue value =>
      rw [Json.normalize_object]
      refine .literal (Json.distinct_sorted _) ?_ ?_ ?_ value
      · rw [Json.lookup_sorted distinct]
        exact kind.map_normalize
      · rw [Json.lookup_sorted distinct, Json.lookup_sorted distinct, Option.map_eq_none_iff,
          Option.map_eq_none_iff]
        exact unnamed
      · rw [Json.lookup_sorted distinct, hvalue, Option.map_some, normalize_of_spells_scalar value]
  | comparison distinct kind operator hleft _ hright _ ihl ihr =>
      rw [Json.normalize_object]
      refine .comparison (Json.distinct_sorted _) ?_ ?_ ?_ ihl ?_ ihr
      · rw [Json.lookup_sorted distinct, kind]
        rfl
      · rw [Json.lookup_sorted distinct, operator]
        rfl
      · rw [Json.lookup_sorted distinct, hleft]
        rfl
      · rw [Json.lookup_sorted distinct, hright]
        rfl
  | logical distinct kind operator hword hleft _ hright _ ihl ihr =>
      rw [Json.normalize_object]
      refine .logical (Json.distinct_sorted _) ?_ ?_ hword ?_ ihl ?_ ihr
      · rw [Json.lookup_sorted distinct, kind]
        rfl
      · rw [Json.lookup_sorted distinct, operator]
        rfl
      · rw [Json.lookup_sorted distinct, hleft]
        rfl
      · rw [Json.lookup_sorted distinct, hright]
        rfl

/-! ### The kind set aside -/

/-- The members without the kind. -/
def untyped (members : List (String × Json)) : List (String × Json) :=
  members.filter fun m => m.1 ≠ "type"

theorem untyped_cons_of_ne {key : String} (h : key ≠ "type") (v : Json)
    (rest : List (String × Json)) : untyped ((key, v) :: rest) = (key, v) :: untyped rest :=
  List.filter_cons_of_pos (decide_eq_true h)

theorem untyped_cons_self (v : Json) (rest : List (String × Json)) :
    untyped (("type", v) :: rest) = untyped rest := List.filter_cons_of_neg (by simp)

theorem distinct_untyped {members : List (String × Json)} (h : Distinct members) :
    Distinct (untyped members) := h.sublist (List.filter_sublist.map Prod.fst)

theorem lookup_untyped {key : String} (h : key ≠ "type") (members : List (String × Json)) :
    (untyped members).lookup key = members.lookup key := by
  induction members with
  | nil => rfl
  | cons m rest ih =>
      obtain ⟨k, v⟩ := m
      by_cases hk : k = "type"
      · subst hk
        rw [untyped_cons_self, ih, Json.lookup_cons_of_ne h]
      · rw [untyped_cons_of_ne hk]
        by_cases hkey : key = k
        · subst hkey
          rw [List.lookup_cons_self, List.lookup_cons_self]
        · rw [Json.lookup_cons_of_ne hkey, Json.lookup_cons_of_ne hkey, ih]

theorem untyped_eq_self {members : List (String × Json)} (h : members.lookup "type" = none) :
    untyped members = members := by
  induction members with
  | nil => rfl
  | cons m rest ih =>
      obtain ⟨hkey, h⟩ := Json.lookup_cons_eq_none_iff.1 h
      rw [untyped_cons_of_ne hkey, ih h]

section Kind

variable {setting : Setting} {k : Kind} {t : Json}

/-- Where no member tells the kind, it is the one told before, if any. -/
theorem splitKind_untold (told : Option Kind) {members : List (String × Json)}
    (h : members.lookup "type" = none) :
    splitKind setting told members =
      told.elim (.error (.missingField "type")) fun k => .ok (k, members) := by
  induction members with
  | nil => cases told <;> rfl
  | cons m rest ih =>
      obtain ⟨hkey, h⟩ := Json.lookup_cons_eq_none_iff.1 h
      cases told <;> rw [splitKind, if_neg hkey, ih h] <;> rfl

/-- The kind is found wherever it is told, and the other members keep their order. -/
theorem splitKind_eq {members : List (String × Json)} (distinct : Distinct members)
    (ht : members.lookup "type" = some t) (hk : readKind setting t = .ok k) :
    splitKind setting none members = .ok (k, untyped members) := by
  induction members with
  | nil => cases ht
  | cons m rest ih =>
      obtain ⟨key, v⟩ := m
      rcases Json.lookup_cons_eq_some_iff.1 ht with ⟨rfl, rfl⟩ | ⟨hkey, ht⟩
      · simp only [splitKind, if_true, hk]
        rw [splitKind_untold (some k) distinct.lookup_head, Option.elim_some, untyped_cons_self,
          untyped_eq_self distinct.lookup_head]
      · rw [splitKind, if_neg hkey, ih distinct.tail ht, untyped_cons_of_ne hkey]

/-- Where no member of a text tells the kind, every one is set aside. -/
theorem splitKindInText_untold {members : List (Option String × Document)}
    {ms : List (String × Json)} (h : Document.membersToJson? members = some ms)
    (ht : ms.lookup "type" = none) (told : Option Kind) :
    splitKindInText told members = .ok (told, ms) := by
  induction members generalizing ms with
  | nil =>
      obtain rfl : [] = ms := Option.some.inj h
      rfl
  | cons m rest ih =>
      obtain ⟨_, d⟩ := m
      obtain ⟨key, v, ms', rfl, hd, hrest, rfl⟩ := Document.membersToJson?_cons_eq_some_iff.1 h
      obtain ⟨hkey, ht⟩ := Json.lookup_cons_eq_none_iff.1 ht
      simp only [splitKindInText, if_neg hkey, hd, ih hrest ht]

/-- The kind is found in a text likewise. -/
theorem splitKindInText_eq {members : List (String × Json)} {name : String}
    (distinct : Distinct members) (ht : members.lookup "type" = some (.string name))
    (hk : Kind.wireNames.lookup name = some k) :
    splitKindInText none (Json.membersToDocument members) = .ok (some k, untyped members) := by
  induction members with
  | nil => cases ht
  | cons m rest ih =>
      obtain ⟨key, v⟩ := m
      rcases Json.lookup_cons_eq_some_iff.1 ht with ⟨rfl, rfl⟩ | ⟨hkey, ht⟩
      · simp only [Json.membersToDocument, Json.toDocument, splitKindInText, if_true,
          readKindInText, readKind, hk]
        rw [splitKindInText_untold (Json.membersToJson?_toDocument rest) distinct.lookup_head,
          untyped_cons_self, untyped_eq_self distinct.lookup_head]
      · simp only [Json.membersToDocument, splitKindInText, if_neg hkey, Json.toJson?_toDocument,
          ih distinct.tail ht, untyped_cons_of_ne hkey]

end Kind

/-! ### Parts in any order -/

section Parts

variable {src : Json.Source Fault Json} {members : List (String × Json)}

/-- A reference of which some members are still to be read. -/
structure AwaitsReference (name : String) (default : Option Scalar)
    (members : List (String × Json)) (parts : ReferenceParts) : Prop where
  distinct : Distinct members
  name : Awaits Json.readString "name" members parts.name (· = some name)
  default : Awaits readDefault "default" members parts.default (·.getD none = default)

/-- A reference is read from its name and default, whatever else stands among them. -/
theorem readContents_reference {name : String} {default : Option Scalar}
    (hskip : ∀ v, src.skip v = .ok ()) (distinct : Distinct members)
    (hname : members.lookup "name" = some (.string name))
    (hdefault : Scalar.SpellsDefault default (members.lookup "default")) :
    referenceRecord.readContents src (.members members (.ok ())) =
      .ok (.reference name default) := by
  have hstart : AwaitsReference name default members referenceRecord.start := by
    refine ⟨distinct, .inr ⟨rfl, _, name, hname, rfl, rfl⟩, ?_⟩
    generalize hd : members.lookup "default" = d at hdefault
    cases hdefault with
    | absent => exact .inl ⟨hd, rfl⟩
    | null => exact Json.awaits_of_lookup hd rfl rfl
    | given h => exact Json.awaits_of_lookup hd (by cases h <;> rfl) rfl
  have hfields : ∀ f ∈ referenceRecord.fields, ∀ v rest s,
      AwaitsReference name default ((f.name, v) :: rest) s →
        f.isSet s = false ∧ ∃ s', f.read v s = .ok s' ∧ AwaitsReference name default rest s' := by
    simp only [referenceRecord, List.forall_mem_cons, List.not_mem_nil, false_implies,
      implies_true, and_true]
    refine ⟨?_, ?_⟩
    · rintro v rest s ⟨hkeys, hname, hdefault⟩
      obtain ⟨hunset, a, hread, hname⟩ := hname.exists_read hkeys
      exact ⟨by rw [hunset]; rfl, { s with name := some a }, by rw [hread]; rfl, hkeys.tail, hname,
        hdefault.of_ne (by decide)⟩
    · rintro v rest s ⟨hkeys, hname, hdefault⟩
      obtain ⟨hunset, a, hread, hdefault⟩ := hdefault.exists_read hkeys
      exact ⟨by rw [hunset]; rfl, { s with default := some a }, by rw [hread]; rfl, hkeys.tail,
        hname.of_ne (by decide), hdefault⟩
  refine Json.Record.readContents_of_invariant hskip referenceRecord
    (AwaitsReference name default) ?_ hfields ?_ hstart
  · rintro key v rest s hne ⟨hkeys, hname, hdefault⟩
    simp only [referenceRecord, List.forall_mem_cons, List.not_mem_nil, false_implies,
      implies_true, and_true] at hne
    exact ⟨hkeys.tail, hname.of_ne hne.1, hdefault.of_ne hne.2⟩
  · intro s h
    rw [← h.default.good_of_nil]
    simp only [referenceRecord, h.name.good_of_nil]
    rfl

/-- A literal is read from its value, whatever else stands beside it. -/
theorem readContents_literal {value : Scalar} {v : Json} (hskip : ∀ v, src.skip v = .ok ())
    (distinct : Distinct members) (hvalue : members.lookup "value" = some v)
    (spelled : value.Spells v) :
    literalRecord.readContents src (.members members (.ok ())) = .ok (.literal value) := by
  have hread : readScalar v = .ok value := by cases spelled <;> rfl
  refine Json.Record.readContents_of_invariant hskip literalRecord
    (fun members s => Distinct members ∧ Awaits readScalar "value" members s (· = some value))
    ?_ ?_ ?_ ⟨distinct, Json.awaits_of_lookup hvalue hread rfl⟩
  · rintro key v rest s hne ⟨hkeys, hvalue⟩
    exact ⟨hkeys.tail, hvalue.of_ne (hne _ List.mem_cons_self)⟩
  · simp only [literalRecord, List.forall_mem_cons, List.not_mem_nil, false_implies,
      implies_true, and_true]
    rintro v rest s ⟨hkeys, hvalue⟩
    obtain ⟨hunset, a, hread, hvalue⟩ := hvalue.exists_read hkeys
    exact ⟨by rw [hunset]; rfl, some a, by rw [hread]; rfl, hkeys.tail, hvalue⟩
  · rintro s ⟨-, hvalue⟩
    rw [hvalue.good_of_nil]
    rfl

/-- A node with an operator and two children of which some members are still to be read. -/
structure AwaitsBranch {τ : Type} (readOperator : Json → Except Fault τ)
    (readChild : Json → Except Fault Expr) (operator : τ) (left right : Expr)
    (members : List (String × Json)) (parts : BranchParts τ) : Prop where
  distinct : Distinct members
  operator : Awaits readOperator "operator" members parts.operator (· = some operator)
  left : Awaits readChild "left" members parts.left (· = some left)
  right : Awaits readChild "right" members parts.right (· = some right)

/-- A node with an operator and two children is read from them, whatever else stands among them. -/
theorem readContents_branch_of_lookup {τ : Type} {name : String}
    {readOperator : Json → Except Fault τ} {readChild : Json → Except Fault Expr}
    {make : τ → Expr → Expr → Expr} {op : τ} {o l r : Json} {left right : Expr}
    (hskip : ∀ v, src.skip v = .ok ()) (distinct : Distinct members)
    (hoperator : members.lookup "operator" = some o) (ho : readOperator o = .ok op)
    (hleft : members.lookup "left" = some l) (hl : readChild l = .ok left)
    (hright : members.lookup "right" = some r) (hr : readChild r = .ok right) :
    (branchRecord name readOperator readChild make).readContents src (.members members (.ok ())) =
      .ok (make op left right) := by
  have hfields : ∀ f ∈ (branchRecord name readOperator readChild make).fields, ∀ v rest s,
      AwaitsBranch readOperator readChild op left right ((f.name, v) :: rest) s →
        f.isSet s = false ∧
          ∃ s', f.read v s = .ok s' ∧ AwaitsBranch readOperator readChild op left right rest s' := by
    simp only [branchRecord, List.forall_mem_cons, List.not_mem_nil, false_implies, implies_true,
      and_true]
    refine ⟨?_, ?_, ?_⟩
    · rintro v rest s ⟨hkeys, hop, hl, hr⟩
      obtain ⟨hunset, a, hread, hop⟩ := hop.exists_read hkeys
      exact ⟨by rw [hunset]; rfl, { s with operator := some a }, by rw [hread]; rfl, hkeys.tail, hop,
        hl.of_ne (by decide), hr.of_ne (by decide)⟩
    · rintro v rest s ⟨hkeys, hop, hl, hr⟩
      obtain ⟨hunset, a, hread, hl⟩ := hl.exists_read hkeys
      exact ⟨by rw [hunset]; rfl, { s with left := some a }, by rw [hread]; rfl, hkeys.tail,
        hop.of_ne (by decide), hl, hr.of_ne (by decide)⟩
    · rintro v rest s ⟨hkeys, hop, hl, hr⟩
      obtain ⟨hunset, a, hread, hr⟩ := hr.exists_read hkeys
      exact ⟨by rw [hunset]; rfl, { s with right := some a }, by rw [hread]; rfl, hkeys.tail,
        hop.of_ne (by decide), hl.of_ne (by decide), hr⟩
  refine Json.Record.readContents_of_invariant hskip (branchRecord name readOperator readChild make)
    (AwaitsBranch readOperator readChild op left right) ?_ hfields ?_
    ⟨distinct, Json.awaits_of_lookup hoperator ho rfl, Json.awaits_of_lookup hleft hl rfl,
      Json.awaits_of_lookup hright hr rfl⟩
  · rintro key v rest s hne ⟨hkeys, hop, hl, hr⟩
    simp only [branchRecord, List.forall_mem_cons, List.not_mem_nil, false_implies, implies_true,
      and_true] at hne
    exact ⟨hkeys.tail, hop.of_ne hne.1, hl.of_ne hne.2.1, hr.of_ne hne.2.2⟩
  · intro s h
    simp only [branchRecord, h.operator.good_of_nil, h.left.good_of_nil, h.right.good_of_nil]
    rfl

end Parts

/-! ### Reading -/

theorem depth_pos (e : Expr) : 0 < e.depth := by
  cases e <;> simp only [depth] <;> omega

/-- What spells an expression is an object. -/
theorem Spells.exists_members {place : Place} {e : Expr} {v : Json} (h : Spells place e v) :
    ∃ members, v = .object members := by
  cases h <;> exact ⟨_, rfl⟩

theorem Spells.distinct_members {place : Place} {e : Expr} {members : List (String × Json)}
    (h : Spells place e (.object members)) : Distinct members := by
  cases h <;> assumption

/-- An operand that tells its kind is spelled as a node. -/
theorem Spells.node_of_told {e : Expr} {members : List (String × Json)}
    (h : Spells .operand e (.object members)) (ht : members.lookup "type" ≠ none) :
    Spells .node e (.object members) := by
  cases h with
  | reference distinct kind hname hdefault =>
      generalize hm : members.lookup "type" = m at kind
      cases kind with
      | told => exact .reference distinct (hm ▸ .told) hname hdefault
      | untold => exact absurd hm ht
  | literal distinct kind unnamed hvalue spelled =>
      generalize hm : members.lookup "type" = m at kind
      cases kind with
      | told => exact .literal distinct (hm ▸ .told) unnamed hvalue spelled
      | untold => exact absurd hm ht
  | comparison distinct kind operator hleft spellsLeft hright spellsRight =>
      exact .comparison distinct kind operator hleft spellsLeft hright spellsRight
  | logical distinct kind operator hword hleft spellsLeft hright spellsRight =>
      exact .logical distinct kind operator hword hleft spellsLeft hright spellsRight

/-- An operand that does not tell its kind is a reference if it has a name, and else a literal. -/
theorem Spells.read_untold {e : Expr} {members : List (String × Json)}
    (h : Spells .operand e (.object members)) (ht : members.lookup "type" = none) :
    (if ((Json.object members).get? "name").isSome then
        referenceRecord.read Json.alone (.object members)
      else if ((Json.object members).get? "value").isSome then
        literalRecord.read Json.alone (.object members)
      else .error .noOperand) = .ok e := by
  cases h with
  | reference distinct _ hname hdefault =>
      have hread : referenceRecord.readContents Json.alone (.members members (.ok ())) = .ok _ :=
        readContents_reference (fun _ => rfl) distinct hname hdefault
      rw [if_pos (by simp [Json.get?_object, hname])]
      exact hread
  | literal distinct _ unnamed hvalue spelled =>
      have hread : literalRecord.readContents Json.alone (.members members (.ok ())) = .ok _ :=
        readContents_literal (fun _ => rfl) distinct hvalue spelled
      rw [if_neg (by simp [Json.get?_object, unnamed ht]),
        if_pos (by simp [Json.get?_object, hvalue])]
      exact hread
  | comparison _ kind => rw [ht] at kind; cases kind
  | logical _ kind => rw [ht] at kind; cases kind

/-- A node tells its kind, and its other members are read as its parts, if its children are. -/
theorem Spells.exists_readParts {readOperand readNode : Json → Except Fault Expr} {e : Expr}
    {members : List (String × Json)} (h : Spells .node e (.object members))
    (hoperand : ∀ sub v, sub.depth < e.depth → Spells .operand sub v → readOperand v = .ok sub)
    (hnode : ∀ sub v, sub.depth < e.depth → Spells .node sub v → readNode v = .ok sub) :
    ∃ name k, members.lookup "type" = some (.string name) ∧ Kind.wireNames.lookup name = some k ∧
      readParts readOperand readNode k (.members (untyped members) (.ok ())) = .ok e := by
  have hlookup : ∀ {key v}, key ≠ "type" → members.lookup key = some v →
      (untyped members).lookup key = some v := fun hne h => (lookup_untyped hne members).trans h
  cases h with
  | reference distinct kind hname hdefault =>
      generalize hm : members.lookup "type" = m at kind
      obtain ⟨⟩ := kind
      refine ⟨"Identifier", .reference, rfl, rfl, ?_⟩
      refine readContents_reference (fun _ => rfl) (distinct_untyped distinct)
        (hlookup (by decide) hname) ?_
      rw [lookup_untyped (by decide)]
      exact hdefault
  | literal distinct kind unnamed hvalue spelled =>
      generalize hm : members.lookup "type" = m at kind
      obtain ⟨⟩ := kind
      exact ⟨"Literal", .literal, rfl, rfl, readContents_literal (fun _ => rfl)
        (distinct_untyped distinct) (hlookup (by decide) hvalue) spelled⟩
  | @comparison _ _ relation left right l r distinct kind operator hleft spellsLeft hright
      spellsRight =>
      refine ⟨"BinaryExpression", .comparison, kind, rfl, readContents_branch_of_lookup
        (fun _ => rfl) (distinct_untyped distinct) (hlookup (by decide) operator) ?_
        (hlookup (by decide) hleft) (hoperand left l ?_ spellsLeft)
        (hlookup (by decide) hright) (hoperand right r ?_ spellsRight)⟩
      · cases relation <;> rfl
      · rw [depth]
        omega
      · rw [depth]
        omega
  | @logical _ _ connective word left right l r distinct kind operator hword hleft spellsLeft
      hright spellsRight =>
      refine ⟨"LogicalExpression", .logical, kind, rfl, readContents_branch_of_lookup
        (fun _ => rfl) (distinct_untyped distinct) (hlookup (by decide) operator) ?_
        (hlookup (by decide) hleft) (hnode left l ?_ spellsLeft)
        (hlookup (by decide) hright) (hnode right r ?_ spellsRight)⟩
      · cases connective <;> simp only [Connective.aliases, List.mem_cons, List.not_mem_nil,
          or_false] at hword <;> rcases hword with rfl | rfl | rfl <;> rfl
      · rw [depth]
        omega
      · rw [depth]
        omega

/-- **Spellings are read**, with fuel for two steps at every level of the expression. -/
theorem read_of_spells (fuel : Nat) :
    (∀ setting e v, 2 * e.depth ≤ fuel + 1 → Spells .node e v → readNode fuel setting v = .ok e) ∧
      ∀ e v, 2 * e.depth ≤ fuel → Spells .operand e v → readOperand fuel v = .ok e := by
  induction fuel with
  | zero =>
      refine ⟨fun _ e _ hfuel _ => ?_, fun e _ hfuel _ => ?_⟩
      · have := e.depth_pos
        omega
      · have := e.depth_pos
        omega
  | succ fuel ih =>
      obtain ⟨ihNode, ihOperand⟩ := ih
      refine ⟨fun setting e v hfuel h => ?_, fun e v hfuel h => ?_⟩
      · obtain ⟨members, rfl⟩ := h.exists_members
        obtain ⟨name, k, ht, hk, hparts⟩ := h.exists_readParts
          (fun sub v hsub => ihOperand sub v (by omega))
          (fun sub v hsub => ihNode .buffered sub v (by omega))
        have hkind : readKind setting (.string name) = .ok k := by simp only [readKind, hk]
        rw [readNode, splitKind_eq h.distinct_members ht hkind]
        exact hparts
      · obtain ⟨members, rfl⟩ := h.exists_members
        have hsorted := h.normalize
        rw [Json.normalize_object] at hsorted
        rw [readOperand, Json.normalize_object]
        generalize Json.sorted members = members at hsorted ⊢
        by_cases ht : members.lookup "type" = none
        · rw [if_neg (by simp [Json.get?_object, ht])]
          exact hsorted.read_untold ht
        · rw [if_pos (by simpa [Json.get?_object, Option.isSome_iff_ne_none] using ht)]
          exact ihNode .alone e _ hfuel (hsorted.node_of_told ht)

/-! ### Nesting -/

theorem depth_branch_le {members : List (String × Json)} {left right : Expr} {l r : Json}
    (hleft : members.lookup "left" = some l) (hl : left.depth ≤ l.depth)
    (hright : members.lookup "right" = some r) (hr : right.depth ≤ r.depth) :
    1 + max left.depth right.depth ≤ (Json.object members).depth := by
  have hleft := Json.depth_le_depthMembers (Json.mem_of_lookup hleft)
  have hright := Json.depth_le_depthMembers (Json.mem_of_lookup hright)
  rw [Json.depth]
  omega

/-- A spelling is nested at least as deep as the expression. -/
theorem Spells.depth_le {place : Place} {e : Expr} {v : Json} (h : Spells place e v) :
    e.depth ≤ v.depth := by
  induction h with
  | reference => exact Nat.le_add_right 1 _
  | literal => exact Nat.le_add_right 1 _
  | comparison _ _ _ hleft _ hright _ ihl ihr => exact depth_branch_le hleft ihl hright ihr
  | logical _ _ _ _ hleft _ hright _ ihl ihr => exact depth_branch_le hleft ihl hright ihr

/-- Setting the kind aside does not change that. -/
theorem Spells.depth_le_untyped {place : Place} {e : Expr} {members : List (String × Json)}
    (h : Spells place e (.object members)) : e.depth ≤ (Json.object (untyped members)).depth := by
  have hlookup : ∀ {key v}, key ≠ "type" → members.lookup key = some v →
      (untyped members).lookup key = some v := fun hne h => (lookup_untyped hne members).trans h
  cases h with
  | reference => exact Nat.le_add_right 1 _
  | literal => exact Nat.le_add_right 1 _
  | comparison _ _ _ hleft spellsLeft hright spellsRight =>
      exact depth_branch_le (hlookup (by decide) hleft) spellsLeft.depth_le
        (hlookup (by decide) hright) spellsRight.depth_le
  | logical _ _ _ _ hleft spellsLeft hright spellsRight =>
      exact depth_branch_le (hlookup (by decide) hleft) spellsLeft.depth_le
        (hlookup (by decide) hright) spellsRight.depth_le

/-! ### Every spelling is read -/

theorem ofJson?_eq_of_spells {e : Expr} {v : Json} (h : Spells .node e v) : ofJson? v = .ok e := by
  have hdepth := h.depth_le
  exact (read_of_spells (fuelFor v)).1 .alone e v (by rw [fuelFor]; omega) h

theorem ofDocument?_eq_of_spells {e : Expr} {v : Json} (h : Spells .node e v) :
    ofDocument? (Json.toDocument v) = .ok e := by
  obtain ⟨members, rfl⟩ := h.exists_members
  have hdepth := h.depth_le_untyped
  obtain ⟨ihNode, ihOperand⟩ := read_of_spells (fuelFor (.object (untyped members)))
  obtain ⟨name, k, ht, hk, hparts⟩ := h.exists_readParts
    (fun sub v hsub => ihOperand sub v (by rw [fuelFor]; omega))
    (fun sub v hsub => ihNode .buffered sub v (by rw [fuelFor]; omega))
  rw [Json.toDocument, ofDocument?, splitKindInText_eq h.distinct_members ht hk]
  simp only [bind, Except.bind, Json.ending, if_true, readPartsInText, hparts]

/-- **Every spelling of an expression is read as the expression**, whatever its shape: as a value, as a
value in normal form, and off a text.  Its own JSON form is one of them. -/
theorem ofJson?_of_spells (e : Expr) :
    ofJson? e.toJson = .ok e ∧
      ∀ v, Spells .node e v →
        ofJson? v = .ok e ∧ ofJson? v.normalize = .ok e ∧ ofDocument? (Json.toDocument v) = .ok e :=
  ⟨ofJson?_eq_of_spells (spells_toJson .node e), fun _ h =>
    ⟨ofJson?_eq_of_spells h, ofJson?_eq_of_spells h.normalize, ofDocument?_eq_of_spells h⟩⟩

/-- The members come in another order and among others, the connective is a symbol, numbers are
integers, a default is `null`, and the operands leave their kinds to be guessed: one of them has both a
name and a value. -/
theorem ofJson?_untold_operands_eq :
    let e : Expr := .logical .and
      (.comparison .gt (.reference "age" none) (.literal (.number 30)))
      (.comparison .eq (.literal (.string "x")) (.reference "team" (some (.number 1))))
    let left : Json := .object [("raw", .null), ("operator", .string ">"),
      ("right", .object [("value", .number (.integer 30)), ("raw", .string "30")]),
      ("left", .object [("default", .null), ("name", .string "age"), ("value", .bool true)]),
      ("type", .string "BinaryExpression")]
    let right : Json := .object [("type", .string "BinaryExpression"), ("operator", .string "=="),
      ("left", .object [("type", .string "Literal"), ("name", .null), ("value", .string "x")]),
      ("right", .object [("name", .string "team"), ("default", .number (.integer 1))])]
    let v : Json := .object [("operator", .string "&&"), ("left", left), ("right", right),
      ("type", .string "LogicalExpression")]
    ofJson? v = .ok e := by
  intro e left right v
  have hl : Spells .node (.comparison .gt _ _) left := .comparison (by simp [Distinct]) rfl rfl
    rfl (.reference (by simp [Distinct]) .untold rfl .null)
    rfl (.literal (by simp [Distinct]) .untold (fun _ => rfl) rfl (.number (.integer 30)))
  have hr : Spells .node (.comparison .eq _ _) right := .comparison (by simp [Distinct]) rfl rfl
    rfl (.literal (by simp [Distinct]) .told (fun h => nomatch h) rfl (.string "x"))
    rfl (.reference (by simp [Distinct]) .untold rfl (.given (.number (.integer 1))))
  have hv : Spells .node e v :=
    .logical (by simp [Distinct]) rfl rfl (by decide) rfl hl rfl hr
  exact ((ofJson?_of_spells e).2 v hv).1

end Expr

end Rulebook
