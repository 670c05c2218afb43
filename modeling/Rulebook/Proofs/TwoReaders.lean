/-
**Two readers of expressions.**

An expression can be read off a text as the text goes by, or the text can be read as a value first, which
is in normal form, and the expression from the value.  The first reader meets the members in the order
of the text, and the second one in the order of their keys.  If no object of the text has a key twice,
the two agree: either both read the same expression or neither reads any.

What makes them agree is that a node is read from its kind and its parts, wherever they stand, and that
the parts in normal form are read like the parts themselves.

Main definitions:

* `Rulebook.Expr.node?` — the kind and the parts of a node;
* `Rulebook.Json.Contents.Normalizes` — parts, and the same parts in normal form;
* `Rulebook.Expr.ofText?` — the expression that a text spells, with nothing behind it.

Main results:

* `Rulebook.Expr.sameResult_readParts` — the parts of a node are read alike in normal form;
* `Rulebook.Expr.sameResult_read` — a node is, by induction over its nesting;
* `Rulebook.Expr.sameResult_ofDocument?` — a node is read off a text as from its value;
* `Rulebook.Expr.text_and_value_are_read_alike` — **the two readers agree**.
-/

import Rulebook.Json.Reader
import Rulebook.Proofs.NormalForm
import Rulebook.Proofs.RecordParts

set_option autoImplicit false

namespace Rulebook

namespace Json

/-! ### Parts in normal form -/

/-- Parts, and the same parts in normal form. -/
inductive Contents.Normalizes : Contents Fault Json → Contents Fault Json → Prop
  | members {ms ms' : List (String × Json)} (distinct : Distinct ms) (distinct' : Distinct ms')
      (lookup : ∀ key, ms'.lookup key = (ms.lookup key).map normalize) :
      Normalizes (.members ms (.ok ())) (.members ms' (.ok ()))
  | items (xs : List Json) : Normalizes (.items xs (.ok ())) (.items (xs.map normalize) (.ok ()))

namespace Contents.Normalizes

variable {c c' : Contents Fault Json}

theorem plain (h : c.Normalizes c') : c.Plain := by
  cases h with
  | members distinct => exact .members distinct
  | items xs => exact .items xs

theorem plain_normal (h : c.Normalizes c') : c'.Plain := by
  cases h with
  | members _ distinct' => exact .members distinct'
  | items xs => exact .items _

theorem fits_iff (h : c.Normalizes c') (n : Nat) : c'.Fits n ↔ c.Fits n := by
  cases h with
  | members => exact .rfl
  | items xs => rw [Fits, Fits, List.length_map]

theorem part?_eq (h : c.Normalizes c') (i : Nat) (key : String) :
    c'.part? i key = (c.part? i key).map normalize := by
  cases h with
  | members _ _ lookup => exact lookup key
  | items xs => exact List.getElem?_map

/-- A part is read alike, if it is by the two readers. -/
theorem read?_eq (h : c.Normalizes c') {α : Type} {i : Nat} {key : String}
    {read read' : Json → Except Fault α}
    (hread : ∀ v, c.part? i key = some v → SameResult (read v) (read' v.normalize)) :
    c'.read? i key read' = c.read? i key read := by
  rw [read?, read?, h.part?_eq]
  cases hv : c.part? i key with
  | none => rfl
  | some v => exact (hread v hv).toOption_eq.symm

end Contents.Normalizes

/-! ### Values that are no records -/

/-- What takes neither arrays nor objects reads a value like its normal form. -/
theorem sameResult_normalize {α : Type} {read : Json → Except Fault α}
    (harray : ∀ items, ∃ e, read (.array items) = .error e)
    (hobject : ∀ members, ∃ e, read (.object members) = .error e) (v : Json) :
    SameResult (read v) (read v.normalize) := by
  cases v with
  | array items =>
      obtain ⟨e, he⟩ := harray items
      obtain ⟨e', he'⟩ := harray (normalizeItems items)
      rw [normalize, he, he']
      exact sameResult_error e e'
  | object members =>
      obtain ⟨e, he⟩ := hobject members
      obtain ⟨e', he'⟩ := hobject (sorted members)
      rw [normalize_object, he, he']
      exact sameResult_error e e'
  | _ => exact .refl _

theorem length_sorted {members : List (String × Json)} (h : Distinct members) :
    (sorted members).length = members.length := by
  rw [(sorted_perm h).length_eq, ← List.length_map Prod.fst, map_fst_normalizeMembers,
    List.length_map]

theorem isNullOrEmpty_normalize {v : Json} (hv : v.KeysDistinct) :
    isNullOrEmpty v.normalize = isNullOrEmpty v := by
  cases v with
  | object members =>
      have hlength := length_sorted hv.1
      rw [normalize_object]
      cases members with
      | nil => rfl
      | cons m rest =>
          cases hsorted : sorted (m :: rest) with
          | nil =>
              rw [hsorted] at hlength
              cases hlength
          | cons m' rest' => rfl
  | _ => rfl

theorem readVariant_object {τ : Type} {isNothing : Json → Bool} {names : List (String × τ)}
    {members : List (String × Json)} (h : members.length ≠ 1) :
    readVariant isNothing names (.object members) = .error .notOneKey := by
  match members with
  | [] => rfl
  | [_] => exact absurd rfl h
  | _ :: _ :: _ => rfl

/-- A name is read alike, also where it is the only key of an object. -/
theorem sameResult_readVariant {τ : Type} (names : List (String × τ)) {v : Json}
    (hv : v.KeysDistinct) :
    SameResult (readVariant isNullOrEmpty names v) (readVariant isNullOrEmpty names v.normalize) := by
  cases v with
  | object members =>
      by_cases hone : members.length = 1
      · obtain ⟨⟨key, w⟩, rfl⟩ := List.length_eq_one_iff.1 hone
        have hsorted : sorted [(key, w)] = [(key, w.normalize)] := rfl
        rw [normalize_object, hsorted]
        simp only [readVariant, isNullOrEmpty_normalize hv.2.1]
        cases readVariant.named names key with
        | error e => exact .refl _
        | ok t =>
            simp only [bind, Except.bind]
            split
            · exact .refl _
            · exact sameResult_error _ _
      · have hsorted : (sorted members).length ≠ 1 := by rwa [length_sorted hv.1]
        rw [normalize_object, readVariant_object hone, readVariant_object hsorted]
        exact .refl _
  | _ => exact .refl _

/-! ### Values in a text -/

/-- No object of the value at the front of a text has a key twice. -/
def KeysDistinctIn (s : String) : Prop :=
  ∀ v ∈ (Document.ofText s).1.toJson?, v.KeysDistinct

theorem parse?_eq_some_iff {s : String} {v : Json} :
    parse? s = some v ↔ (Document.ofText s).2 = true ∧
      ∃ w, (Document.ofText s).1.toJson? = some w ∧ w.normalize = v := by
  rw [parse?]
  obtain ⟨d, ended⟩ := Document.ofText s
  cases ended <;> simp

end Json

namespace Expr

open Json (Contents Distinct Document Fault KeysDistinct ReadError)

theorem sameResult_readKind (setting : Setting) (t : Json) :
    SameResult (readKind setting t) (readKind setting t.normalize) :=
  Json.sameResult_normalize (fun _ => ⟨_, rfl⟩) (fun _ => ⟨_, rfl⟩) t

/-! ### The parts of a node -/

section Parts

variable {readOperand readNode readOperand' readNode' : Json → Except Fault Expr}
  {c c' : Contents Fault Json}

theorem default?_eq (h : c.Normalizes c') : default? c' = default? c := by
  rw [default?, default?, h.part?_eq]
  cases c.part? 1 "default" with
  | none => rfl
  | some v =>
      exact (Json.sameResult_normalize (fun _ => ⟨_, rfl⟩) (fun _ => ⟨_, rfl⟩) v).toOption_eq.symm

theorem sameResult_reference {src : Json.Source Fault Json} (hskip : ∀ v, src.skip v = .ok ())
    (h : c.Normalizes c') :
    SameResult (referenceRecord.readContents src c) (referenceRecord.readContents src c') := by
  intro e
  rw [readContents_reference_iff hskip h.plain, readContents_reference_iff hskip h.plain_normal,
    h.fits_iff, default?_eq h, h.read?_eq fun v _ =>
      Json.sameResult_normalize (fun _ => ⟨_, rfl⟩) (fun _ => ⟨_, rfl⟩) v]

theorem sameResult_literal {src : Json.Source Fault Json} (hskip : ∀ v, src.skip v = .ok ())
    (h : c.Normalizes c') :
    SameResult (literalRecord.readContents src c) (literalRecord.readContents src c') := by
  intro e
  rw [readContents_literal_iff hskip h.plain, readContents_literal_iff hskip h.plain_normal,
    h.fits_iff, h.read?_eq fun v _ =>
      Json.sameResult_normalize (fun _ => ⟨_, rfl⟩) (fun _ => ⟨_, rfl⟩) v]

/-- A node with two children is read alike, if its children are. -/
theorem sameResult_branch {τ : Type} {name : String} {names : List (String × τ)}
    {readChild readChild' : Json → Except Fault Expr} {make : τ → Expr → Expr → Expr}
    (h : c.Normalizes c') (hdistinct : ∀ i key v, c.part? i key = some v → v.KeysDistinct)
    (hchild : ∀ i key v, c.part? i key = some v →
      SameResult (readChild v) (readChild' v.normalize)) :
    let readOperator := Json.readVariant Json.isNullOrEmpty names
    SameResult ((branchRecord name readOperator readChild make).readContents Json.buffered c)
      ((branchRecord name readOperator readChild' make).readContents Json.buffered c') := by
  intro readOperator e
  rw [readContents_branch_iff (fun _ => rfl) h.plain,
    readContents_branch_iff (fun _ => rfl) h.plain_normal, h.fits_iff,
    h.read?_eq fun v hv => Json.sameResult_readVariant names (hdistinct _ _ v hv),
    h.read?_eq (hchild _ _), h.read?_eq (hchild _ _)]

/-- **The parts of a node are read alike in normal form**, if its children are. -/
theorem sameResult_readParts (h : c.Normalizes c')
    (hdistinct : ∀ i key v, c.part? i key = some v → v.KeysDistinct)
    (hoperand : ∀ i key v, c.part? i key = some v →
      SameResult (readOperand v) (readOperand' v.normalize))
    (hnode : ∀ i key v, c.part? i key = some v → SameResult (readNode v) (readNode' v.normalize))
    (k : Kind) :
    SameResult (readParts readOperand readNode k c) (readParts readOperand' readNode' k c') := by
  cases k with
  | reference => exact sameResult_reference (fun _ => rfl) h
  | literal => exact sameResult_literal (fun _ => rfl) h
  | comparison => exact sameResult_branch h hdistinct hoperand
  | logical => exact sameResult_branch h hdistinct hnode

end Parts

/-! ### Nodes -/

/-- The kind and the parts of a node: the member under `type` and the others, or the first item and those
behind it. -/
def node? : Json → Option (Json × Contents Fault Json)
  | .object members =>
    (members.lookup "type").map fun t => (t, .members (untyped members) (.ok ()))
  | .array (t :: items) => some (t, .items items (.ok ()))
  | _ => none

/-- A node with its kind and parts is an object that tells the kind, or an array with the kind in front. -/
theorem node?_cases {v t : Json} {c : Contents Fault Json} (h : node? v = some (t, c)) :
    (∃ members, v = .object members ∧ members.lookup "type" = some t ∧
      c = .members (untyped members) (.ok ())) ∨
    ∃ items, v = .array (t :: items) ∧ c = .items items (.ok ()) := by
  cases v with
  | object members =>
      obtain ⟨t', ht, heq⟩ := Option.map_eq_some_iff.1 h
      obtain ⟨rfl, rfl⟩ := Prod.mk.inj heq
      exact .inl ⟨members, rfl, ht, rfl⟩
  | array items =>
      cases items with
      | nil => cases h
      | cons t' items =>
          obtain ⟨rfl, rfl⟩ := Prod.mk.inj (Option.some.inj h)
          exact .inr ⟨items, rfl, rfl⟩
  | _ => cases h

theorem lookup_untyped_eq (members : List (String × Json)) (key : String) :
    (untyped members).lookup key = if key = "type" then none else members.lookup key := by
  split
  · next h =>
      subst h
      refine Json.lookup_eq_none_of_notMem fun hmem => ?_
      obtain ⟨m, hm, hkey⟩ := List.mem_map.1 hmem
      exact of_decide_eq_true (List.mem_filter.1 hm).2 hkey
  · next h => exact lookup_untyped h members

section Kind

variable {setting : Setting} {members : List (String × Json)}

/-- What is no kind is refused. -/
theorem splitKind_refused {t : Json} {fault : Fault} (h : members.lookup "type" = some t)
    (ht : readKind setting t = .error fault) : splitKind setting none members = .error fault := by
  induction members with
  | nil => cases h
  | cons m rest ih =>
      obtain ⟨key, v⟩ := m
      rcases Json.lookup_cons_eq_some_iff.1 h with ⟨rfl, rfl⟩ | ⟨hkey, h⟩
      · simp only [splitKind, if_true, ht]
      · rw [splitKind, if_neg hkey, ih h]

end Kind

section Nodes

variable {fuel : Nat} {setting : Setting} {v : Json} {e : Expr}

/-- A node is read from its kind and its parts. -/
theorem readNode_eq_ok_iff (hv : v.KeysDistinct) {t : Json} {c : Contents Fault Json}
    (hnode : node? v = some (t, c)) :
    readNode (fuel + 1) setting v = .ok e ↔ ∃ k, readKind setting t = .ok k ∧
      readParts (readOperand fuel) (readNode fuel .buffered) k c = .ok e := by
  rcases node?_cases hnode with ⟨members, rfl, ht, rfl⟩ | ⟨items, rfl, rfl⟩
  · rw [readNode]
    cases hk : readKind setting t with
    | error fault => simp [splitKind_refused ht hk, bind, Except.bind]
    | ok k => simp [splitKind_eq hv.1 ht hk, bind, Except.bind]
  · rw [readNode]
    cases readKind setting t <;> simp [bind, Except.bind]

theorem readNode_ne_ok (hnode : node? v = none) : readNode (fuel + 1) setting v ≠ .ok e := by
  cases v with
  | object members =>
      rw [readNode, splitKind_untold none (Option.map_eq_none_iff.1 hnode)]
      exact error_ne_ok _ _
  | array items =>
      cases items with
      | nil =>
          rw [readNode]
          exact error_ne_ok _ _
      | cons t items => cases hnode
  | _ => simp [readNode]

/-- What the parts of a node are: no key twice in them, and nested less deep than the node. -/
theorem part?_node (hv : v.KeysDistinct) {t : Json} {c : Contents Fault Json}
    (hnode : node? v = some (t, c)) {i : Nat} {key : String} {w : Json}
    (hw : c.part? i key = some w) : w.KeysDistinct ∧ w.depth < v.depth := by
  rcases node?_cases hnode with ⟨members, rfl, ht, rfl⟩ | ⟨items, rfl, rfl⟩
  · rw [Contents.part?, lookup_untyped_eq] at hw
    have hw := (ite_eq_iff.1 hw).resolve_left fun h => Option.some_ne_none w h.2.symm
    have hdepth := Json.depth_le_depthMembers (Json.mem_of_lookup hw.2)
    refine ⟨Json.keysDistinct_of_lookup hv.2 hw.2, ?_⟩
    rw [Json.depth]
    omega
  · have hmem : w ∈ items := List.mem_of_getElem? hw
    have hdepth := Json.depth_le_depthItems hmem
    refine ⟨Json.itemsKeysDistinct_iff.1 hv.2 w hmem, ?_⟩
    rw [Json.depth, Json.depthItems]
    omega

/-- In normal form, a node has the same kind, and its parts are in normal form. -/
theorem node?_normalize (hv : v.KeysDistinct) {t : Json} {c : Contents Fault Json}
    (hnode : node? v = some (t, c)) :
    ∃ c', node? v.normalize = some (t.normalize, c') ∧ c.Normalizes c' := by
  rcases node?_cases hnode with ⟨members, rfl, ht, rfl⟩ | ⟨items, rfl, rfl⟩
  · have htype : (Json.sorted members).lookup "type" = some t.normalize := by
      rw [Json.lookup_sorted hv.1, ht, Option.map_some]
    refine ⟨.members (untyped (Json.sorted members)) (.ok ()), ?_, .members
      (distinct_untyped hv.1) (distinct_untyped (Json.distinct_sorted members)) fun key => ?_⟩
    · rw [Json.normalize_object, node?, htype, Option.map_some]
    · rw [lookup_untyped_eq, lookup_untyped_eq, Json.lookup_sorted hv.1]
      split <;> rfl
  · refine ⟨_, rfl, ?_⟩
    rw [Json.normalizeItems_eq_map]
    exact .items items

theorem node?_normalize_eq_none (hv : v.KeysDistinct) (hnode : node? v = none) :
    node? v.normalize = none := by
  cases v with
  | object members =>
      rw [Json.normalize_object, node?, Json.lookup_sorted hv.1, Option.map_eq_none_iff.1 hnode]
      rfl
  | array items =>
      cases items with
      | nil => rfl
      | cons t items => cases hnode
  | _ => rfl

/-! ### Reading in normal form -/

/-- An operand is read alike in normal form, if the node that it may be is. -/
theorem sameResult_readOperand (hv : v.KeysDistinct) {fuel' : Nat}
    (hnode : ∀ w : Json, w.KeysDistinct → w.depth = v.depth →
      SameResult (readNode fuel .alone w) (readNode fuel' .alone w.normalize)) :
    SameResult (readOperand (fuel + 1) v) (readOperand (fuel' + 1) v.normalize) := by
  have hw := Json.keysDistinct_normalize v hv
  have hdepth := Json.depth_normalize v hv
  rw [readOperand, readOperand]
  generalize v.normalize = w at hw hdepth
  have hnode := hnode w hw hdepth
  cases w with
  | object members =>
      have hnormal : (Contents.members members (.ok ())).Normalizes
          (.members (Json.sorted members) (.ok ())) :=
        .members hw.1 (Json.distinct_sorted members) fun key => Json.lookup_sorted hw.1 key
      rw [Json.normalize_object] at hnode ⊢
      simp only [Json.get?_object, Json.lookup_sorted hw.1, Option.isSome_map]
      exact .ite hnode (.ite (sameResult_reference (fun _ => rfl) hnormal)
        (.ite (sameResult_literal (fun _ => rfl) hnormal) (.refl _)))
  | _ => exact .refl _

/-- The parts of a node are read alike in normal form, with any fuel that suffices for them, if what is
nested less deep than the node is. -/
theorem sameResult_readParts_of_node (fuel fuel' : Nat) (hv : v.KeysDistinct) {t : Json}
    {c : Contents Fault Json} (hnode : node? v = some (t, c))
    (hfuel : ∀ i key w, c.part? i key = some w → 2 * w.depth + 1 < fuel ∧ 2 * w.depth + 1 < fuel')
    (hread : ∀ w : Json, w.KeysDistinct → w.depth < v.depth → ∀ setting fuel fuel',
      2 * w.depth < fuel → 2 * w.depth < fuel' →
        SameResult (readNode fuel setting w) (readNode fuel' setting w.normalize)) :
    ∃ c', node? v.normalize = some (t.normalize, c') ∧ ∀ k,
      SameResult (readParts (readOperand fuel) (readNode fuel .buffered) k c)
        (readParts (readOperand fuel') (readNode fuel' .buffered) k c') := by
  obtain ⟨c', hnode', hc⟩ := node?_normalize hv hnode
  refine ⟨c', hnode', fun k =>
    sameResult_readParts hc (fun i key w hw => (part?_node hv hnode hw).1) ?_ ?_ k⟩
  · -- an operand takes one step for itself and leaves the rest to a node as deep as it
    intro i key w hw
    obtain ⟨hdistinct, hlt⟩ := part?_node hv hnode hw
    obtain ⟨hw, hw'⟩ := hfuel i key w hw
    obtain ⟨fuel, rfl⟩ : ∃ n, fuel = n + 1 := ⟨fuel - 1, by omega⟩
    obtain ⟨fuel', rfl⟩ : ∃ n, fuel' = n + 1 := ⟨fuel' - 1, by omega⟩
    exact sameResult_readOperand hdistinct fun u hu hdepth =>
      hread u hu (by omega) .alone _ _ (by omega) (by omega)
  · intro i key w hw
    obtain ⟨hdistinct, hlt⟩ := part?_node hv hnode hw
    obtain ⟨hw, hw'⟩ := hfuel i key w hw
    exact hread w hdistinct hlt .buffered _ _ (by omega) (by omega)

/-- **Nodes are read alike in normal form**, with any fuel that suffices for their nesting. -/
theorem sameResult_read (v : Json) (hv : v.KeysDistinct) (setting : Setting) (fuel fuel' : Nat)
    (hfuel : 2 * v.depth < fuel) (hfuel' : 2 * v.depth < fuel') :
    SameResult (readNode fuel setting v) (readNode fuel' setting v.normalize) := by
  induction hdepth : v.depth using Nat.strong_induction_on generalizing v setting fuel fuel' with
  | _ n ih =>
    obtain ⟨fuel, rfl⟩ : ∃ k, fuel = k + 1 := ⟨fuel - 1, by omega⟩
    obtain ⟨fuel', rfl⟩ : ∃ k, fuel' = k + 1 := ⟨fuel' - 1, by omega⟩
    intro e
    cases hnode : node? v with
    | none =>
        exact iff_of_false (readNode_ne_ok hnode) (readNode_ne_ok (node?_normalize_eq_none hv hnode))
    | some node =>
        obtain ⟨t, c⟩ := node
        obtain ⟨c', hnode', hparts⟩ := sameResult_readParts_of_node fuel fuel' hv hnode
          (fun i key w hw => by
            have hlt := (part?_node hv hnode hw).2
            omega)
          (fun w hw hlt setting fuel fuel' h h' =>
            ih w.depth (hdepth ▸ hlt) w hw setting fuel fuel' h h' rfl)
        rw [readNode_eq_ok_iff hv hnode,
          readNode_eq_ok_iff (Json.keysDistinct_normalize v hv) hnode']
        exact exists_congr fun k => and_congr (sameResult_readKind setting t k) (hparts k e)

end Nodes

/-! ### Nodes in a text -/

section InText

variable {e : Expr}

theorem exists_readKind_eq_error {t : Json} (h : ∀ s, t ≠ .string s) :
    ∃ fault, readKind .alone t = .error fault := by
  cases t with
  | string s => exact absurd rfl (h s)
  | number n =>
      cases n with
      | integer n =>
          have hbuffered : ¬(Setting.alone = .buffered ∧ 0 ≤ n) := by simp
          exact ⟨.wrongType _ Json.variantExpectation, by rw [readKind, if_neg hbuffered]⟩
      | double x => exact ⟨_, rfl⟩
  | _ => exact ⟨_, rfl⟩

/-- A kind is read off a text as from its value, which must be a text itself. -/
theorem sameResult_readKindInText {d : Document} {t : Json} (h : d.toJson? = some t) :
    SameResult (readKindInText d) (readKind .alone t) := by
  cases d with
  | string s =>
      rw [← Option.some.inj h, readKindInText]
      cases readKind .alone (.string s) with
      | ok k => exact fun _ => by simp
      | error fault => exact sameResult_error _ _
  | _ =>
      have hstring : ∀ s, t ≠ .string s := by
        rintro s rfl
        simp [Document.toJson?] at h
      obtain ⟨fault, hfault⟩ := exists_readKind_eq_error hstring
      rw [hfault]
      exact sameResult_error _ _

theorem exists_toJson?_of_readKindInText {d : Document} {k : Kind} (h : readKindInText d = .ok k) :
    ∃ t, d.toJson? = some t := by
  cases d with
  | string s => exact ⟨.string s, rfl⟩
  | _ => cases h

section Members

variable {members : List (Option String × Document)}

/-- A member that cannot be read is not passed over. -/
theorem splitKindInText_unreadable (h : Document.membersToJson? members = none) (kind : Option Kind)
    (r : Option Kind × List (String × Json)) : splitKindInText kind members ≠ .ok r := by
  induction members generalizing kind r with
  | nil => cases h
  | cons m rest ih =>
      obtain ⟨_ | key, d⟩ := m
      · exact error_ne_ok _ _
      rw [Document.membersToJson?] at h
      unfold splitKindInText
      split
      · cases kind with
        | some k => exact error_ne_ok _ _
        | none =>
            cases hk : readKindInText d with
            | error e => exact error_ne_ok _ _
            | ok k =>
                obtain ⟨t, ht⟩ := exists_toJson?_of_readKindInText hk
                rw [ht] at h
                exact ih (Option.map_eq_none_iff.1 h) _ _
      · cases hd : d.toJson? with
        | none => exact error_ne_ok _ _
        | some v =>
            rw [hd] at h
            cases hrest : splitKindInText kind rest with
            | error e => simp
            | ok r' => exact absurd hrest (ih (Option.map_eq_none_iff.1 h) _ _)

variable {ms : List (String × Json)}

/-- The kind is found wherever it is told. -/
theorem splitKindInText_told (h : Document.membersToJson? members = some ms) (hms : Distinct ms)
    {t : Json} (ht : ms.lookup "type" = some t) :
    SameResult (splitKindInText none members)
      ((readKind .alone t).map fun k => (some k, untyped ms)) := by
  induction members generalizing ms with
  | nil =>
      obtain rfl : [] = ms := Option.some.inj h
      cases ht
  | cons m rest ih =>
      obtain ⟨_, d⟩ := m
      obtain ⟨key, v, ms', rfl, hd, hrest, rfl⟩ := Document.membersToJson?_cons_eq_some_iff.1 h
      rcases Json.lookup_cons_eq_some_iff.1 ht with ⟨rfl, rfl⟩ | ⟨hkey, ht⟩
      · have hkind := sameResult_readKindInText hd
        have hothers := hms.lookup_head
        rw [untyped_cons_self, untyped_eq_self hothers, splitKindInText, if_pos rfl]
        cases hk : readKind .alone v with
        | ok k =>
            simp only [(hkind k).2 hk, splitKindInText_untold hrest hothers]
            exact sameResult_ok _
        | error fault =>
            cases hk' : readKindInText d with
            | ok k => cases hk.symm.trans ((hkind k).1 hk')
            | error e => exact sameResult_error _ _
      · have hsame := ih hrest hms.tail ht
        rw [untyped_cons_of_ne hkey, splitKindInText, if_neg hkey, hd]
        cases hk : readKind .alone t with
        | ok k =>
            rw [hk] at hsame
            simp only [(hsame _).2 rfl]
            exact sameResult_ok _
        | error fault =>
            rw [hk] at hsame
            cases hrest' : splitKindInText none rest with
            | ok r => exact absurd ((hsame r).1 hrest') (error_ne_ok _ _)
            | error e => exact sameResult_error _ _

end Members

/-- The value that contents stand for. -/
def valueOf : Contents Fault Json → Json
  | .members ms _ => .object ms
  | .items xs _ => .array xs

theorem readPartsInText_eq_ok_iff {k : Kind} {c : Contents Fault Json} {fuel : Nat} :
    readPartsInText k c fuel = .ok e ↔
      readParts (readOperand fuel) (readNode fuel .buffered) k c = .ok e := by
  rw [readPartsInText]
  cases readParts (readOperand fuel) (readNode fuel .buffered) k c <;> simp

/-- What has a value was read to its end. -/
theorem toJson?_object_eq_some_iff {members : List (Option String × Document)} {closed : Bool}
    {v : Json} :
    (Document.object members closed).toJson? = some v ↔
      closed = true ∧ ∃ ms, Document.membersToJson? members = some ms ∧ .object ms = v := by
  cases closed <;> simp [Document.toJson?]

theorem toJson?_array_eq_some_iff {items : List Document} {closed : Bool} {v : Json} :
    (Document.array items closed).toJson? = some v ↔
      closed = true ∧ ∃ xs, Document.itemsToJson? items = some xs ∧ .array xs = v := by
  cases closed <;> simp [Document.toJson?]

theorem itemsToJson?_cons_eq_some_iff {d : Document} {rest : List Document} {xs : List Json} :
    Document.itemsToJson? (d :: rest) = some xs ↔
      ∃ v xs', d.toJson? = some v ∧ Document.itemsToJson? rest = some xs' ∧ v :: xs' = xs := by
  rw [Document.itemsToJson?]
  cases d.toJson? <;> simp

/-- A node is read off a text from its kind and its parts. -/
theorem ofDocument?_eq_ok_iff {d : Document} {v : Json} (hd : d.toJson? = some v)
    (hv : v.KeysDistinct) {t : Json} {c : Contents Fault Json} (hnode : node? v = some (t, c)) :
    ofDocument? d = .ok e ↔ ∃ k, readKind .alone t = .ok k ∧
      readParts (readOperand (fuelFor (valueOf c))) (readNode (fuelFor (valueOf c)) .buffered) k c =
        .ok e := by
  cases d with
  | object members closed =>
      obtain ⟨rfl, ms, hms, rfl⟩ := toJson?_object_eq_some_iff.1 hd
      obtain ⟨t', ht, heq⟩ := Option.map_eq_some_iff.1 hnode
      obtain ⟨rfl, rfl⟩ := Prod.mk.inj heq
      have hsame := splitKindInText_told hms hv.1 ht
      rw [ofDocument?]
      cases hk : readKind .alone t' with
      | ok k =>
          rw [hk] at hsame
          rw [(hsame _).2 rfl]
          simp [bind, Except.bind, Json.ending, readPartsInText_eq_ok_iff, valueOf]
      | error fault =>
          rw [hk] at hsame
          cases hsplit : splitKindInText none members with
          | ok r => exact absurd ((hsame r).1 hsplit) (error_ne_ok _ _)
          | error e => simp [bind, Except.bind]
  | array items closed =>
      obtain ⟨rfl, xs, hxs, rfl⟩ := toJson?_array_eq_some_iff.1 hd
      cases items with
      | nil =>
          obtain rfl : [] = xs := Option.some.inj hxs
          cases hnode
      | cons d items =>
          obtain ⟨t', xs', ht, hrest, rfl⟩ := itemsToJson?_cons_eq_some_iff.1 hxs
          obtain ⟨rfl, rfl⟩ := Prod.mk.inj (Option.some.inj hnode)
          have hsame := sameResult_readKindInText ht
          rw [ofDocument?]
          cases hk : readKind .alone t' with
          | ok k =>
              rw [(hsame k).2 hk]
              simp [bind, Except.bind, hrest, Json.ending, readPartsInText_eq_ok_iff, valueOf]
          | error fault =>
              cases hkind : readKindInText d with
              | ok k => cases hk.symm.trans ((hsame k).1 hkind)
              | error e => simp [bind, Except.bind]
  | broken => cases hd
  | unreadable => cases hd
  | strayKey key => cases hd
  | _ =>
      cases hd
      cases hnode

theorem ofDocument?_ne_ok {d : Document} {v : Json} (hd : d.toJson? = some v)
    (hnode : node? v = none) : ofDocument? d ≠ .ok e := by
  cases d with
  | object members closed =>
      obtain ⟨rfl, ms, hms, rfl⟩ := toJson?_object_eq_some_iff.1 hd
      rw [ofDocument?, splitKindInText_untold hms (Option.map_eq_none_iff.1 hnode)]
      exact error_ne_ok _ _
  | array items closed =>
      obtain ⟨rfl, xs, hxs, rfl⟩ := toJson?_array_eq_some_iff.1 hd
      cases items with
      | nil => exact error_ne_ok _ _
      | cons d items =>
          obtain ⟨t, xs', -, -, rfl⟩ := itemsToJson?_cons_eq_some_iff.1 hxs
          cases hnode
  | _ => exact error_ne_ok _ _

/-- What cannot be read as a value is not read as an expression either. -/
theorem ofDocument?_unreadable {d : Document} (hd : d.toJson? = none) : ofDocument? d ≠ .ok e := by
  cases d with
  | object members closed =>
      rw [ofDocument?]
      cases hsplit : splitKindInText none members with
      | error e => exact error_ne_ok _ _
      | ok r =>
          cases closed with
          | false => exact error_ne_ok _ _
          | true =>
              have hmembers : Document.membersToJson? members = none := by
                simpa [Document.toJson?] using hd
              exact absurd hsplit (splitKindInText_unreadable hmembers none r)
  | array items closed =>
      cases closed with
      | false =>
          cases items with
          | nil => exact error_ne_ok _ _
          | cons d items =>
              rw [ofDocument?]
              cases readKindInText d with
              | error e => exact error_ne_ok _ _
              | ok k => cases hrest : Document.itemsToJson? items <;> exact error_ne_ok _ _
      | true =>
          have hitems : Document.itemsToJson? items = none := by
            simpa [Document.toJson?] using hd
          cases items with
          | nil => cases hitems
          | cons d items =>
              rw [ofDocument?]
              cases hk : readKindInText d with
              | error e => exact error_ne_ok _ _
              | ok k =>
                  obtain ⟨t, ht⟩ := exists_toJson?_of_readKindInText hk
                  rw [Document.itemsToJson?, ht] at hitems
                  rw [Option.map_eq_none_iff.1 hitems]
                  exact error_ne_ok _ _
  | _ => exact error_ne_ok _ _

/-- A part is nested less deep than the contents it is a part of. -/
theorem part?_depth_lt {c : Contents Fault Json} {i : Nat} {key : String} {w : Json}
    (hw : c.part? i key = some w) : w.depth < (valueOf c).depth := by
  cases c with
  | members ms =>
      have hdepth := Json.depth_le_depthMembers (Json.mem_of_lookup hw)
      rw [valueOf, Json.depth]
      omega
  | items xs =>
      have hdepth := Json.depth_le_depthItems (List.mem_of_getElem? hw)
      rw [valueOf, Json.depth]
      omega

/-- **A node is read off a text as from its value** in normal form. -/
theorem sameResult_ofDocument? {d : Document} {v : Json} (hd : d.toJson? = some v)
    (hv : v.KeysDistinct) : SameResult (ofDocument? d) (ofJson? v.normalize) := by
  intro e
  rw [ofJson?]
  cases hnode : node? v with
  | none =>
      exact iff_of_false (ofDocument?_ne_ok hd hnode)
        (readNode_ne_ok (node?_normalize_eq_none hv hnode))
  | some node =>
      obtain ⟨t, c⟩ := node
      obtain ⟨c', hnode', hparts⟩ := sameResult_readParts_of_node
        (fuelFor (valueOf c)) (2 * v.normalize.depth + 1) hv hnode
        (fun i key w hw => by
          have hlt := part?_depth_lt hw
          have hlt' := (part?_node hv hnode hw).2
          rw [Json.depth_normalize v hv, fuelFor]
          omega)
        (fun w hw _ setting fuel fuel' => sameResult_read w hw setting fuel fuel')
      have hfuel : fuelFor v.normalize = 2 * v.normalize.depth + 1 + 1 := rfl
      rw [ofDocument?_eq_ok_iff hd hv hnode, hfuel,
        readNode_eq_ok_iff (Json.keysDistinct_normalize v hv) hnode']
      exact exists_congr fun k => and_congr (sameResult_readKind .alone t k) (hparts k e)

end InText

/-! ### Texts -/

/-- The expression that a text spells, with nothing behind it. -/
def ofText? (s : String) : Except ReadError Expr := do
  let (d, ended) := Document.ofText s
  let e ← ofDocument? d
  Json.ending ended
  return e

theorem ofText?_eq_ok_iff {s : String} {e : Expr} :
    ofText? s = .ok e ↔
      (Document.ofText s).2 = true ∧ ofDocument? (Document.ofText s).1 = .ok e := by
  rw [ofText?]
  obtain ⟨d, ended⟩ := Document.ofText s
  cases hd : ofDocument? d <;> cases ended <;>
    simp [hd, Json.ending, bind, Except.bind, pure, Except.pure]

/-- **The two readers agree.**  If no object of a text has a key twice, an expression is read off the
text if and only if the text is a value from which an expression is read, and it is the same one. -/
theorem text_and_value_are_read_alike (s : String) (hs : Json.KeysDistinctIn s) (e : Expr) :
    ofText? s = .ok e ↔ ∃ v, Json.parse? s = some v ∧ ofJson? v = .ok e := by
  simp only [ofText?_eq_ok_iff, Json.parse?_eq_some_iff]
  constructor
  · rintro ⟨hended, he⟩
    cases hd : (Document.ofText s).1.toJson? with
    | none => exact absurd he (ofDocument?_unreadable hd)
    | some v =>
        exact ⟨v.normalize, ⟨hended, v, rfl, rfl⟩, (sameResult_ofDocument? hd (hs v hd) e).1 he⟩
  · rintro ⟨-, ⟨hended, v, hd, rfl⟩, he⟩
    exact ⟨hended, (sameResult_ofDocument? hd (hs v hd) e).2 he⟩

/-- The characters of a text that is put together, where those of its parts are known. -/
theorem append_eq_ofList {s s' : String} {cs cs' : List Char} (h : s = .ofList cs)
    (h' : s' = .ofList cs') : s ++ s' = .ofList (cs ++ cs') := by
  rw [h, h', String.ofList_append]

/-- A text with the kind behind the parts, a node that is an array, an operator under its other name and
one that is a key, operands that do not tell their kind, unknown keys and an integer beyond 64 bits. -/
def looseText : String :=
  "\x7b\"operator\": \"&&\", \"note\": [1], \"right\": [\"BinaryExpression\", \x7b\">=\": null\x7d, " ++
    "\x7b\"name\": \"age\", \"x\": 0\x7d, \x7b\"value\": 18446744073709551616\x7d], " ++
      "\"left\": [\"Identifier\", \"ops\"], \"type\": \"LogicalExpression\"\x7d"

theorem loose_text_and_value_are_read_alike :
    Json.KeysDistinctIn looseText ∧ ∃ v, Json.parse? looseText = some v ∧
      ofJson? v = .ok (.logical .and (.reference "ops" none)
        (.comparison .ge (.reference "age" none) (.literal (.number 18446744073709551616)))) := by
  -- to compute the characters would take seconds, but a literal is a row of characters as it stands
  have hchars : looseText = .ofList _ := append_eq_ofList (append_eq_ofList rfl rfl) rfl
  have hs : Json.KeysDistinctIn looseText := by
    rw [Json.KeysDistinctIn, Document.ofText, hchars, String.toList_ofList]
    decide +kernel
  refine ⟨hs, (text_and_value_are_read_alike looseText hs _).1 ?_⟩
  rw [ofText?, Document.ofText, hchars, String.toList_ofList]
  decide +kernel

end Expr

end Rulebook
