/-
**The nodes that an evaluation judges.**

An evaluation goes down through the nodes that join two expressions and judges every node that it
comes to: the joined ones, the conditions, and whatever else stands where a condition should.  What
lies inside a condition is no node of its own.  Here the judged nodes are listed in the order in which
they are judged, each with the way that leads to it.

Main definitions:

* `Rulebook.Judged` — a node with the way that leads to it;
* `Rulebook.Expr.reach?` — the node at the end of a way;
* `Rulebook.Expr.judged`, `Rulebook.Expr.tests` — the judged nodes, and those of them that join nothing;
* `Rulebook.LeftOf`, `Rulebook.PostOrder` — from left to right, and children before their parent.

Main results:

* `Rulebook.Expr.mem_judged`, `Rulebook.Expr.mem_tests` — the lists are complete;
* `Rulebook.Expr.judged_pairwise`, `Rulebook.Expr.tests_pairwise` — they are in order;
* `Rulebook.Expr.nodup_places` — no two places are written alike.
-/

import Rulebook.Proofs.Combination

set_option autoImplicit false

namespace Rulebook

/-- A node of an expression, with the way that leads to it. -/
@[ext] structure Judged where
  way : List Side
  node : Expr
  deriving DecidableEq

namespace Judged

/-- The node, seen from one step above. -/
def below (s : Side) (x : Judged) : Judged := ⟨s :: x.way, x.node⟩

@[simp] theorem way_below (s : Side) (x : Judged) : (x.below s).way = s :: x.way := rfl

@[simp] theorem node_below (s : Side) (x : Judged) : (x.below s).node = x.node := rfl

/-- Where the node stands, as it is written. -/
def place (x : Judged) : String := (Path.root.along x.way).render

theorem place_eq (x : Judged) : x.place = "root" ++ wayText x.way := Path.render_along .root x.way

end Judged

namespace Expr

/-- Whether a node is a condition. -/
def isCondition : Expr → Bool
  | comparison _ _ _ => true
  | _ => false

/-- The node that a way leads to.  A way goes down through joined expressions only. -/
def reach? : List Side → Expr → Option Expr
  | [], e => some e
  | .left :: way, logical _ left _ => left.reach? way
  | .right :: way, logical _ _ right => right.reach? way
  | _ :: _, _ => none

/-- The nodes that an evaluation judges, in its order: what is joined comes before what joins it. -/
def judged : Expr → List Judged
  | logical c left right =>
    left.judged.map (Judged.below .left) ++ right.judged.map (Judged.below .right) ++
      [⟨[], logical c left right⟩]
  | e => [⟨[], e⟩]

/-- The judged nodes that join nothing: conditions, and nodes that are no formula. -/
def tests (e : Expr) : List Judged := e.judged.filter fun x => !x.node.isLogical

/-- Induction over the nodes that are joined. -/
@[elab_as_elim]
theorem joined_induction {motive : Expr → Prop}
    (single : ∀ e, e.isLogical = false → motive e)
    (joined : ∀ c left right, motive left → motive right → motive (.logical c left right))
    (e : Expr) : motive e := by
  induction e with
  | reference name default => exact single _ rfl
  | literal value => exact single _ rfl
  | comparison r left right _ _ => exact single _ rfl
  | logical c left right ihl ihr => exact joined c left right ihl ihr

theorem judged_of_not_logical {e : Expr} (h : e.isLogical = false) : e.judged = [⟨[], e⟩] := by
  cases e with
  | logical c left right => cases h
  | reference name default => rfl
  | literal value => rfl
  | comparison r left right => rfl

theorem tests_of_not_logical {e : Expr} (h : e.isLogical = false) : e.tests = [⟨[], e⟩] := by
  rw [tests, judged_of_not_logical h]
  exact List.filter_cons_of_pos (by rw [h]; rfl)

theorem tests_logical (c : Connective) (left right : Expr) :
    (logical c left right).tests =
      left.tests.map (Judged.below .left) ++ right.tests.map (Judged.below .right) := by
  rw [tests, judged, List.filter_append, List.filter_append, List.filter_map, List.filter_map]
  exact List.append_nil _

/-- The last node to be judged is the expression itself. -/
theorem getLast?_judged (e : Expr) : e.judged.getLast? = some ⟨[], e⟩ := by
  cases e with
  | logical c left right => exact List.getLast?_concat
  | reference name default => rfl
  | literal value => rfl
  | comparison r left right => rfl

/-- The conditions among the judged nodes are those that are counted. -/
theorem countP_isCondition_judged (e : Expr) :
    e.judged.countP (fun x => x.node.isCondition) = e.comparisonCount := by
  induction e with
  | logical c left right ihl ihr =>
      rw [judged, List.countP_append, List.countP_append, List.countP_map, List.countP_map,
        comparisonCount, ← ihl, ← ihr]
      rfl
  | reference name default => rfl
  | literal value => rfl
  | comparison r left right _ _ => rfl

/-! ### The lists are complete -/

theorem reach?_of_not_logical {e node : Expr} (h : e.isLogical = false) {way : List Side} :
    e.reach? way = some node ↔ way = [] ∧ node = e := by
  cases e with
  | logical c left right => cases h
  | reference name default => cases way <;> simp [reach?, eq_comm]
  | literal value => cases way <;> simp [reach?, eq_comm]
  | comparison r left right => cases way <;> simp [reach?, eq_comm]

theorem nil_notMem_map_below {s : Side} {xs : List Judged} {node : Expr} :
    ⟨[], node⟩ ∉ xs.map (Judged.below s) := by
  simp [Judged.below]

theorem cons_mem_map_below {s t : Side} {xs : List Judged} {way : List Side} {node : Expr} :
    ⟨s :: way, node⟩ ∈ xs.map (Judged.below t) ↔ t = s ∧ ⟨way, node⟩ ∈ xs := by
  constructor
  · intro h
    obtain ⟨x, hx, heq⟩ := List.mem_map.1 h
    cases heq
    exact ⟨rfl, hx⟩
  · rintro ⟨rfl, hx⟩
    exact List.mem_map_of_mem hx

/-- The judged nodes are those that a way leads to. -/
theorem mem_judged {e : Expr} {x : Judged} : x ∈ e.judged ↔ e.reach? x.way = some x.node := by
  obtain ⟨way, node⟩ := x
  induction e using joined_induction generalizing way with
  | single e h =>
      rw [judged_of_not_logical h, List.mem_singleton, reach?_of_not_logical h, Judged.mk.injEq]
  | joined c left right ihl ihr =>
      rw [judged, List.mem_append, List.mem_append, List.mem_singleton]
      match way with
      | [] => simp [reach?, nil_notMem_map_below, eq_comm]
      | .left :: way => simp [reach?, cons_mem_map_below, ihl]
      | .right :: way => simp [reach?, cons_mem_map_below, ihr]

/-- The tests are the nodes that a way leads to and that join nothing. -/
theorem mem_tests {e : Expr} {x : Judged} :
    x ∈ e.tests ↔ e.reach? x.way = some x.node ∧ x.node.isLogical = false := by
  rw [tests, List.mem_filter, mem_judged, Bool.not_eq_true']

end Expr

/-! ### The lists are in order -/

/-- One way parts from the other to the left. -/
inductive LeftOf : List Side → List Side → Prop
  | across (a b : List Side) : LeftOf (.left :: a) (.right :: b)
  | along (s : Side) {a b : List Side} (h : LeftOf a b) : LeftOf (s :: a) (s :: b)

/-- One way leads to the left of the other or further down. -/
def PostOrder (a b : List Side) : Prop := LeftOf a b ∨ ∃ s rest, a = b ++ s :: rest

theorem LeftOf.ne {a b : List Side} (h : LeftOf a b) : a ≠ b := by
  induction h with
  | across a b => exact fun heq => by cases heq
  | along s _ ih => exact fun heq => ih (List.cons.inj heq).2

theorem PostOrder.ne {a b : List Side} (h : PostOrder a b) : a ≠ b := by
  rcases h with h | ⟨s, rest, rfl⟩
  · exact h.ne
  · exact fun heq => by simp at heq

theorem PostOrder.along (s : Side) {a b : List Side} (h : PostOrder a b) :
    PostOrder (s :: a) (s :: b) := by
  rcases h with h | ⟨t, rest, rfl⟩
  · exact .inl (.along s h)
  · exact .inr ⟨t, rest, rfl⟩

namespace Expr

/-- Two rows of nodes one below the left and one below the right step, each in order. -/
theorem pairwise_below {r : List Side → List Side → Prop}
    (hacross : ∀ a b, LeftOf a b → r a b) (halong : ∀ s a b, r a b → r (s :: a) (s :: b))
    {xs ys : List Judged} (hxs : xs.Pairwise fun x y => r x.way y.way)
    (hys : ys.Pairwise fun x y => r x.way y.way) :
    (xs.map (Judged.below .left) ++ ys.map (Judged.below .right)).Pairwise
      fun x y => r x.way y.way := by
  refine List.pairwise_append.2 ⟨?_, ?_, ?_⟩
  · exact List.pairwise_map.2 (hxs.imp fun h => halong .left _ _ h)
  · exact List.pairwise_map.2 (hys.imp fun h => halong .right _ _ h)
  · intro x hx y hy
    obtain ⟨x, _, rfl⟩ := List.mem_map.1 hx
    obtain ⟨y, _, rfl⟩ := List.mem_map.1 hy
    exact hacross _ _ (.across x.way y.way)

/-- Nodes are judged from left to right, and children before their parent. -/
theorem judged_pairwise (e : Expr) : e.judged.Pairwise fun x y => PostOrder x.way y.way := by
  induction e using joined_induction with
  | single e h => rw [judged_of_not_logical h]; exact List.pairwise_singleton _ _
  | joined c left right ihl ihr =>
      have hbelow := pairwise_below (fun _ _ => .inl) (fun s _ _ => PostOrder.along s) ihl ihr
      refine List.pairwise_append.2 ⟨hbelow, List.pairwise_singleton _ _, fun x hx y hy => ?_⟩
      obtain rfl := List.mem_singleton.1 hy
      rcases List.mem_append.1 hx with hx | hx
      · obtain ⟨x, _, rfl⟩ := List.mem_map.1 hx
        exact .inr ⟨.left, x.way, rfl⟩
      · obtain ⟨x, _, rfl⟩ := List.mem_map.1 hx
        exact .inr ⟨.right, x.way, rfl⟩

/-- Tests are listed from left to right. -/
theorem tests_pairwise (e : Expr) : e.tests.Pairwise fun x y => LeftOf x.way y.way := by
  induction e using joined_induction with
  | single e h => rw [tests_of_not_logical h]; exact List.pairwise_singleton _ _
  | joined c left right ihl ihr =>
      rw [tests_logical]
      exact pairwise_below (fun _ _ h => h) (fun s _ _ => LeftOf.along s) ihl ihr

end Expr

/-! ### Places -/

theorem toList_wayText_cons (s : Side) (way : List Side) :
    (wayText (s :: way)).toList = '.' :: (s.name.toList ++ (wayText way).toList) := by
  simp only [wayText, String.toList_append, List.append_assoc]
  rfl

/-- Two ways that are written alike are the same. -/
theorem wayText_injective : Function.Injective wayText := by
  intro a b h
  induction a generalizing b with
  | nil =>
      cases b with
      | nil => rfl
      | cons t b =>
          have hlist := congrArg String.toList h
          rw [toList_wayText_cons] at hlist
          cases hlist
  | cons s a ih =>
      cases b with
      | nil =>
          have hlist := congrArg String.toList h
          rw [toList_wayText_cons] at hlist
          cases hlist
      | cons t b =>
          have hlist := congrArg String.toList h
          rw [toList_wayText_cons, toList_wayText_cons] at hlist
          have htail := (List.cons.inj hlist).2
          -- the names of the two steps differ in their first letter
          obtain rfl : s = t := by cases s <;> cases t <;> first | rfl | cases htail
          rw [ih (String.toList_injective (List.append_cancel_left htail))]

theorem colon_notMem_wayText (way : List Side) : ':' ∉ (wayText way).toList := by
  induction way with
  | nil => simp [wayText]
  | cons s way ih =>
      have hname : ':' ∉ s.name.toList := by cases s <;> decide
      rw [toList_wayText_cons]
      simp [hname, ih]

/-- A place is written without a colon. -/
theorem Judged.colon_notMem_place (x : Judged) : ':' ∉ x.place.toList := by
  rw [place_eq, String.toList_append, List.mem_append, not_or]
  exact ⟨by decide, colon_notMem_wayText x.way⟩

/-- No two judged nodes stand at places that are written alike. -/
theorem Expr.nodup_places (e : Expr) : (e.judged.map Judged.place).Nodup := by
  refine List.pairwise_map.2 (e.judged_pairwise.imp fun {x y} h heq => h.ne ?_)
  rw [Judged.place_eq, Judged.place_eq] at heq
  exact wayText_injective ((String.append_right_inj _).1 heq)

end Rulebook
