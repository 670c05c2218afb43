/-
**The check reports the first misplaced node.**

The check of an expression comes to every node that has a part to play: to the root and whatever is
joined below it, which must be formulas, and to the two operands of every condition among them.  It
comes to a node before its children and goes from left to right.  Here these seats are listed in that
order, each with the way that leads to it and the part that it is for; the check is then a walk along
the list that stops at the first node that cannot play its part.

Main definitions:

* `Rulebook.Role` — the part that a node plays, with what it admits and how a message calls the rest;
* `Rulebook.Expr.nodeAt?` — the node at the end of a way, which may lead into a condition;
* `Rulebook.Expr.HasSeat` — which nodes are checked, and for which part;
* `Rulebook.Expr.seats` — the same as a list;
* `Rulebook.PreOrder` — a node before its children, and from left to right.

Main results:

* `Rulebook.Expr.mem_seats`, `Rulebook.Expr.seats_pairwise` — the list is complete and in order;
* `Rulebook.Expr.agree_seats` — the check is the walk along the list;
* `Rulebook.Expr.check_joinAll` — joined expressions pass exactly if each of them does;
* `Rulebook.Expr.check_reports_first_misplaced` — **what the check accepts and what it reports**.
-/

import Rulebook.Proofs.JudgedNodes

set_option autoImplicit false

namespace Rulebook

/-! ### Parts -/

/-- The part that a node plays in an expression. -/
inductive Role where
  /-- The root, or one side of a connective. -/
  | formula
  /-- The left side of a relation. -/
  | leftOperand
  /-- The right side of a relation. -/
  | rightOperand

namespace Role

/-- Which nodes can play the part. -/
def admits : Role → Expr → Bool
  | formula, e => e.isFormula
  | leftOperand, .reference name _ => name ≠ ""
  | leftOperand, .literal _ => true
  | rightOperand, .literal _ => true
  | _, _ => false

/-- How a message calls a node that cannot play the part. -/
def calls : Role → Expr → String
  | leftOperand, .reference "" _ => Expr.namelessAttribute
  | _, e => e.kind

theorem admits_leftOperand_iff {e : Expr} : leftOperand.admits e = true ↔ e.IsOperand := by
  constructor
  · intro h
    cases e with
    | reference name default => exact .reference default (of_decide_eq_true h)
    | literal value => exact .literal value
    | comparison r left right => cases h
    | logical c left right => cases h
  · intro h
    cases h with
    | literal value => rfl
    | reference default hname => exact decide_eq_true hname

theorem admits_rightOperand_iff {e : Expr} :
    rightOperand.admits e = true ↔ ∃ v, e = .literal v := by
  cases e <;> simp [admits]

end Role

/-- A node of an expression with the way that leads to it and the part that it is for. -/
structure Seat where
  way : List Side
  role : Role
  node : Expr

namespace Seat

/-- The seat, seen from one step above. -/
def below (s : Side) (x : Seat) : Seat := ⟨s :: x.way, x.role, x.node⟩

@[simp] theorem way_below (s : Side) (x : Seat) : (x.below s).way = s :: x.way := rfl

/-- The node can play the part that it is for. -/
def Fits (x : Seat) : Prop := x.role.admits x.node = true

instance (x : Seat) : Decidable x.Fits := inferInstanceAs (Decidable (_ = true))

/-- What is said of a node that cannot. -/
def complaintFrom (base : Path) (x : Seat) : EvaluationError :=
  .unsupportedOperand (base.along x.way) (x.role.calls x.node)

/-- The check of one seat. -/
def examineFrom (base : Path) (x : Seat) : Except EvaluationError Unit :=
  if x.Fits then .ok () else .error (x.complaintFrom base)

theorem examineFrom_below (base : Path) (s : Side) (x : Seat) :
    (x.below s).examineFrom base = x.examineFrom (base.child s) := by
  rw [examineFrom, examineFrom, complaintFrom, complaintFrom, way_below, Path.along_cons]
  rfl

theorem examineFrom_eq_error_iff {base : Path} {x : Seat} {error : EvaluationError} :
    x.examineFrom base = .error error ↔ ¬x.Fits ∧ error = x.complaintFrom base := by
  rw [examineFrom]
  split
  · simp [*]
  · simp [*, eq_comm]

theorem fits_of_examineFrom {base : Path} {x : Seat} {u : Unit}
    (h : x.examineFrom base = .ok u) : x.Fits := by
  rw [examineFrom] at h
  split at h
  · assumption
  · cases h

end Seat

namespace Expr

/-- The node that a way leads to.  A way may lead into a condition, to one of its operands. -/
def nodeAt? : List Side → Expr → Option Expr
  | [], e => some e
  | .left :: way, comparison _ left _ => left.nodeAt? way
  | .right :: way, comparison _ _ right => right.nodeAt? way
  | .left :: way, logical _ left _ => left.nodeAt? way
  | .right :: way, logical _ _ right => right.nodeAt? way
  | _ :: _, _ => none

/-- **The nodes that are checked**, and for which part: whatever is joined must be a formula, and so must
the root; the operands of a condition that is joined must be operands. -/
inductive HasSeat (e : Expr) : List Side → Role → Expr → Prop
  | formula {way : List Side} {node : Expr} (h : e.reach? way = some node) :
      HasSeat e way .formula node
  | left {way : List Side} {r : Relation} {left right : Expr}
      (h : e.reach? way = some (.comparison r left right)) :
      HasSeat e (way ++ [.left]) .leftOperand left
  | right {way : List Side} {r : Relation} {left right : Expr}
      (h : e.reach? way = some (.comparison r left right)) :
      HasSeat e (way ++ [.right]) .rightOperand right

/-- The seats of an expression, in the order in which they are checked. -/
def seats : Expr → List Seat
  | comparison r left right =>
    [⟨[], .formula, comparison r left right⟩, ⟨[.left], .leftOperand, left⟩,
      ⟨[.right], .rightOperand, right⟩]
  | logical c left right =>
    ⟨[], .formula, logical c left right⟩ ::
      (left.seats.map (Seat.below .left) ++ right.seats.map (Seat.below .right))
  | e => [⟨[], .formula, e⟩]

end Expr

/-! ### The list is complete -/

namespace Expr

/-- The way to a judged node leads there in general. -/
theorem nodeAt?_of_reach? {way rest : List Side} {e node : Expr} (h : e.reach? way = some node) :
    e.nodeAt? (way ++ rest) = node.nodeAt? rest := by
  induction way generalizing e with
  | nil =>
      cases h
      rfl
  | cons s way ih =>
      cases e with
      | logical c left right => cases s <;> exact ih h
      | reference name default => cases s <;> cases h
      | literal value => cases s <;> cases h
      | comparison r left right => cases s <;> cases h

/-- A seat is at the end of its way. -/
theorem HasSeat.nodeAt?_eq {e node : Expr} {way : List Side} {role : Role}
    (h : e.HasSeat way role node) : e.nodeAt? way = some node := by
  cases h with
  | formula h =>
      have hnode : e.nodeAt? (way ++ []) = some node := nodeAt?_of_reach? h
      rwa [List.append_nil] at hnode
  | left h => exact nodeAt?_of_reach? h
  | right h => exact nodeAt?_of_reach? h

/-- A seat on one side of a joined expression is one of the whole. -/
theorem HasSeat.below {c : Connective} {left right node : Expr} {s : Side} {way : List Side}
    {role : Role} (h : (if s = .left then left else right).HasSeat way role node) :
    (logical c left right).HasSeat (s :: way) role node := by
  have hstep (way : List Side) : (logical c left right).reach? (s :: way) =
      (if s = .left then left else right).reach? way := by cases s <;> rfl
  cases h with
  | formula h => exact .formula ((hstep _).trans h)
  | left h => exact .left ((hstep _).trans h)
  | right h => exact .right ((hstep _).trans h)

/-- The seats of a joined expression are its own and those of the two sides. -/
theorem hasSeat_logical_iff {c : Connective} {left right node : Expr} {way : List Side}
    {role : Role} :
    (logical c left right).HasSeat way role node ↔
      (way = [] ∧ role = .formula ∧ node = logical c left right) ∨
      (∃ rest, way = .left :: rest ∧ left.HasSeat rest role node) ∨
      ∃ rest, way = .right :: rest ∧ right.HasSeat rest role node := by
  constructor
  · intro h
    cases h with
    | @formula way node h =>
        match way, h with
        | [], h => cases h; exact .inl ⟨rfl, rfl, rfl⟩
        | .left :: way, h => exact .inr (.inl ⟨way, rfl, .formula h⟩)
        | .right :: way, h => exact .inr (.inr ⟨way, rfl, .formula h⟩)
    | @left way r _ other h =>
        match way, h with
        | [], h => cases h
        | .left :: way, h => exact .inr (.inl ⟨way ++ [.left], rfl, .left (e := left) h⟩)
        | .right :: way, h => exact .inr (.inr ⟨way ++ [.left], rfl, .left (e := right) h⟩)
    | @right way r other _ h =>
        match way, h with
        | [], h => cases h
        | .left :: way, h => exact .inr (.inl ⟨way ++ [.right], rfl, .right (e := left) h⟩)
        | .right :: way, h => exact .inr (.inr ⟨way ++ [.right], rfl, .right (e := right) h⟩)
  · rintro (⟨rfl, rfl, rfl⟩ | ⟨rest, rfl, h⟩ | ⟨rest, rfl, h⟩)
    · exact .formula rfl
    · exact .below (s := .left) h
    · exact .below (s := .right) h

/-- The seats of an expression that joins nothing. -/
theorem hasSeat_iff_of_not_logical {e node : Expr} (he : e.isLogical = false) {way : List Side}
    {role : Role} :
    e.HasSeat way role node ↔ (way = [] ∧ role = .formula ∧ node = e) ∨
      ∃ r left right, e = comparison r left right ∧
        ((way = [.left] ∧ role = .leftOperand ∧ node = left) ∨
          (way = [.right] ∧ role = .rightOperand ∧ node = right)) := by
  constructor
  · intro h
    cases h with
    | formula h =>
        obtain ⟨rfl, rfl⟩ := (reach?_of_not_logical he).1 h
        exact .inl ⟨rfl, rfl, rfl⟩
    | left h =>
        obtain ⟨rfl, rfl⟩ := (reach?_of_not_logical he).1 h
        exact .inr ⟨_, _, _, rfl, .inl ⟨rfl, rfl, rfl⟩⟩
    | right h =>
        obtain ⟨rfl, rfl⟩ := (reach?_of_not_logical he).1 h
        exact .inr ⟨_, _, _, rfl, .inr ⟨rfl, rfl, rfl⟩⟩
  · rintro (⟨rfl, rfl, rfl⟩ | ⟨r, left, right, rfl, ⟨rfl, rfl, rfl⟩ | ⟨rfl, rfl, rfl⟩⟩)
    · exact .formula rfl
    · exact List.nil_append [Side.left] ▸ .left rfl
    · exact List.nil_append [Side.right] ▸ .right rfl

theorem mk_mem_map_below {s : Side} {way : List Side} {role : Role} {node : Expr} {xs : List Seat} :
    ⟨way, role, node⟩ ∈ xs.map (Seat.below s) ↔
      ∃ rest, way = s :: rest ∧ ⟨rest, role, node⟩ ∈ xs := by
  constructor
  · intro h
    obtain ⟨x, hx, heq⟩ := List.mem_map.1 h
    cases heq
    exact ⟨x.way, rfl, hx⟩
  · rintro ⟨rest, rfl, h⟩
    exact List.mem_map_of_mem h

/-- The seats are the nodes that are checked. -/
theorem mem_seats {e : Expr} {x : Seat} : x ∈ e.seats ↔ e.HasSeat x.way x.role x.node := by
  obtain ⟨way, role, node⟩ := x
  induction e using joined_induction generalizing way with
  | single e he =>
      rw [hasSeat_iff_of_not_logical he]
      cases e with
      | logical c left right => cases he
      | reference name default => simp [seats]
      | literal value => simp [seats]
      | comparison r left right => simp [seats]
  | joined c left right ihl ihr =>
      rw [hasSeat_logical_iff, seats, List.mem_cons, List.mem_append, mk_mem_map_below,
        mk_mem_map_below, Seat.mk.injEq]
      simp only [ihl, ihr]

end Expr

/-! ### The list is in order -/

/-- One way comes before another: it leads to a node above, or parts from the other to the left. -/
inductive PreOrder : List Side → List Side → Prop
  | above (s : Side) (way : List Side) : PreOrder [] (s :: way)
  | across (a b : List Side) : PreOrder (.left :: a) (.right :: b)
  | along (s : Side) {a b : List Side} (h : PreOrder a b) : PreOrder (s :: a) (s :: b)

theorem PreOrder.asymm {a b : List Side} (h : PreOrder a b) : ¬PreOrder b a := by
  induction h with
  | above s way => exact fun h => by cases h
  | across a b => exact fun h => by cases h
  | along s _ ih =>
      intro h
      cases h with
      | along _ h => exact ih h

namespace Expr

/-- The seats are listed each before those below it, and from left to right. -/
theorem seats_pairwise (e : Expr) : e.seats.Pairwise fun x y => PreOrder x.way y.way := by
  induction e using joined_induction with
  | single e he =>
      cases e with
      | logical c left right => cases he
      | reference name default => exact List.pairwise_singleton _ _
      | literal value => exact List.pairwise_singleton _ _
      | comparison r left right =>
          simp only [seats, List.pairwise_cons, List.forall_mem_cons, List.not_mem_nil,
            false_implies, implies_true, List.Pairwise.nil, and_true]
          exact ⟨⟨.above _ _, .above _ _⟩, .across _ _⟩
  | joined c left right ihl ihr =>
      have hbelow (s : Side) {xs : List Seat} (h : xs.Pairwise fun x y => PreOrder x.way y.way) :
          (xs.map (Seat.below s)).Pairwise fun x y => PreOrder x.way y.way :=
        List.pairwise_map.2 (h.imp fun h => .along s h)
      refine List.pairwise_cons.2 ⟨fun x hx => ?_, List.pairwise_append.2
        ⟨hbelow .left ihl, hbelow .right ihr, fun x hx y hy => ?_⟩⟩
      · rcases List.mem_append.1 hx with hx | hx
        · obtain ⟨x, _, rfl⟩ := List.mem_map.1 hx
          exact .above _ _
        · obtain ⟨x, _, rfl⟩ := List.mem_map.1 hx
          exact .above _ _
      · obtain ⟨x, _, rfl⟩ := List.mem_map.1 hx
        obtain ⟨y, _, rfl⟩ := List.mem_map.1 hy
        exact .across _ _

/-! ### The check is a walk along the list -/

theorem checkLeftOperand_eq_examineFrom (path : Path) (e : Expr) :
    checkLeftOperand (path.child .left) e = Seat.examineFrom path ⟨[.left], .leftOperand, e⟩ := by
  cases e with
  | reference name default =>
      by_cases hname : name = ""
      · subst hname
        rfl
      · simp [checkLeftOperand, Seat.examineFrom, Seat.Fits, Role.admits, hname]
  | literal value => rfl
  | comparison r left right => rfl
  | logical c left right => rfl

theorem checkRightOperand_eq_examineFrom (path : Path) (e : Expr) :
    checkRightOperand (path.child .right) e =
      Seat.examineFrom path ⟨[.right], .rightOperand, e⟩ := by
  cases e <;> rfl

theorem examineFrom_formula (path : Path) (e : Expr) :
    Seat.examineFrom path ⟨[], .formula, e⟩ =
      if e.isFormula then .ok () else .error (misplaced path e) := by
  simp [Seat.examineFrom, Seat.complaintFrom, Seat.Fits, Role.admits, Role.calls, misplaced]

/-- What is no formula is reported at once. -/
theorem agree_seats_of_not_formula {path : Path} {e : Expr}
    (hcheck : e.checkAt path = .error (misplaced path e)) (hseats : e.seats = [⟨[], .formula, e⟩])
    (h : e.isFormula = false) :
    Agree (fun _ _ => True) (e.checkAt path) (e.seats.mapM (Seat.examineFrom path)) := by
  rw [hcheck, hseats, mapM_cons_eq, examineFrom_formula, h]
  exact .error _

/-- The check comes to one seat after another. -/
theorem agree_seats (path : Path) (e : Expr) :
    Agree (fun _ _ => True) (e.checkAt path) (e.seats.mapM (Seat.examineFrom path)) := by
  induction e generalizing path with
  | reference name default => exact agree_seats_of_not_formula rfl rfl rfl
  | literal value => exact agree_seats_of_not_formula rfl rfl rfl
  | comparison r left right _ _ =>
      rw [seats, mapM_cons_eq, examineFrom_formula, mapM_cons_eq, mapM_cons_eq, checkAt,
        checkLeftOperand_eq_examineFrom, checkRightOperand_eq_examineFrom]
      cases Seat.examineFrom path ⟨[.left], .leftOperand, left⟩ with
      | error error => exact .error error
      | ok _ =>
          cases Seat.examineFrom path ⟨[.right], .rightOperand, right⟩ with
          | error error => exact .error error
          | ok _ => exact .ok trivial
  | logical c left right ihl ihr =>
      have hbelow (s : Side) : Seat.examineFrom path ∘ Seat.below s =
          Seat.examineFrom (path.child s) :=
        funext fun x => x.examineFrom_below path s
      rw [seats, mapM_cons_eq, examineFrom_formula, List.mapM_append, List.mapM_map, List.mapM_map,
        hbelow, hbelow, checkAt]
      -- one side after the other, on both sides of the agreement
      have hl := ihl (path.child .left)
      have hr := ihr (path.child .right)
      generalize left.checkAt (path.child .left) = x at hl ⊢
      generalize left.seats.mapM (Seat.examineFrom (path.child .left)) = xs at hl ⊢
      generalize right.checkAt (path.child .right) = y at hr ⊢
      generalize right.seats.mapM (Seat.examineFrom (path.child .right)) = ys at hr ⊢
      cases hl with
      | error error => exact .error error
      | ok _ =>
          cases hr with
          | error error => exact .error error
          | ok _ => exact .ok trivial

/-- An expression passes exactly if every node can play the part that it is for. -/
theorem check_eq_ok_iff_seats {e : Expr} : e.check = .ok () ↔ ∀ x ∈ e.seats, x.Fits := by
  have hagree := agree_seats .root e
  rw [check]
  constructor
  · intro h
    rw [h] at hagree
    generalize hrow : e.seats.mapM (Seat.examineFrom .root) = row at hagree
    cases hagree with
    | ok _ =>
        intro x hx
        obtain ⟨u, hu⟩ := exists_of_mapM hrow hx
        exact Seat.fits_of_examineFrom hu
  · intro h
    cases hcheck : e.checkAt .root with
    | ok u => rfl
    | error error =>
        obtain ⟨before, x, after, hseats, -, hx⟩ :=
          mapM_eq_error_iff.1 (hagree.eq_error_iff.1 hcheck)
        have hmem : x ∈ e.seats := hseats ▸ List.mem_append_right before List.mem_cons_self
        exact absurd (h x hmem) (Seat.examineFrom_eq_error_iff.1 hx).1

/-- The error tells the first node that cannot play its part. -/
theorem exists_first_of_check_eq_error {e : Expr} {error : EvaluationError}
    (h : e.check = .error error) :
    ∃ x ∈ e.seats, ¬x.Fits ∧ error = x.complaintFrom .root ∧
      ∀ y ∈ e.seats, PreOrder y.way x.way → y.Fits := by
  obtain ⟨before, x, after, hseats, hbefore, hx⟩ :=
    mapM_eq_error_iff.1 ((agree_seats .root e).eq_error_iff.1 h)
  obtain ⟨hfits, rfl⟩ := Seat.examineFrom_eq_error_iff.1 hx
  refine ⟨x, hseats ▸ List.mem_append_right before List.mem_cons_self, hfits, rfl, fun y hy hyx => ?_⟩
  have horder := e.seats_pairwise
  rw [hseats] at hy horder
  rcases List.mem_append.1 hy with hy | hy
  · obtain ⟨u, hu⟩ := hbefore y hy
    exact Seat.fits_of_examineFrom hu
  · -- what is listed from there on does not come before
    rcases List.mem_cons.1 hy with rfl | hy
    · exact absurd hyx hyx.asymm
    · have hxy := (List.pairwise_cons.1 (List.pairwise_append.1 horder).2.1).1 y hy
      exact absurd hyx hxy.asymm

/-! ### Joined expressions -/

/-- Joined expressions pass exactly if each of them does. -/
theorem check_joinAll {c : Connective} {trees : List Expr} {whole : Expr}
    (h : joinAll c trees = some whole) :
    whole.check = .ok () ↔ ∀ e ∈ trees, e.check = .ok () := by
  simp only [check_eq_ok_iff]
  refine joinAll_induction (motive := fun es w => w.WellFormed ↔ ∀ e ∈ es, e.WellFormed) ?_ ?_ h
  · intro e
    simp
  · intro es w e _ ih
    rw [wellFormed_logical_iff, ih, List.forall_mem_append, List.forall_mem_singleton]

/-! ### What is accepted and what is reported -/

/-- All nodes can play their parts exactly if whatever is joined is a formula, and every condition that is
joined relates an operand to a literal. -/
theorem forall_seats_iff {e : Expr} :
    (∀ x ∈ e.seats, x.Fits) ↔
      ∀ way node, e.reach? way = some node → node.isFormula = true ∧
        ∀ r left right, node = .comparison r left right →
          left.IsOperand ∧ ∃ v, right = .literal v := by
  constructor
  · intro h way node hnode
    refine ⟨h ⟨way, .formula, node⟩ (mem_seats.2 (.formula hnode)), ?_⟩
    rintro r left right rfl
    have hleft := h ⟨_, .leftOperand, left⟩ (mem_seats.2 (.left hnode))
    have hright := h ⟨_, .rightOperand, right⟩ (mem_seats.2 (.right hnode))
    exact ⟨Role.admits_leftOperand_iff.1 hleft, Role.admits_rightOperand_iff.1 hright⟩
  · rintro h ⟨way, role, node⟩ hx
    cases mem_seats.1 hx with
    | formula hnode => exact (h _ _ hnode).1
    | left hnode => exact Role.admits_leftOperand_iff.2 ((h _ _ hnode).2 _ _ _ rfl).1
    | right hnode => exact Role.admits_rightOperand_iff.2 ((h _ _ hnode).2 _ _ _ rfl).2

/-- **What the check accepts and what it reports.**  An expression passes exactly if the root and
whatever is joined below it are formulas, and every condition among them relates a literal, or an
attribute with a name, to a literal.  Otherwise the error tells the way to a node that cannot play its
part, and calls it by its kind, or by its lack of a name; every node that is checked before that one, in
order from above and from the left, can play its part.  Expressions that are joined pass exactly if each
of them does. -/
theorem check_reports_first_misplaced (e : Expr) :
    (e.check = .ok () ↔ ∀ way node, e.reach? way = some node → node.isFormula = true ∧
      ∀ r left right, node = .comparison r left right →
        left.IsOperand ∧ ∃ v, right = .literal v) ∧
    (∀ x, x ∈ e.seats ↔ e.HasSeat x.way x.role x.node) ∧
    (∀ error, e.check = .error error → ∃ x ∈ e.seats, ¬x.Fits ∧
      e.nodeAt? x.way = some x.node ∧
      error = .unsupportedOperand (Path.root.along x.way) (x.role.calls x.node) ∧
      (Path.root.along x.way).render = "root" ++ wayText x.way ∧
      ∀ y ∈ e.seats, PreOrder y.way x.way → y.Fits) ∧
    ∀ c trees, trees ≠ [] → ∃ whole, joinAll c trees = some whole ∧
      (whole.check = .ok () ↔ ∀ tree ∈ trees, tree.check = .ok ()) := by
  refine ⟨check_eq_ok_iff_seats.trans forall_seats_iff, fun x => mem_seats, fun error herror => ?_,
    fun c trees htrees => ?_⟩
  · obtain ⟨x, hx, hfits, rfl, hbefore⟩ := exists_first_of_check_eq_error herror
    exact ⟨x, hx, hfits, (mem_seats.1 hx).nodeAt?_eq, rfl, Path.render_along .root x.way, hbefore⟩
  · obtain ⟨first, rest, rfl⟩ := List.exists_cons_of_ne_nil htrees
    exact ⟨_, rfl, check_joinAll rfl⟩

/-- Of an attribute without a name inside a condition and a literal joined to it, the check reports the
attribute. -/
theorem check_reports_nameless_attribute :
    let e : Expr := .logical .and (.comparison .eq (.reference "" none) (.literal (.string "ops")))
      (.literal (.string "lead"))
    e.check = .error (.unsupportedOperand ⟨"root", [.left, .left]⟩ "空属性名") ∧
      (∀ y ∈ e.seats, PreOrder y.way [.left, .left] → y.Fits) ∧
      ¬Seat.Fits ⟨[.right], .formula, .literal (.string "lead")⟩ := by
  intro e
  have hcheck : e.check = .error (.unsupportedOperand ⟨"root", [.left, .left]⟩ "空属性名") := rfl
  obtain ⟨x, -, -, -, herror, -, hbefore⟩ := (check_reports_first_misplaced e).2.2.1 _ hcheck
  have hway : [.left, .left] = x.way :=
    congrArg Path.steps (EvaluationError.unsupportedOperand.inj herror).1
  exact ⟨hcheck, hway ▸ hbefore, by decide⟩

end Expr

end Rulebook
