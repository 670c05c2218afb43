/-
**Computations that may fail.**

A computation that may fail has a result or an error.  One that is made of others has a result exactly if
each of them has, and otherwise fails as the first of them that fails.  Two computations are compared in
two ways: they agree if they fail alike or have related results, and they have the same result if one
has a result exactly when the other has the same.

Main definitions:

* `Rulebook.Agree` — computations that fail alike or have related results;
* `Rulebook.SameResult` — two computations that have the same result, or both have none.

Main results:

* `Rulebook.bind_eq_ok_iff`, `Rulebook.bind_eq_error_iff` — one computation after another;
* `Rulebook.mapM_eq_ok_iff`, `Rulebook.mapM_eq_error_iff` — **a row of computations**: each has a result,
  or it fails as the first that fails;
* `Rulebook.Agree.bind` — what agrees step by step agrees.
-/

import Mathlib.Data.List.Forall2

set_option autoImplicit false

namespace Rulebook

/-! ### One computation after another -/

section Steps

variable {ε α β : Type} {x : Except ε α}

theorem toOption_eq_some_iff {a : α} : x.toOption = some a ↔ x = .ok a := by
  cases x <;> simp [Except.toOption]

theorem exists_ok_of_isSome (h : x.toOption.isSome) : ∃ a, x = .ok a := by
  obtain ⟨a, ha⟩ := Option.isSome_iff_exists.1 h
  exact ⟨a, toOption_eq_some_iff.1 ha⟩

/-- An error can be compared even where a result cannot. -/
theorem eq_error_of_match {e : ε}
    (h : (match x with | .error e => some e | .ok _ => none) = some e) : x = .error e := by
  cases x with
  | error e' => exact congrArg Except.error (Option.some_inj.1 h)
  | ok a => cases h

/-- What is done after a step that succeeds. -/
theorem bind_eq_ok_iff {f : α → Except ε β} {b : β} :
    x >>= f = .ok b ↔ ∃ a, x = .ok a ∧ f a = .ok b := by
  cases x <;> simp [bind, Except.bind]

/-- What fails is the step or what is done after it. -/
theorem bind_eq_error_iff {f : α → Except ε β} {error : ε} :
    x >>= f = .error error ↔ x = .error error ∨ ∃ a, x = .ok a ∧ f a = .error error := by
  cases x <;> simp [bind, Except.bind]

theorem bind_pure_eq_ok_iff {f : α → β} {b : β} :
    (x >>= fun a => pure (f a)) = .ok b ↔ ∃ a, x = .ok a ∧ f a = b := by
  simp only [bind_eq_ok_iff, pure, Except.pure, Except.ok.injEq]

theorem map_eq_ok_iff {f : α → β} {b : β} : f <$> x = .ok b ↔ ∃ a, x = .ok a ∧ f a = b := by
  cases x <;> simp [Functor.map, Except.map]

theorem map_eq_error_iff {f : α → β} {error : ε} : x.map f = .error error ↔ x = .error error := by
  cases x <;> simp [Except.map]

end Steps

/-! ### Rows of computations -/

section Rows

variable {α β ε : Type} {f : α → Except ε β}

theorem mapM_cons_eq (x : α) (xs : List α) :
    (x :: xs).mapM f = (f x).bind fun y => (xs.mapM f).map (y :: ·) := by
  rw [List.mapM_cons]
  cases f x with
  | error e => rfl
  | ok y => cases xs.mapM f <;> rfl

theorem mapM_append_singleton (xs : List α) (x : α) :
    (xs ++ [x]).mapM f = (xs.mapM f).bind fun ys => (f x).map fun y => ys ++ [y] := by
  rw [List.mapM_append, mapM_cons_eq, List.mapM_nil]
  cases xs.mapM f with
  | error e => rfl
  | ok ys => cases f x <;> rfl

/-- A row succeeds exactly when each of its computations does. -/
theorem mapM_eq_ok_iff {xs : List α} {ys : List β} :
    xs.mapM f = .ok ys ↔ List.Forall₂ (fun x y => f x = .ok y) xs ys := by
  induction xs generalizing ys with
  | nil =>
      rw [List.mapM_nil, List.forall₂_nil_left_iff]
      exact ⟨fun h => (Except.ok.inj h).symm, fun h => h ▸ rfl⟩
  | cons x xs ih =>
      rw [mapM_cons_eq, List.forall₂_cons_left_iff]
      constructor
      · intro h
        obtain ⟨y, hy, h⟩ := bind_eq_ok_iff.1 h
        obtain ⟨zs, hzs, rfl⟩ := map_eq_ok_iff.1 h
        exact ⟨y, zs, hy, ih.1 hzs, rfl⟩
      · rintro ⟨y, zs, hy, hzs, rfl⟩
        rw [hy, ih.2 hzs]
        rfl

/-- Each result of a row is that of one of its computations. -/
theorem exists_of_mem_mapM {xs : List α} {ys : List β} (h : xs.mapM f = .ok ys) {y : β}
    (hy : y ∈ ys) : ∃ x ∈ xs, f x = .ok y := by
  have hrow := mapM_eq_ok_iff.1 h
  clear h
  induction hrow with
  | nil => cases hy
  | @cons x z xs zs hx _ ih =>
      rcases List.mem_cons.1 hy with rfl | hy
      · exact ⟨x, List.mem_cons_self, hx⟩
      · obtain ⟨x', hmem, hx'⟩ := ih hy
        exact ⟨x', List.mem_cons_of_mem x hmem, hx'⟩

/-- Each computation of a row that succeeds has a result. -/
theorem exists_of_mapM {xs : List α} {ys : List β} (h : xs.mapM f = .ok ys) {x : α}
    (hx : x ∈ xs) : ∃ y, f x = .ok y := by
  have hrow := mapM_eq_ok_iff.1 h
  clear h
  induction hrow with
  | nil => cases hx
  | cons hy _ ih =>
      cases hx with
      | head => exact ⟨_, hy⟩
      | tail _ hx => exact ih hx

/-- A row fails exactly as the first of its computations that fails. -/
theorem mapM_eq_error_iff {xs : List α} {error : ε} :
    xs.mapM f = .error error ↔
      ∃ before x after, xs = before ++ x :: after ∧ (∀ b ∈ before, ∃ y, f b = .ok y) ∧
        f x = .error error := by
  induction xs with
  | nil => simp [pure, Except.pure]
  | cons x xs ih =>
      rw [mapM_cons_eq]
      constructor
      · intro h
        rcases bind_eq_error_iff.1 h with hx | ⟨y, hy, h⟩
        · exact ⟨[], x, xs, rfl, by simp, hx⟩
        · obtain ⟨before, z, after, rfl, hbefore, hz⟩ := ih.1 (map_eq_error_iff.1 h)
          exact ⟨x :: before, z, after, rfl, List.forall_mem_cons.2 ⟨⟨y, hy⟩, hbefore⟩, hz⟩
      · rintro ⟨before, z, after, hxs, hbefore, hz⟩
        cases before with
        | nil =>
            obtain ⟨rfl, rfl⟩ := List.cons.inj hxs
            rw [hz]
            rfl
        | cons b before =>
            obtain ⟨rfl, rfl⟩ := List.cons.inj hxs
            obtain ⟨⟨y, hy⟩, hbefore⟩ := List.forall_mem_cons.1 hbefore
            rw [hy, ih.2 ⟨before, z, after, rfl, hbefore, hz⟩]
            rfl

/-- A row with one more computation at its end succeeds only if both parts do. -/
theorem exists_of_mapM_append_singleton {xs : List α} {x : α} {zs : List β}
    (h : (xs ++ [x]).mapM f = .ok zs) :
    ∃ ys y, xs.mapM f = .ok ys ∧ f x = .ok y ∧ zs = ys ++ [y] := by
  rw [mapM_append_singleton] at h
  obtain ⟨ys, hys, h⟩ := bind_eq_ok_iff.1 h
  obtain ⟨y, hy, rfl⟩ := map_eq_ok_iff.1 h
  exact ⟨ys, y, hys, hy, rfl⟩

end Rows

/-! ### Computations that agree -/

/-- Two computations that fail alike or have related results. -/
inductive Agree {ε α β : Type} (R : α → β → Prop) : Except ε α → Except ε β → Prop
  | error (e : ε) : Agree R (.error e) (.error e)
  | ok {a : α} {b : β} (h : R a b) : Agree R (.ok a) (.ok b)

section Agree

variable {ε α β γ δ : Type} {R : α → β → Prop} {S : γ → δ → Prop} {x : Except ε α} {y : Except ε β}

theorem Agree.refl (x : Except ε α) : Agree Eq x x := by
  cases x with
  | error e => exact .error e
  | ok a => exact .ok rfl

theorem Agree.bind {f : α → Except ε γ} {g : β → Except ε δ} (hx : Agree R x y)
    (hf : ∀ a b, R a b → Agree S (f a) (g b)) : Agree S (x >>= f) (y >>= g) := by
  cases hx with
  | error e => exact .error e
  | ok h => exact hf _ _ h

theorem Agree.map {f : α → γ} {g : β → δ} (hx : Agree R x y) (hf : ∀ a b, R a b → S (f a) (g b)) :
    Agree S (x.map f) (y.map g) := by
  cases hx with
  | error e => exact .error e
  | ok h => exact .ok (hf _ _ h)

theorem Agree.eq_error_iff (h : Agree R x y) {e : ε} : x = .error e ↔ y = .error e := by
  cases h <;> simp

end Agree

/-! ### Computations with the same result -/

/-- Two computations have the same result, or both have none. -/
def SameResult {ε ε' α : Type} (x : Except ε α) (y : Except ε' α) : Prop :=
  ∀ a, x = .ok a ↔ y = .ok a

section SameResult

variable {ε ε' α : Type}

theorem SameResult.refl (x : Except ε α) : SameResult x x := fun _ => .rfl

theorem error_ne_ok (e : ε) (a : α) : (.error e : Except ε α) ≠ .ok a := nofun

theorem sameResult_ok (a : α) : SameResult (.ok a : Except ε α) (.ok a : Except ε' α) :=
  fun b => by simp

theorem sameResult_error (e : ε) (e' : ε') :
    SameResult (.error e : Except ε α) (.error e' : Except ε' α) :=
  fun _ => iff_of_false (error_ne_ok _ _) (error_ne_ok _ _)

theorem SameResult.ite {p : Prop} [Decidable p] {x y : Except ε α} {x' y' : Except ε' α}
    (hx : SameResult x x') (hy : SameResult y y') :
    SameResult (if p then x else y) (if p then x' else y') := by
  split
  · exact hx
  · exact hy

theorem SameResult.toOption_eq {x : Except ε α} {y : Except ε' α} (h : SameResult x y) :
    x.toOption = y.toOption :=
  Option.ext fun a => by rw [toOption_eq_some_iff, toOption_eq_some_iff, h a]

end SameResult

end Rulebook
