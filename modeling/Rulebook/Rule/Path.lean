/-
**Places in an expression.**

Messages and traces say where in an expression something is: they name the way from the root,
`root.left.right`.

Main definitions:

* `Rulebook.Path` — a starting place and the steps taken from it;
* `Rulebook.Path.render` — the path as messages write it.
-/

set_option autoImplicit false

namespace Rulebook

/-- A step from a node to one of its two children. -/
inductive Side where
  | left
  | right
  deriving DecidableEq, Repr

/-- The name of a step. -/
def Side.name : Side → String
  | left => "left"
  | right => "right"

/-- A place in an expression: the name of where the way starts and the steps taken from there, in
order. -/
structure Path where
  /-- The name of the starting place. -/
  start : String
  /-- The steps from there. -/
  steps : List Side
  deriving DecidableEq, Repr

namespace Path

/-- The root of an expression. -/
def root : Path := ⟨"root", []⟩

/-- One step further. -/
def child (p : Path) (s : Side) : Path := { p with steps := p.steps ++ [s] }

/-- The path as it is written: names separated by dots. -/
def render (p : Path) : String := p.steps.foldl (fun text s => text ++ "." ++ s.name) p.start

@[simp] theorem steps_child (p : Path) (s : Side) : (p.child s).steps = p.steps ++ [s] := rfl

@[simp] theorem start_child (p : Path) (s : Side) : (p.child s).start = p.start := rfl

@[simp] theorem render_root : root.render = "root" := rfl

@[simp] theorem render_child (p : Path) (s : Side) :
    (p.child s).render = p.render ++ "." ++ s.name := by
  simp [render]

end Path

end Rulebook
