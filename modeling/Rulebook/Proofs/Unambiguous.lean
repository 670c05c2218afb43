/-
**No two expressions are written alike.**

The text of an expression has brackets on the right of a connective only, and the texts of its literals
may hold brackets, connectives and quotes of their own.  It can be told all the same which expression it
is the text of.  Two steps lead back: the text is put together from marks, which are conditions,
connectives and brackets, and no two rows of marks make up the same text; and a row of marks is read by
keeping, for each bracket that is open, what has been joined on its level.

Numbers are known by their texts only.  Where two of them are written alike, so are the expressions that
hold them.

Main definitions:

* `Rulebook.Mark`, `Rulebook.Expr.marks` — what the text of an expression is put together from;
* `Rulebook.Level`, `Rulebook.readMark` — reading marks, level by level;
* `Rulebook.Start`, `Rulebook.startOf` — what a piece of text is, by its first character;
* `Rulebook.IsPiece` — the texts of operands;
* `Rulebook.Mark.Alike` — marks with the same text.

Main results:

* `Rulebook.Expr.marks_injective` — an expression is known by its marks;
* `Rulebook.forall₂_alike_of_flatMap_write` — marks are known by their text;
* `Rulebook.Expr.render_unambiguous` — **an expression is known by its text**.
-/

import Rulebook.Proofs.JudgedNodes
import Rulebook.Proofs.Rendering

set_option autoImplicit false

namespace Rulebook

/-! ### Marks -/

/-- What the text of an expression is put together from. -/
inductive Mark where
  | condition (e : Expr)
  | connective (c : Connective)
  | opened
  | closed

namespace Mark

/-- The text of a mark. -/
def write : Mark → List Char
  | condition e => e.write
  | connective c => ' ' :: c.keyword.toList ++ [' ']
  | opened => ['(']
  | closed => [')']

/-- Whether a mark is a condition. -/
def isCondition : Mark → Bool
  | condition _ => true
  | _ => false

end Mark

namespace Expr

/-- The marks of an expression: brackets stand round a joined right operand. -/
def marks : Expr → List Mark
  | logical c left right =>
    left.marks ++ .connective c ::
      (if right.isLogical then .opened :: right.marks ++ [.closed] else right.marks)
  | e => [.condition e]

theorem marks_of_not_logical {e : Expr} (h : e.isLogical = false) : e.marks = [.condition e] := by
  cases e with
  | logical c left right => cases h
  | reference name default => rfl
  | literal value => rfl
  | comparison r left right => rfl

/-- The text of an expression is that of its marks. -/
theorem flatMap_write_marks (e : Expr) : e.marks.flatMap Mark.write = e.write := by
  induction e using joined_induction with
  | single e h => rw [marks_of_not_logical h, List.flatMap_singleton]; rfl
  | joined c left right ihl ihr =>
      rw [marks, write, List.flatMap_append, ihl, List.flatMap_cons]
      cases right.isLogical with
      | false => simp [ihr, Mark.write]
      | true => simp [ihr, Mark.write]

/-- What is known of the conditions of an expression. -/
theorem of_mem_marks {e f : Expr} (h : .condition f ∈ e.marks) :
    f.isLogical = false ∧ (∀ n ∈ f.nodes, n ∈ e.nodes) ∧ (e.LexicallyClean → f.LexicallyClean) := by
  induction e using joined_induction with
  | single e he =>
      rw [marks_of_not_logical he, List.mem_singleton, Mark.condition.injEq] at h
      exact ⟨h ▸ he, h ▸ fun _ => id, h ▸ id⟩
  | joined c left right ihl ihr =>
      have hsides : .condition f ∈ left.marks ∨ .condition f ∈ right.marks := by
        rw [marks] at h
        cases hright : right.isLogical <;> simpa [hright] using h
      rcases hsides with h | h
      · obtain ⟨hf, hnodes, hclean⟩ := ihl h
        exact ⟨hf, fun n hn => by simp [nodes, hnodes n hn],
          fun he => hclean (lexicallyClean_logical.1 he).1⟩
      · obtain ⟨hf, hnodes, hclean⟩ := ihr h
        exact ⟨hf, fun n hn => by simp [nodes, hnodes n hn],
          fun he => hclean (lexicallyClean_logical.1 he).2⟩

end Expr

/-! ### Reading marks -/

/-- What has been read since a bracket was opened. -/
inductive Level where
  | empty
  | whole (e : Expr)
  | joining (left : Expr) (c : Connective)

/-- An expression comes to what has been read. -/
def Level.put : Level → Expr → Level
  | joining left c, e => whole (.logical c left e)
  | _, e => whole e

/-- A connective comes to what has been read. -/
def Level.join : Level → Connective → Level
  | whole e, c => joining e c
  | level, _ => level

/-- One mark is read.  The levels are those of the brackets that are open, the innermost first. -/
def readMark : List Level → Mark → List Level
  | level :: outer, .condition e => level.put e :: outer
  | level :: outer, .connective c => level.join c :: outer
  | levels, .opened => .empty :: levels
  | .whole e :: level :: outer, .closed => level.put e :: outer
  | levels, _ => levels

/-- The marks of an expression are read as that expression, in whatever brackets they stand. -/
theorem Expr.foldl_readMark_marks (e : Expr) (outer : List Level) :
    e.marks.foldl readMark (.empty :: outer) = .whole e :: outer := by
  induction e using joined_induction generalizing outer with
  | single e h => rw [marks_of_not_logical h]; rfl
  | joined c left right ihl ihr =>
      rw [marks, List.foldl_append, ihl, List.foldl_cons]
      show List.foldl readMark (.joining left c :: outer) _ = _
      cases hright : right.isLogical with
      | false =>
          rw [if_neg Bool.false_ne_true, marks_of_not_logical hright]
          rfl
      | true =>
          rw [if_pos rfl, List.cons_append, List.foldl_cons, List.foldl_append]
          show List.foldl readMark (right.marks.foldl readMark (.empty :: .joining left c :: outer)) _ = _
          rw [ihr]
          rfl

/-- **An expression is known by its marks.** -/
theorem Expr.marks_injective : Function.Injective Expr.marks := by
  intro e f h
  have he := e.foldl_readMark_marks []
  rw [h, f.foldl_readMark_marks] at he
  cases he
  rfl

/-! ### First characters -/

/-- What a piece of the text of an expression is. -/
inductive Start where
  | name
  | number
  | quote
  | blank
  | opened
  | closed
  deriving DecidableEq

/-- What a piece of text is that starts with the given character. -/
def startOf (c : Char) : Start :=
  if c = ' ' then .blank
  else if c = '(' then .opened
  else if c = ')' then .closed
  else if c = '"' then .quote
  else if c == '-' || c.isDigit then .number
  else .name

/-- What the text of an expression starts with. -/
def Expr.start : Expr → Start
  | reference _ _ => .name
  | literal (.number _) => .number
  | literal (.string _) => .quote
  | comparison _ left _ => left.start
  | logical _ left _ => left.start

/-- What the text of a mark starts with. -/
def Mark.start : Mark → Start
  | condition e => e.start
  | connective _ => .blank
  | opened => .opened
  | closed => .closed

theorem Expr.start_eq (e : Expr) : e.start = .name ∨ e.start = .number ∨ e.start = .quote := by
  induction e with
  | reference name default => exact .inl rfl
  | literal value =>
      cases value with
      | number x => exact .inr (.inl rfl)
      | string s => exact .inr (.inr rfl)
  | comparison r left right ihl _ => exact ihl
  | logical c left right ihl _ => exact ihl

theorem startOf_of_isNameStart {c : Char} (h : isNameStart c = true) : startOf c = .name := by
  have hdigit : c.isDigit = false := by
    cases hc : c.isDigit with
    | false => rfl
    | true => rw [← h, isNameStart_of_isDigit hc]
  have hne (d : Char) (hd : isNameStart d = false) : c ≠ d := ne_of_class h hd
  simp [startOf, hdigit, hne ' ' (by decide), hne '(' (by decide), hne ')' (by decide),
    hne '"' (by decide), hne '-' (by decide)]

theorem startOf_of_isNumberStart {c : Char} (h : (c == '-' || c.isDigit) = true) :
    startOf c = .number := by
  have hne (d : Char) (hd : (d == '-' || d.isDigit) = false) : c ≠ d := by
    rintro rfl
    rw [h] at hd
    cases hd
  simp [startOf, h, hne ' ' rfl, hne '(' rfl, hne ')' rfl, hne '"' rfl]

/-- The text of an operand starts as it should. -/
theorem Expr.IsOperand.exists_cons {e : Expr} (h : e.IsOperand) (hclean : e.Clean) :
    ∃ c cs, e.write = c :: cs ∧ startOf c = e.start := by
  cases h with
  | @reference name default _ =>
      obtain ⟨-, ⟨c, cs, hname, hstart, -⟩, -⟩ := hclean
      exact ⟨c, cs, hname, startOf_of_isNameStart hstart⟩
  | literal value =>
      cases value with
      | number x =>
          obtain ⟨d, hd⟩ := exists_isNumeral_decimalText hclean
          obtain ⟨c, cs, hnumber, hstart⟩ := hd.exists_cons
          exact ⟨c, cs, hnumber, startOf_of_isNumberStart hstart⟩
      | string s => exact ⟨'"', _, rfl, rfl⟩

/-! ### The texts of operands -/

/-- A text that a name, a number or a string can have: characters of words and numbers, or quotes round
anything escaped. -/
inductive IsPiece : List Char → Prop
  | plain {c : Char} {cs : List Char} (h : ∀ d ∈ c :: cs, isNumberChar d = true) : IsPiece (c :: cs)
  | quoted {body value : List Char} (h : Escaped '"' body value) : IsPiece ('"' :: (body ++ ['"']))

theorem isNumberChar_of_isNameChar {c : Char} (h : isNameChar c = true) : isNumberChar c = true := by
  simp [isNumberChar, h]

theorem Expr.IsOperand.isPiece {e : Expr} (h : e.IsOperand) (hclean : e.Clean) : IsPiece e.write := by
  cases h with
  | @reference name default _ =>
      obtain ⟨-, ⟨c, cs, hname, hstart, hgo⟩, -⟩ := hclean
      rw [write, hname]
      refine .plain (List.forall_mem_cons.2 ⟨?_, fun d hd => isNumberChar_of_isNameChar (hgo d hd)⟩)
      exact isNumberChar_of_isNameChar (isNameChar_of_isNameStart hstart)
  | literal value =>
      cases value with
      | number x =>
          obtain ⟨d, hd⟩ := exists_isNumeral_decimalText hclean
          obtain ⟨c, cs, hnumber, -⟩ := hd.exists_cons
          have hchars := hd.isNumberChar
          rw [hnumber] at hchars
          rw [write, Scalar.write, hnumber]
          exact .plain hchars
      | string s => exact .quoted (escaped_flatMap_escape s.toList)

/-- Where two runs of a class stop, they are the same. -/
theorem append_inj_of_stops {p : Char → Bool} {a b r s : List Char} (ha : ∀ c ∈ a, p c = true)
    (hb : ∀ c ∈ b, p c = true) (hr : Stops p r) (hs : Stops p s) (h : a ++ r = b ++ s) :
    a = b ∧ r = s := by
  have htake := congrArg (List.takeWhile p) h
  have hdrop := congrArg (List.dropWhile p) h
  rw [hr.takeWhile_append, hs.takeWhile_append, List.takeWhile_eq_self_iff.2 ha,
    List.takeWhile_eq_self_iff.2 hb] at htake
  rw [hr.dropWhile_append, hs.dropWhile_append, List.dropWhile_eq_nil_iff.2 ha,
    List.dropWhile_eq_nil_iff.2 hb] at hdrop
  exact ⟨htake, hdrop⟩

/-- **The text of an operand is known by what starts with it**, if no plain character follows. -/
theorem IsPiece.append_inj {a b r s : List Char} (ha : IsPiece a) (hb : IsPiece b)
    (hr : Stops isNumberChar r) (hs : Stops isNumberChar s) (h : a ++ r = b ++ s) :
    a = b ∧ r = s := by
  have hquote : isNumberChar '"' = false := isPlain_isNumberChar '"' (by simp)
  cases ha with
  | @plain c cs ha =>
      cases hb with
      | plain hb => exact append_inj_of_stops ha hb hr hs h
      | quoted hb =>
          obtain rfl : c = '"' := (List.cons.inj h).1
          exact absurd (ha '"' List.mem_cons_self) (ne_true_of_eq_false hquote)
  | @quoted body value ha =>
      cases hb with
      | @plain c cs hb =>
          obtain rfl : '"' = c := (List.cons.inj h).1
          exact absurd (hb '"' List.mem_cons_self) (ne_true_of_eq_false hquote)
      | @quoted body' value' hb =>
          -- the scanner finds the end of either, and it looks at one text
          have hscan : scanQuoted '"' (body ++ '"' :: r) = scanQuoted '"' (body' ++ '"' :: s) := by
            simpa using congrArg (scanQuoted '"') (List.cons.inj h).2
          rw [ha.scanQuoted_eq rfl, hb.scanQuoted_eq rfl] at hscan
          obtain ⟨-, hbody, rfl⟩ : value = value' ∧ body = body' ∧ r = s := by simpa using hscan
          rw [hbody]
          exact ⟨rfl, rfl⟩

theorem quote_injective {cs ds : List Char} (h : Scalar.quote cs = Scalar.quote ds) : cs = ds := by
  have hbody : cs.flatMap Scalar.escape ++ ['"'] = ds.flatMap Scalar.escape ++ ['"'] :=
    (List.cons.inj h).2
  have hscan := congrArg (scanQuoted '"') hbody
  rw [(escaped_flatMap_escape cs).scanQuoted_eq rfl, (escaped_flatMap_escape ds).scanQuoted_eq rfl]
    at hscan
  cases hscan
  rfl

/-- Operands with the same text are the same, unless they are numbers. -/
theorem eq_of_write_operand {a b : Expr} (ha : a.IsOperand) (hb : b.IsOperand) (hac : a.Clean)
    (hbc : b.Clean)
    (hnumber : ∀ x y, a = .literal (.number x) → b = .literal (.number y) →
      decimalText x = decimalText y → x = y)
    (h : a.write = b.write) : a = b := by
  obtain ⟨c, cs, hc, hstarta⟩ := ha.exists_cons hac
  obtain ⟨d, ds, hd, hstartb⟩ := hb.exists_cons hbc
  have hstart : a.start = b.start := by
    rw [← hstarta, ← hstartb, (List.cons.inj (hc.symm.trans (h.trans hd))).1]
  match a, b, ha, hb with
  | .reference name default, .reference name' default', _, _ =>
      obtain ⟨rfl, -⟩ := hac
      obtain ⟨rfl, -⟩ := hbc
      rw [String.toList_inj.1 h]
  | .literal (.number x), .literal (.number y), _, _ =>
      rw [hnumber x y rfl rfl (String.toList_inj.1 h)]
  | .literal (.string s), .literal (.string t), _, _ =>
      rw [String.toList_inj.1 (quote_injective h)]
  | .reference _ _, .literal (.number _), _, _ => cases hstart
  | .reference _ _, .literal (.string _), _, _ => cases hstart
  | .literal (.number _), .reference _ _, _, _ => cases hstart
  | .literal (.number _), .literal (.string _), _, _ => cases hstart
  | .literal (.string _), .reference _ _, _, _ => cases hstart
  | .literal (.string _), .literal (.number _), _, _ => cases hstart

/-! ### The texts of conditions -/

/-- A condition of which all parts can be written. -/
theorem Expr.LexicallyClean.exists_condition {e : Expr} (h : e.LexicallyClean)
    (hlogical : e.isLogical = false) :
    ∃ r left v, IsOperand left ∧ left.Clean ∧ (literal v).Clean ∧
      e = .comparison r left (.literal v) := by
  obtain ⟨r, left, v, hleft, rfl⟩ := (check_eq_ok_iff.1 h.check).exists_condition hlogical
  obtain ⟨-, hcleanl, hcleanr⟩ := forall_nodes_comparison.1 h.nodes
  exact ⟨r, left, v, hleft, hcleanl left left.mem_nodes_self, hcleanr _ (mem_nodes_self _), rfl⟩

/-- The three parts of a condition are known by what starts with its text. -/
theorem comparison_append_inj {p q : Relation} {a b : Expr} {v w : Scalar} {r s : List Char}
    (ha : IsPiece a.write) (hb : IsPiece b.write) (hv : IsPiece v.write) (hw : IsPiece w.write)
    (hr : Stops isNumberChar r) (hs : Stops isNumberChar s)
    (h : (Expr.comparison p a (.literal v)).write ++ r =
      (Expr.comparison q b (.literal w)).write ++ s) :
    a.write = b.write ∧ p = q ∧ v.write = w.write ∧ r = s := by
  have hblank (cs : List Char) : Stops isNumberChar (' ' :: cs) ∧ Stops isRelationChar (' ' :: cs) :=
    ⟨stops_cons.2 (by decide), stops_cons.2 (by decide)⟩
  have hsymbol (r : Relation) : ∀ c ∈ r.symbol.toList, isRelationChar c = true :=
    List.all_eq_true.1 (by cases r <;> decide)
  have h' : a.write ++ ' ' :: (p.symbol.toList ++ ' ' :: (v.write ++ r)) =
      b.write ++ ' ' :: (q.symbol.toList ++ ' ' :: (w.write ++ s)) := by
    simpa [Expr.write] using h
  obtain ⟨hleft, hrest⟩ := ha.append_inj hb (hblank _).1 (hblank _).1 h'
  obtain ⟨hpq, hrest⟩ := append_inj_of_stops (hsymbol p) (hsymbol q) (hblank _).2 (hblank _).2
    (List.cons.inj hrest).2
  obtain ⟨hright, hrest⟩ := hv.append_inj hw hr hs (List.cons.inj hrest).2
  exact ⟨hleft, Relation.symbol_injective (String.toList_inj.1 hpq), hright, hrest⟩

section Conditions

variable {e f : Expr} (he : e.LexicallyClean) (hf : f.LexicallyClean)
  (hsingle : e.isLogical = false) (hsingle' : f.isLogical = false)

include he hf hsingle hsingle'

/-- A condition is known by what starts with its text. -/
theorem condition_append_inj {r s : List Char} (hr : Stops isNumberChar r) (hs : Stops isNumberChar s)
    (h : e.write ++ r = f.write ++ s) : e.write = f.write ∧ r = s := by
  obtain ⟨p, a, v, ha, hac, hvc, rfl⟩ := he.exists_condition hsingle
  obtain ⟨q, b, w, hb, hbc, hwc, rfl⟩ := hf.exists_condition hsingle'
  have hv : IsPiece v.write := (Expr.IsOperand.literal v).isPiece hvc
  have hw : IsPiece w.write := (Expr.IsOperand.literal w).isPiece hwc
  obtain ⟨hleft, rfl, hright, hrest⟩ :=
    comparison_append_inj (ha.isPiece hac) (hb.isPiece hbc) hv hw hr hs h
  refine ⟨?_, hrest⟩
  simp only [Expr.write, hleft, hright]

/-- Conditions with the same text are the same, if they have no numbers with the same text. -/
theorem eq_of_write_condition
    (hnumber : ∀ x y, .literal (.number x) ∈ e.nodes → .literal (.number y) ∈ f.nodes →
      decimalText x = decimalText y → x = y)
    (h : e.write = f.write) : e = f := by
  obtain ⟨p, a, v, ha, hac, hvc, rfl⟩ := he.exists_condition hsingle
  obtain ⟨q, b, w, hb, hbc, hwc, rfl⟩ := hf.exists_condition hsingle'
  have hv := Expr.IsOperand.literal v
  have hw := Expr.IsOperand.literal w
  obtain ⟨hleft, rfl, hright, -⟩ := comparison_append_inj (ha.isPiece hac) (hb.isPiece hbc)
    (hv.isPiece hvc) (hw.isPiece hwc) (stops_nil _) (stops_nil _) (by simpa using h)
  obtain rfl : a = b := eq_of_write_operand ha hb hac hbc
    (fun x y hx hy => hnumber x y (by simp [Expr.nodes, hx]) (by simp [Expr.nodes, hy])) hleft
  have hvalue : Expr.literal v = .literal w := eq_of_write_operand hv hw hvc hwc
    (fun x y hx hy => hnumber x y (by simp [Expr.nodes, hx]) (by simp [Expr.nodes, hy])) hright
  rw [hvalue]

end Conditions

/-! ### The texts of marks -/

/-- Two marks with the same text. -/
inductive Mark.Alike : Mark → Mark → Prop
  | condition {e f : Expr} (h : e.write = f.write) : Alike (.condition e) (.condition f)
  | connective (c : Connective) : Alike (.connective c) (.connective c)
  | opened : Alike .opened .opened
  | closed : Alike .closed .closed

/-- A row of marks that can be told apart: its conditions can be written, and no two of them meet. -/
inductive IsRow : List Mark → Prop
  | nil : IsRow []
  | condition {e : Expr} {ms : List Mark} (he : e.LexicallyClean) (hsingle : e.isLogical = false)
      (hnext : ∀ m ∈ ms.head?, m.isCondition = false) (h : IsRow ms) : IsRow (.condition e :: ms)
  | other {m : Mark} {ms : List Mark} (hm : m.isCondition = false) (h : IsRow ms) : IsRow (m :: ms)

/-- Rows with a mark between them that is no condition. -/
theorem IsRow.append_cons {ms ns : List Mark} {m : Mark} (hms : IsRow ms)
    (hm : m.isCondition = false) (hns : IsRow ns) : IsRow (ms ++ m :: ns) := by
  induction hms with
  | nil => exact .other hm hns
  | @condition e ms he hsingle hnext _ ih =>
      refine .condition he hsingle (fun n hn => ?_) ih
      cases ms with
      | nil => cases hn; exact hm
      | cons k ms => exact hnext n hn
  | other hm _ ih => exact .other hm ih

/-- The marks of an expression can be told apart. -/
theorem Expr.LexicallyClean.isRow_marks {e : Expr} (h : e.LexicallyClean) : IsRow e.marks := by
  induction e using joined_induction with
  | single e hsingle =>
      rw [marks_of_not_logical hsingle]
      exact .condition h hsingle (fun m hm => by cases hm) .nil
  | joined c left right ihl ihr =>
      obtain ⟨hleft, hright⟩ := lexicallyClean_logical.1 h
      refine (ihl hleft).append_cons rfl ?_
      split
      · exact .other rfl ((ihr hright).append_cons rfl .nil)
      · exact ihr hright

/-- What follows a condition in a row goes on with no operand. -/
theorem stops_flatMap_write {ms : List Mark} (h : ∀ m ∈ ms.head?, m.isCondition = false) :
    Stops isNumberChar (ms.flatMap Mark.write) := by
  cases ms with
  | nil => exact stops_nil _
  | cons m ms =>
      cases m with
      | condition e => cases h _ rfl
      | connective c => exact stops_cons.2 (by decide)
      | opened => exact stops_cons.2 (by decide)
      | closed => exact stops_cons.2 (by decide)

/-- The text of a mark in a row starts as it should. -/
theorem IsRow.exists_cons {m : Mark} {ms : List Mark} (h : IsRow (m :: ms)) :
    ∃ c cs, m.write = c :: cs ∧ startOf c = m.start := by
  cases h with
  | condition he hsingle _ _ =>
      obtain ⟨r, left, v, hleft, hclean, -, rfl⟩ := he.exists_condition hsingle
      obtain ⟨c, cs, hc, hstart⟩ := hleft.exists_cons hclean
      exact ⟨c, cs ++ ' ' :: r.symbol.toList ++ ' ' :: v.write, by simp [Mark.write, Expr.write, hc],
        hstart⟩
  | other hm _ =>
      cases m with
      | condition e => cases hm
      | connective c => exact ⟨' ', _, rfl, rfl⟩
      | opened => exact ⟨'(', _, rfl, rfl⟩
      | closed => exact ⟨')', _, rfl, rfl⟩

/-- Rows with the same text start alike. -/
theorem IsRow.start_eq {m n : Mark} {ms ns : List Mark} (hms : IsRow (m :: ms))
    (hns : IsRow (n :: ns)) (h : (m :: ms).flatMap Mark.write = (n :: ns).flatMap Mark.write) :
    m.start = n.start := by
  obtain ⟨c, cs, hc, hm⟩ := hms.exists_cons
  obtain ⟨d, ds, hd, hn⟩ := hns.exists_cons
  rw [List.flatMap_cons, List.flatMap_cons, hc, hd] at h
  rw [← hm, ← hn, (List.cons.inj h).1]

theorem IsRow.flatMap_write_ne_nil {m : Mark} {ms : List Mark} (h : IsRow (m :: ms)) :
    (m :: ms).flatMap Mark.write ≠ [] := by
  obtain ⟨c, cs, hc, -⟩ := h.exists_cons
  rw [List.flatMap_cons, hc]
  exact List.cons_ne_nil _ _

theorem Expr.start_ne (e : Expr) {m : Mark} (h : m.isCondition = false) : e.start ≠ m.start := by
  cases m with
  | condition f => cases h
  | connective c => rcases e.start_eq with he | he | he <;> rw [he] <;> nofun
  | opened => rcases e.start_eq with he | he | he <;> rw [he] <;> nofun
  | closed => rcases e.start_eq with he | he | he <;> rw [he] <;> nofun

/-- Brackets and connectives are known by what starts with their text. -/
theorem Mark.append_inj {m n : Mark} (hm : m.isCondition = false) (hn : n.isCondition = false)
    (hstart : m.start = n.start) {r s : List Char} (h : m.write ++ r = n.write ++ s) :
    m.Alike n ∧ r = s := by
  match m, n with
  | .connective c, .connective d =>
      cases c <;> cases d <;> cases h <;> exact ⟨.connective _, rfl⟩
  | .opened, .opened => cases h; exact ⟨.opened, rfl⟩
  | .closed, .closed => cases h; exact ⟨.closed, rfl⟩
  | .condition _, _ => cases hm
  | _, .condition _ => cases hn
  | .connective _, .opened => cases hstart
  | .connective _, .closed => cases hstart
  | .opened, .connective _ => cases hstart
  | .opened, .closed => cases hstart
  | .closed, .connective _ => cases hstart
  | .closed, .opened => cases hstart

/-- **Marks are known by their text**, up to conditions with the same text. -/
theorem forall₂_alike_of_flatMap_write {ms ns : List Mark} (hms : IsRow ms) (hns : IsRow ns)
    (h : ms.flatMap Mark.write = ns.flatMap Mark.write) : List.Forall₂ Mark.Alike ms ns := by
  induction hms generalizing ns with
  | nil =>
      cases ns with
      | nil => exact .nil
      | cons n ns => exact absurd h.symm hns.flatMap_write_ne_nil
  | condition he hsingle hnext hms ih =>
      have hrow := IsRow.condition he hsingle hnext hms
      cases hns with
      | nil => exact absurd h hrow.flatMap_write_ne_nil
      | condition hf hsingle' hnext' hns =>
          obtain ⟨hwrite, hrest⟩ := condition_append_inj he hf hsingle hsingle'
            (stops_flatMap_write hnext) (stops_flatMap_write hnext') h
          exact .cons (.condition hwrite) (ih hns hrest)
      | other hn hns => exact absurd (hrow.start_eq (.other hn hns) h) (Expr.start_ne _ hn)
  | other hm hms ih =>
      have hrow := IsRow.other hm hms
      cases hns with
      | nil => exact absurd h hrow.flatMap_write_ne_nil
      | condition hf hsingle hnext hns =>
          exact absurd (IsRow.start_eq (.condition hf hsingle hnext hns) hrow h.symm)
            (Expr.start_ne _ hm)
      | other hn hns =>
          have hstart := hrow.start_eq (.other hn hns) h
          obtain ⟨halike, hrest⟩ := Mark.append_inj hm hn hstart h
          exact .cons halike (ih hns hrest)

/-! ### The texts of expressions -/

/-- Rows of marks with the same text are the same if their conditions are. -/
theorem eq_of_forall₂_alike {ms ns : List Mark} (h : List.Forall₂ Mark.Alike ms ns)
    (hcondition : ∀ e f, .condition e ∈ ms → .condition f ∈ ns → e.write = f.write → e = f) :
    ms = ns := by
  induction h with
  | nil => rfl
  | @cons m n ms ns hmn _ ih =>
      have hrest := ih fun e f he hf =>
        hcondition e f (List.mem_cons_of_mem _ he) (List.mem_cons_of_mem _ hf)
      cases hmn with
      | condition hwrite => rw [hcondition _ _ List.mem_cons_self List.mem_cons_self hwrite, hrest]
      | connective c => rw [hrest]
      | opened => rw [hrest]
      | closed => rw [hrest]

/-- The condition that a mark is. -/
def Mark.condition? : Mark → Option Expr
  | condition e => some e
  | _ => none

/-- Rows of marks with the same text are the same if they have the same conditions in the same order. -/
theorem eq_of_forall₂_alike_of_conditions {ms ns : List Mark} (h : List.Forall₂ Mark.Alike ms ns)
    (hconditions : ms.filterMap Mark.condition? = ns.filterMap Mark.condition?) : ms = ns := by
  induction h with
  | nil => rfl
  | cons hmn _ ih =>
      cases hmn with
      | condition hwrite =>
          obtain ⟨rfl, hrest⟩ := List.cons.inj hconditions
          rw [ih hrest]
      | connective c => rw [ih hconditions]
      | opened => rw [ih hconditions]
      | closed => rw [ih hconditions]

/-- The conditions among the marks are those that an evaluation comes to. -/
theorem Expr.filterMap_condition?_marks (e : Expr) :
    e.marks.filterMap Mark.condition? = e.tests.map Judged.node := by
  induction e using joined_induction with
  | single e h => rw [marks_of_not_logical h, tests_of_not_logical h]; rfl
  | joined c left right ihl ihr =>
      have hnode (s : Side) : Judged.node ∘ Judged.below s = Judged.node := rfl
      rw [marks, tests_logical, List.filterMap_append, List.map_append, List.map_map, List.map_map,
        hnode, hnode, ← ihl, ← ihr]
      cases right.isLogical with
      | false => rfl
      | true => simp [List.filterMap_cons, Mark.condition?]

/-- **An expression is known by its text.**  Let two expressions pass the check, with words for names, no
defaults and finite numbers, and let them be written alike.  If no two numbers in them are written alike,
they are the same; and whatever their numbers are, they are the same if they have the same conditions in
the same order, so that brackets are never lost. -/
theorem Expr.render_unambiguous {e f : Expr} (he : e.LexicallyClean) (hf : f.LexicallyClean) :
    ((∀ x y, .literal (.number x) ∈ e.nodes → .literal (.number y) ∈ f.nodes →
        decimalText x = decimalText y → x = y) → e.render = f.render → e = f) ∧
      (e.tests.map Judged.node = f.tests.map Judged.node → e.render = f.render → e = f) := by
  have halike (h : e.render = f.render) : List.Forall₂ Mark.Alike e.marks f.marks := by
    refine forall₂_alike_of_flatMap_write he.isRow_marks hf.isRow_marks ?_
    rw [flatMap_write_marks, flatMap_write_marks]
    exact String.ofList_inj.1 h
  constructor
  · intro hnumber h
    refine marks_injective (eq_of_forall₂_alike (halike h) fun a b ha hb hwrite => ?_)
    obtain ⟨hsingle, hnodes, hclean⟩ := of_mem_marks ha
    obtain ⟨hsingle', hnodes', hclean'⟩ := of_mem_marks hb
    exact eq_of_write_condition (hclean he) (hclean' hf) hsingle hsingle'
      (fun x y hx hy => hnumber x y (hnodes _ hx) (hnodes' _ hy)) hwrite
  · intro hconditions h
    refine marks_injective (eq_of_forall₂_alike_of_conditions (halike h) ?_)
    rw [filterMap_condition?_marks, filterMap_condition?_marks, hconditions]

/-- Two ways of joining the same three conditions, one of which looks like brackets and a connective, and
two of these conditions with different numbers. -/
theorem Expr.render_two_bracketings :
    let a : Expr := .comparison .eq (.reference "team" none) (.literal (.string "x\" OR (y"))
    let b : Expr := .comparison .gt (.reference "age" none) (.literal (.number 30))
    let c : Expr := .comparison .gt (.reference "age" none) (.literal (.number 0.5))
    let e : Expr := .logical .and a (.logical .or b c)
    let f : Expr := .logical .or (.logical .and a b) c
    e.LexicallyClean ∧ f.LexicallyClean ∧ e.tests.map Judged.node = f.tests.map Judged.node ∧
      e.render ≠ f.render ∧ b.render ≠ c.render := by
  intro a b c e f
  have hteam : IsWord "team".toList := isWord_of_all rfl (by decide) (by decide) (by decide)
  have hage : IsWord "age".toList := isWord_of_all rfl (by decide) (by decide) (by decide)
  have ha : a.LexicallyClean := by
    refine ⟨rfl, ?_⟩
    simpa [a, Expr.nodes, Expr.Clean] using hteam
  have hb : b.LexicallyClean := by
    refine ⟨rfl, ?_⟩
    simpa [b, Expr.nodes, Expr.Clean] using ⟨hage, rfl⟩
  have hc : c.LexicallyClean := by
    refine ⟨rfl, ?_⟩
    simpa [c, Expr.nodes, Expr.Clean] using ⟨hage, rfl⟩
  have he : e.LexicallyClean := lexicallyClean_logical.2 ⟨ha, lexicallyClean_logical.2 ⟨hb, hc⟩⟩
  have hf : f.LexicallyClean := lexicallyClean_logical.2 ⟨lexicallyClean_logical.2 ⟨ha, hb⟩, hc⟩
  refine ⟨he, hf, rfl, fun h => ?_, fun h => ?_⟩
  · have hconnective := (Expr.logical.inj ((render_unambiguous he hf).2 rfl h)).1
    cases hconnective
  · have hapart : decimalText 30 ≠ decimalText 0.5 := by decide +kernel
    have hsame : b = c := by
      refine (render_unambiguous hb hc).1 (fun x y hx hy htext => ?_) h
      obtain rfl : x = 30 := by simpa [b, Expr.nodes] using hx
      obtain rfl : y = 0.5 := by simpa [c, Expr.nodes] using hy
      exact absurd htext hapart
    have hvalue := Expr.literal.inj (Expr.comparison.inj hsame).2.2
    exact hapart (congrArg decimalText (Scalar.number.inj hvalue))

end Rulebook
