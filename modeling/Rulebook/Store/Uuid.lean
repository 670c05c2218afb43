/-
**Identifiers.**

A stored rule and a request are identified by a number of 128 bits.  Its text is 32 hexadecimal digits
in five groups; the reader also takes the digits without hyphens, and the groups in braces or after
`urn:uuid:`, all in either case.

Main definitions:

* `Rulebook.Uuid` — identifiers;
* `Rulebook.Uuid.text` — the text of an identifier, in lower case and with hyphens;
* `Rulebook.Uuid.ofText?` — the identifier that a text spells.

Main results:

* `Rulebook.Uuid.joinGroups?_cutGroups` — cutting digits into groups and joining them gives them back.
-/

import Rulebook.Json.Reader
import Rulebook.Json.Writer

set_option autoImplicit false

namespace Rulebook

/-- An identifier of 128 bits. -/
structure Uuid where
  bits : BitVec 128
  deriving DecidableEq, Repr

namespace Uuid

instance : Inhabited Uuid := ⟨⟨0⟩⟩

/-! ### Groups of digits -/

/-- The lengths of the five groups. -/
def groupLengths : List Nat := [8, 4, 4, 4, 12]

/-- Cuts digits into groups of the given lengths, with hyphens between them. -/
def cutGroups : List Nat → List Char → List Char
  | [], ds => ds
  | [_], ds => ds
  | n :: ns, ds => ds.take n ++ '-' :: cutGroups ns (ds.drop n)

/-- Joins groups of the given lengths, which hyphens separate. -/
def joinGroups? : List Nat → List Char → Option (List Char)
  | [], cs => if cs = [] then some [] else none
  | [n], cs => if cs.length = n then some cs else none
  | n :: ns, cs =>
    match cs.drop n with
    | '-' :: rest => (joinGroups? ns rest).map (cs.take n ++ ·)
    | _ => none

theorem joinGroups?_cutGroups (ns : List Nat) (ds : List Char) (hn : ns ≠ [])
    (h : ds.length = ns.foldr (· + ·) 0) : joinGroups? ns (cutGroups ns ds) = some ds := by
  induction ns generalizing ds with
  | nil => exact absurd rfl hn
  | cons n ns ih =>
    cases ns with
    | nil =>
      have h : ds.length = n := by simpa using h
      simp [joinGroups?, cutGroups, h]
    | cons m ns =>
      have hlen : (ds.take n).length = n := by
        simp only [List.length_take, List.foldr_cons] at h ⊢; omega
      have hdrop : (ds.take n ++ '-' :: cutGroups (m :: ns) (ds.drop n)).drop n
          = '-' :: cutGroups (m :: ns) (ds.drop n) := List.drop_left' hlen
      have htake : (ds.take n ++ '-' :: cutGroups (m :: ns) (ds.drop n)).take n = ds.take n :=
        List.take_left' hlen
      have hrest : (ds.drop n).length = (m :: ns).foldr (· + ·) 0 := by
        simp only [List.length_drop, List.foldr_cons] at h ⊢; omega
      simp only [cutGroups, joinGroups?, hdrop, htake, ih (ds.drop n) (by simp) hrest,
        Option.map_some, List.take_append_drop]

/-! ### Text -/

/-- The last `n` hexadecimal digits of a number, leading zeros included. -/
def hexDigits (n : Nat) (value : Nat) : List Char :=
  (List.range n).map fun i => Nat.digitChar (value / Nat.pow 16 (n - 1 - i) % 16)

@[simp] theorem length_hexDigits (n value : Nat) : (hexDigits n value).length = n := by
  simp [hexDigits]

/-- The text of an identifier. -/
def text (u : Uuid) : String := String.ofList (cutGroups groupLengths (hexDigits 32 u.bits.toNat))

/-- The identifier that 32 hexadecimal digits spell. -/
def ofDigits? (ds : List Char) : Option Uuid :=
  if ds.length = 32 then
    (ds.foldlM (fun n d => (Json.hexDigit? d).map (16 * n + ·)) 0).map fun n => ⟨BitVec.ofNat 128 n⟩
  else none

/-- What stands before the groups in the name of a resource. -/
def resourceStart : List Char := "urn:uuid:".toList

/-- The groups of a text, without what may stand round them. -/
def bare (cs : List Char) : List Char :=
  if (cs.take resourceStart.length).map Char.toLower = resourceStart then
    cs.drop resourceStart.length
  else
    match cs with
    | '{' :: rest => if rest.getLast? = some '}' then rest.dropLast else cs
    | _ => cs

/-- The identifier that a text spells. -/
def ofText? (s : String) : Option Uuid :=
  let cs := s.toList
  match ofDigits? cs with
  | some u => some u
  | none => (joinGroups? groupLengths (bare cs)).bind ofDigits?

end Uuid

end Rulebook
