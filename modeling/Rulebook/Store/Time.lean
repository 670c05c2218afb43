/-
**Points in time.**

A stored rule carries the time of its creation, in nanoseconds since the start of 1970.  Its text is a
date and a time of day of the Gregorian calendar in UTC, with as many decimals of a second, in groups
of three, as it takes to be exact.

Main definitions:

* `Rulebook.Date`, `Rulebook.Date.ofDays` — the date that is a number of days after 1 January 1970;
* `Rulebook.Timestamp`, `Rulebook.Timestamp.text` — points in time and their text.
-/

set_option autoImplicit false

namespace Rulebook

/-! ### Dates -/

/-- A date of the Gregorian calendar. -/
structure Date where
  year : Int
  month : Nat
  day : Nat
  deriving DecidableEq, Repr

/-- The date that is `days` days after 1 January 1970.  Years are counted from March, so that a leap day
comes last, and in eras of four hundred years, after which the calendar repeats. -/
def Date.ofDays (days : Int) : Date :=
  let sinceEra := days + 719468
  let era := sinceEra / 146097
  let dayOfEra := (sinceEra % 146097).toNat
  let yearOfEra := (dayOfEra - dayOfEra / 1460 + dayOfEra / 36524 - dayOfEra / 146096) / 365
  let dayOfYear := dayOfEra - (365 * yearOfEra + yearOfEra / 4 - yearOfEra / 100)
  let monthFromMarch := (5 * dayOfYear + 2) / 153
  let day := dayOfYear - (153 * monthFromMarch + 2) / 5 + 1
  let month := if monthFromMarch < 10 then monthFromMarch + 3 else monthFromMarch - 9
  let year : Int := yearOfEra + 400 * era
  ⟨if month ≤ 2 then year + 1 else year, month, day⟩

example : Date.ofDays 0 = ⟨1970, 1, 1⟩ := by decide

example : Date.ofDays 11016 = ⟨2000, 2, 29⟩ := by decide

example : Date.ofDays (-1) = ⟨1969, 12, 31⟩ := by decide

/-- A number in at least `width` decimal digits. -/
def paddedDigits (width n : Nat) : String :=
  let digits := Nat.toDigits 10 n
  String.ofList (List.replicate (width - digits.length) '0' ++ digits)

/-- The text of a date: year, month and day with hyphens. -/
def Date.text (d : Date) : String :=
  (if d.year < 0 then "-" else "") ++ paddedDigits 4 d.year.natAbs ++ "-" ++
    paddedDigits 2 d.month ++ "-" ++ paddedDigits 2 d.day

/-! ### Timestamps -/

/-- A point in time. -/
structure Timestamp where
  /-- Nanoseconds since the start of 1970. -/
  nanoseconds : Int
  deriving DecidableEq, Repr

namespace Timestamp

instance : Inhabited Timestamp := ⟨⟨0⟩⟩

/-- The decimals of a second: none, or three, six or nine of them. -/
def fractionText (nanoseconds : Nat) : String :=
  if nanoseconds = 0 then ""
  else if nanoseconds % 1000000 = 0 then "." ++ paddedDigits 3 (nanoseconds / 1000000)
  else if nanoseconds % 1000 = 0 then "." ++ paddedDigits 6 (nanoseconds / 1000)
  else "." ++ paddedDigits 9 nanoseconds

/-- The text of a point in time, in UTC. -/
def text (t : Timestamp) : String :=
  let seconds := t.nanoseconds / 1000000000
  let rest := (t.nanoseconds % 1000000000).toNat
  let ofDay := (seconds % 86400).toNat
  (Date.ofDays (seconds / 86400)).text ++ "T" ++ paddedDigits 2 (ofDay / 3600) ++ ":" ++
    paddedDigits 2 (ofDay / 60 % 60) ++ ":" ++ paddedDigits 2 (ofDay % 60) ++ fractionText rest ++ "Z"

end Timestamp

end Rulebook
