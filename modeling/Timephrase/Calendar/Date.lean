import Timephrase.Text.Digits

/-!
# Dates of the proleptic Gregorian calendar

A date is the number of days since 1 January 1970.  Its year, month and day of the month are read
off that number, and the number is found from them; years before the first are counted on from it
through zero.

## Main definitions

* `Date`: the day number
* `Date.year`, `Date.month`, `Date.day`: the calendar fields
* `Date.ofFields?`: the date with given fields
* `Date.Supported`: the dates of the years `-262143` to `262142`
* `Date.rolled?`: a month's first day moved on by a number of days
* `Date.text`: the written form
-/

namespace Timephrase

/-- A day of the calendar, as the number of days since 1 January 1970. -/
structure Date where
  dayNumber : Int
  deriving DecidableEq, Repr, Inhabited

namespace Date

/-! ## Years -/

/-- Every fourth year is a leap year, but of the full centuries only every fourth. -/
def isLeap (year : Int) : Bool := year % 4 == 0 && (year % 100 != 0 || year % 400 == 0)

/-- The day number of a year's first day. -/
def yearStart (year : Int) : Int :=
  365 * (year - 1) + (year - 1) / 4 - (year - 1) / 100 + (year - 1) / 400 - 719162

/-- The year that a day number lies in.  The mean length of a year gives it, at most one off. -/
def yearOf (dayNumber : Int) : Int :=
  let guess := (dayNumber + 719162) * 400 / 146097 + 1
  if dayNumber < yearStart guess then guess - 1
  else if yearStart (guess + 1) ≤ dayNumber then guess + 1
  else guess

/-! ## Months -/

/-- The lengths of a year's months. -/
def monthLengths (leap : Bool) : List Nat :=
  [31, if leap then 29 else 28, 31, 30, 31, 30, 31, 31, 30, 31, 30, 31]

/-- The length of a month, counted from one. -/
def monthLength (year : Int) (month : Nat) : Nat := (monthLengths (isLeap year)).getD (month - 1) 0

/-- The days of several months together. -/
def total (lengths : List Nat) : Nat := lengths.foldr (· + ·) 0

/-- The days of a year before a month, counted from one. -/
def daysBefore (year : Int) (month : Nat) : Nat :=
  total ((monthLengths (isLeap year)).take (month - 1))

/-- The months that have passed when `n` days have, and the days beyond them. -/
def splitMonths : List Nat → Nat → Nat × Nat
  | [], n => (0, n)
  | length :: rest, n =>
    if n < length then (0, n)
    else
      let (months, days) := splitMonths rest (n - length)
      (months + 1, days)

/-! ## Fields -/

/-- The year of a date. -/
def year (d : Date) : Int := yearOf d.dayNumber

/-- The days of its year that have passed before a date. -/
def dayOfYear (d : Date) : Nat := (d.dayNumber - yearStart d.year).toNat

/-- The month of a date, counted from one. -/
def month (d : Date) : Nat := (splitMonths (monthLengths (isLeap d.year)) d.dayOfYear).1 + 1

/-- The day of the month of a date, counted from one. -/
def day (d : Date) : Nat := (splitMonths (monthLengths (isLeap d.year)) d.dayOfYear).2 + 1

/-- The day of a month that is `day - 1` days after its first, whatever the month's length. -/
def ofFields (year : Int) (month : Nat) (day : Int) : Date :=
  ⟨yearStart year + daysBefore year month + (day - 1)⟩

/-- The date moved by a number of days. -/
def addDays (d : Date) (n : Int) : Date := ⟨d.dayNumber + n⟩

/-! ## The supported range -/

/-- The first supported year. -/
def firstYear : Int := -262143

/-- The last supported year. -/
def lastYear : Int := 262142

/-- The dates from 1 January of the first supported year to 31 December of the last. -/
def Supported (d : Date) : Prop := yearStart firstYear ≤ d.dayNumber ∧
  d.dayNumber < yearStart (lastYear + 1)

instance (d : Date) : Decidable d.Supported := inferInstanceAs (Decidable (_ ∧ _))

/-- The date, if it is supported. -/
def supported? (d : Date) : Option Date := if d.Supported then some d else none

/-- The supported date with the given year, month and day of the month. -/
def ofFields? (year : Int) (month day : Nat) : Option Date :=
  if 1 ≤ month ∧ month ≤ 12 ∧ 1 ≤ day ∧ day ≤ monthLength year month then
    (ofFields year month day).supported?
  else none

/-- The date `day - 1` days after the first of a month.  A day past the end of the month falls into
the following months and day zero is the last of the month before.  There is none if the first of
the month is no supported date, or the result is not. -/
def rolled? (year : Int) (month : Nat) (day : Int) : Option Date :=
  (ofFields? year month 1).bind fun first => (first.addDays (day - 1)).supported?

/-! ## Written form -/

/-- A date as year, month and day, joined by hyphens. -/
def text (d : Date) : String :=
  Digits.signedYear d.year ++ "-" ++ Digits.padded 2 d.month ++ "-" ++ Digits.padded 2 d.day

/-! ## Interface -/

@[simp] theorem dayNumber_addDays (d : Date) (n : Int) :
    (d.addDays n).dayNumber = d.dayNumber + n := rfl

@[simp] theorem supported?_eq_some_iff {d e : Date} :
    d.supported? = some e ↔ d = e ∧ d.Supported := by
  unfold supported?
  split <;> simp_all

/-- A year is as long as its months together. -/
theorem yearStart_succ (year : Int) :
    yearStart (year + 1) = yearStart year + total (monthLengths (isLeap year)) := by
  have h : total (monthLengths (isLeap year)) = if isLeap year then 366 else 365 := by
    cases isLeap year <;> rfl
  rw [h]
  simp only [yearStart, isLeap, Bool.and_eq_true, beq_iff_eq, Bool.or_eq_true, bne_iff_ne, ne_eq]
  split <;> omega

/-- A day number lies in its year. -/
theorem yearStart_yearOf_le (n : Int) :
    yearStart (yearOf n) ≤ n ∧ n < yearStart (yearOf n + 1) := by
  unfold yearOf
  dsimp only
  split
  · next h =>
    simp only [yearStart] at h ⊢
    omega
  · next h =>
    split
    · next h' =>
      simp only [yearStart] at h' ⊢
      omega
    · next h' =>
      simp only [yearStart] at h h' ⊢
      omega

end Date

end Timephrase
