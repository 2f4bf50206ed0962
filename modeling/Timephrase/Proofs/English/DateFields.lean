import Timephrase.Proofs.English.Failing
import Timephrase.Proofs.English.Month
import Timephrase.Proofs.Pattern.Group
import Timephrase.Proofs.Text.Numeral

/-!
# The fields of dates

The names of the months stand in three places: in the pattern for dates, in the feature that the
rule asks for, and in the table by which a name is understood.  They agree, and the numbers that the
pattern finds are in the ranges that they are read in.  So whatever the pattern finds in a text is
understood as a date, which may still lie outside the calendar.

## Main definitions

* `English.monthWords`: the alternatives of the pattern, each with the number of its month
* `English.NumberAtMost`: a group that is absent or writes a number up to a bound
* `English.DateUnderstood`: captures all of which are understood as parts of a date

## Main results

* `English.isMonthName_of_readsAt`: an alternative of the pattern reads names of its month
* `English.exists_digits_of_group?`: a group of a few digits
* `English.dateUnderstood_of_mem_findAll`: what is captured of a date
* `English.date_found_is_understood`: dates are never passed over, and fail in one way only
-/

namespace Timephrase

/-! ## Numbers of few digits -/

namespace IntegerRange

variable {range : IntegerRange} {cs : List Char}

/-- Digits have a value below a power of ten. -/
theorem ofDigitChars_lt (h : ∀ ch ∈ cs, ch.isDigit = true) (n : Nat) :
    Nat.ofDigitChars 10 cs n < (n + 1) * 10 ^ cs.length := by
  induction cs generalizing n with
  | nil => simp
  | cons ch cs ih =>
    obtain ⟨hch, h⟩ := List.forall_mem_cons.mp h
    have hdigit : ch.toNat - '0'.toNat ≤ 9 := by
      have hbounds := Ascii.isDigit_iff.mp hch
      have hzero : '0'.toNat = 0x30 := rfl
      omega
    rw [Nat.ofDigitChars_cons, List.length_cons, Nat.pow_succ']
    calc Nat.ofDigitChars 10 cs (10 * n + (ch.toNat - '0'.toNat))
        < (10 * n + (ch.toNat - '0'.toNat) + 1) * 10 ^ cs.length := ih h _
      _ ≤ (10 * (n + 1)) * 10 ^ cs.length := Nat.mul_le_mul_right _ (by omega)
      _ = (n + 1) * (10 * 10 ^ cs.length) := by
        rw [Nat.mul_comm 10 (n + 1), Nat.mul_assoc]

/-- The value of a few digits. -/
theorem ofDigitChars_lt_pow {width : Nat} (h : ∀ ch ∈ cs, ch.isDigit = true)
    (hwidth : cs.length ≤ width) : Nat.ofDigitChars 10 cs 0 < 10 ^ width := by
  have hlt := ofDigitChars_lt h 0
  rw [Nat.zero_add, Nat.one_mul] at hlt
  exact Nat.lt_of_lt_of_le hlt (Nat.pow_le_pow_right (by decide) hwidth)

/-- **A few digits are read as a number** of a range that has all numbers of so many digits. -/
theorem read_eq_ofDigitChars {width : Nat} (hne : cs ≠ []) (h : ∀ ch ∈ cs, ch.isDigit = true)
    (hwidth : cs.length ≤ width) (hleast : range.least ≤ 0)
    (hgreatest : (10 ^ width : Int) ≤ range.greatest) :
    range.read (String.ofList cs) = .ok (Nat.ofDigitChars 10 cs 0 : Int) := by
  have hrange : (Nat.ofDigitChars 10 cs 0 : Int) ≤ range.greatest := by
    refine Int.le_trans (Int.le_of_lt ?_) hgreatest
    exact_mod_cast ofDigitChars_lt_pow h hwidth
  rw [read_eq_readDigits (by rwa [String.toList_ofList]) (by rwa [String.toList_ofList]),
    String.toList_ofList]
  exact readDigits_eq (n := 0) h hleast hrange

end IntegerRange

namespace English

open Pattern Pattern.Node

variable {u v w : List Char} {text : String} {m : Match}

/-! ## Months -/

/-- The names of the months in the pattern for dates, each alternative with the number of its
month. -/
def monthWords : List (Node × Nat) := monthNodes.zipIdx 1

/-- **An alternative of the pattern reads names of its month.** -/
theorem isMonthName_of_readsAt {alternative : Node × Nat} (h : alternative ∈ monthWords)
    (hread : alternative.1.ReadsAt u w v) : IsMonthName (String.ofList w) alternative.2 := by
  -- An alternative reads a few words only, which are looked up in the table one by one.
  have hall : (monthWords.all fun alternative => (wordsOf? alternative.1).any fun words =>
      words.all fun word => decide ((word, alternative.2) ∈ monthNames)) = true := by
    decide +kernel
  obtain ⟨words, hwords, hnames⟩ := (Option.any_eq_true _ _).mp (List.all_eq_true.mp hall _ h)
  obtain ⟨gs, hway⟩ := hread
  obtain ⟨w', hw', hreads⟩ := (readsWords_of_wordsOf? hwords _ _).mp ⟨gs, hway⟩
  obtain rfl : w' = w := List.append_cancel_right hreads.rest_eq.symm
  rw [IsMonthName, String.toList_ofList]
  exact of_decide_eq_true (List.all_eq_true.mp hnames _ hw')

/-! ## What is captured -/

/-- A group is absent and no number, or writes a number from zero to a bound. -/
def NumberAtMost (c : Captures) (range : IntegerRange) (group : String) (most : Nat) : Prop :=
  (c.get? group = none ∧ c.read? range.read group = .ok none) ∨
    ∃ n : Nat, c.read? range.read group = .ok (some (n : Int)) ∧ n ≤ most

/-- Captures of a text that are understood as parts of a date: the name of a month, whose number is
that of whatever alternative of the pattern reads it, and maybe days before and after it and a
year. -/
structure DateUnderstood (text : String) (c : Captures) : Prop where
  month : ∃ u w v, text.toList = u ++ w ++ v ∧
    c.get? "month" = some (Lowercase.lowercase (String.ofList w)) ∧
    (∃ alternative ∈ monthWords, alternative.1.ReadsAt u w v) ∧
    ∀ alternative ∈ monthWords, alternative.1.ReadsAt u w v →
      month? (c.text "month") = some alternative.2 ∧ 1 ≤ alternative.2 ∧ alternative.2 ≤ 12
  day : NumberAtMost c .signed64 "day" 99
  dayAfter : NumberAtMost c .signed64 "day_after" 99
  year : NumberAtMost c .signed32 "year" 9999

theorem isDigit_of_mem {set : CharSet} {ch : Char} (hset : set.ranges = CharSet.asciiDigits)
    (h : set.mem ch = true) : ch.isDigit = true := by
  rw [Ascii.isDigit_iff]
  simpa [CharSet.mem, hset, CharSet.asciiDigits, Ranges.contains] using h

variable (rule : String) in
/-- **A group of a few digits** that took part in a match is read as their number. -/
theorem exists_digits_of_group? {p : Pattern} {group : String} {index least most : Nat}
    {set : CharSet} {greedy : Bool} {s : Span} (h : m ∈ p.findAll text)
    (hname : p.names.lookup group = some index)
    (hbody : p.node.bodies index = [.run set least (some most) greedy])
    (hset : set.ranges = CharSet.asciiDigits) (hwidth : 0 < least ∧ least ≤ most)
    (hs : m.group? index = some s) :
    ∃ w, p.written? text m group = some (String.ofList w) ∧
      (∀ ch ∈ w, ch.isDigit = true) ∧ least ≤ w.length ∧ w.length ≤ most ∧
      Nat.ofDigitChars 10 w 0 < 10 ^ most ∧
      ∀ range : IntegerRange, range.least ≤ 0 → (10 ^ most : Int) ≤ range.greatest →
        (Captures.ofMatch rule p text m).read? range.read group =
          .ok (some (Nat.ofDigitChars 10 w 0 : Int)) := by
  obtain ⟨u, w, v, ht, hread, rfl⟩ := Captures.exists_after_of_group? h hbody hs
  obtain ⟨hmem, hlow, hhigh⟩ := readsAt_run hread
  have hdigits : ∀ ch ∈ w, ch.isDigit = true := fun ch hch => isDigit_of_mem hset (hmem ch hch)
  have hne : w ≠ [] := List.ne_nil_of_length_pos (Nat.lt_of_lt_of_le hwidth.1 hlow)
  rw [Nat.max_eq_right hwidth.2] at hhigh
  -- Digits are captured as they are written.
  have hget : (Captures.ofMatch rule p text m).get? group = some (String.ofList w) := by
    rw [Captures.get?_of_after hname hs ht,
      Lowercase.lowercase_digits fun ch hch => Or.inl (hdigits ch hch)]
  have hempty : String.ofList w ≠ "" := fun heq =>
    hne (String.ofList_injective (heq.trans String.ofList_nil.symm))
  refine ⟨w, Captures.written?_of_after hname hs ht, hdigits, hlow, hhigh,
    IntegerRange.ofDigitChars_lt_pow hdigits hhigh, fun range hleast hgreatest => ?_⟩
  exact Captures.read?_of_get?_eq_some hget hempty
    (IntegerRange.read_eq_ofDigitChars hne hdigits hhigh hleast hgreatest)

/-- A group of a few digits is absent or writes a number. -/
theorem numberAtMost_of_digits {range : IntegerRange} {group : String} {index least : Nat}
    (width : Nat) (h : m ∈ dateRule.pattern.findAll text)
    (hname : dateRule.pattern.names.lookup group = some index)
    (hbody : dateRule.pattern.node.bodies index = [.run asciiDigitSet least (some width) true])
    (hwidth : 0 < least ∧ least ≤ width) (hleast : range.least ≤ 0)
    (hgreatest : (10 ^ width : Int) ≤ range.greatest) :
    NumberAtMost (.ofMatch "date" dateRule.pattern text m) range group (10 ^ width - 1) := by
  cases hgroup : m.group? index with
  | none =>
    have hget : (Captures.ofMatch "date" dateRule.pattern text m).get? group = none := by
      rw [Captures.get?_ofMatch hname, hgroup, Option.bind_none]
    exact Or.inl ⟨hget, Captures.read?_of_get?_eq_none hget⟩
  | some s =>
    obtain ⟨w, -, -, -, -, hlt, hread⟩ :=
      exists_digits_of_group? "date" h hname hbody rfl hwidth hgroup
    exact Or.inr ⟨_, hread range hleast hgreatest, Nat.le_sub_one_of_lt hlt⟩

/-- **Whatever the pattern for dates finds is understood.** -/
theorem dateUnderstood_of_mem_findAll (h : m ∈ dateRule.pattern.findAll text) :
    DateUnderstood text (.ofMatch "date" dateRule.pattern text m) where
  month := by
    obtain ⟨u, w, v, ht, hread, hget⟩ := Captures.exists_readsAt_of_records "date" h
      (show dateRule.pattern.names.lookup "month" = some 2 from rfl)
      (show dateRule.pattern.node.bodies 2 = [ofBranches monthNodes] from rfl) rfl
    obtain ⟨node, hnode, hreads⟩ := readsAt_ofBranches.mp hread
    obtain ⟨place, hplace, rfl⟩ := List.mem_iff_getElem.mp hnode
    have hword : (monthNodes[place], 1 + place) ∈ monthWords :=
      List.mem_zipIdx_iff_le_and_getElem?_sub.mpr (by simp [hplace])
    refine ⟨u, w, v, ht, hget, ⟨_, hword, hreads⟩, fun alternative halternative hreads => ?_⟩
    rw [Captures.text_of_get? hget,
      month?_of_isMonthName (isMonthName_of_readsAt halternative hreads)]
    have hnumbers : ∀ alternative ∈ monthWords, 1 ≤ alternative.2 ∧ alternative.2 ≤ 12 := by
      decide
    exact ⟨rfl, hnumbers alternative halternative⟩
  day := numberAtMost_of_digits 2 h rfl rfl (by decide) (by decide) (by decide)
  dayAfter := numberAtMost_of_digits 2 h rfl rfl (by decide) (by decide) (by decide)
  year := numberAtMost_of_digits 4 h rfl rfl (by decide) (by decide) (by decide)

/-! ## How a date fails -/

/-- A number that is absent or in range is read without failure. -/
theorem NumberAtMost.exists_read? {c : Captures} {range : IntegerRange} {group : String}
    {most : Nat} (h : NumberAtMost c range group most) :
    ∃ n?, c.read? range.read group = .ok n? := by
  rcases h with ⟨-, h⟩ | ⟨n, h, -⟩
  · exact ⟨none, h⟩
  · exact ⟨some n, h⟩

/-- **A date that is understood** can only lie outside the calendar. -/
theorem DateUnderstood.eq_outOfRange {c : Captures} (h : DateUnderstood text c) {t : Moment}
    {failure : Failure} (hfails : calendarDate t c = .error failure) :
    failure = .outOfRange c.rule := by
  obtain ⟨u, w, v, -, -, ⟨alternative, halternative, hreads⟩, hall⟩ := h.month
  have hmonth : writtenMonth c = .ok alternative.2 := by
    rw [writtenMonth, (hall alternative halternative hreads).1]
  obtain ⟨after?, hafter⟩ := h.dayAfter.exists_read?
  obtain ⟨before?, hbefore⟩ := h.day.exists_read?
  obtain ⟨year?, hyear⟩ := h.year.exists_read?
  have hday : ∃ day, writtenDay t c = .ok day := by
    rw [writtenDay, hafter, hbefore]
    cases after? with
    | some day => exact ⟨day, rfl⟩
    | none => exact ⟨_, rfl⟩
  obtain ⟨day, hday⟩ := hday
  -- All parts are understood, so that only the arithmetic is left to fail.
  rw [calendarDate_eq, hmonth, hday, hyear] at hfails
  exact eq_outOfRange_of_inRange hfails

/-- **Whatever is found of a date is understood.**  For every match of the pattern for dates in a
text, the text has the feature that the rule asks for, so that the rule is not passed over.  The
month is understood as that of the alternative which reads its name.  The days and the year, where
there are any, are numbers up to 99 and 9999.  So at whatever time, the rule fails in one way
only. -/
theorem date_found_is_understood : ∃ rule f, date = .ok rule ∧ rule.meaning = .time f ∧
    ∀ text, ∀ m ∈ rule.pattern.findAll text,
      (Features.scan text).monthish = true ∧ rule.skip? (Features.scan text) = none ∧
      DateUnderstood text (.ofMatch rule.name rule.pattern text m) ∧
      ∀ context t failure, f context t (.ofMatch rule.name rule.pattern text m) = .error failure →
        failure = .outOfRange "date" := by
  refine ⟨dateRule, _, date_eq, rfl, fun text m hm => ?_⟩
  have hmonth : (Features.scan text).monthish = true :=
    hasMonthStart_of_date (List.ne_nil_of_mem hm)
  have hunderstood := dateUnderstood_of_mem_findAll hm
  refine ⟨hmonth, ?_, hunderstood, fun context t failure hfails => ?_⟩
  · have hincludes : (Features.scan text).includes dateRule.features = true := by
      rw [Features.includes, hmonth]
      rfl
    rw [Rule.skip?_eq_none_iff, Rule.isDue, hincludes]
    rfl
  · exact hunderstood.eq_outOfRange hfails

/-- The 99th of December is a day of March, which after the last day of the calendar is out of
range. -/
theorem date_found_past_last_day : ∃ rule f m, date = .ok rule ∧ rule.meaning = .time f ∧
    m ∈ rule.pattern.findAll "dec 99" ∧
    rule.skip? (Features.scan "dec 99") = none ∧
    DateUnderstood "dec 99" (.ofMatch rule.name rule.pattern "dec 99" m) ∧
    ∃ failure, f halfPastFour ⟨⟨8210266876799, 0⟩, 0⟩
        (.ofMatch rule.name rule.pattern "dec 99" m) = .error failure ∧
      failure = .outOfRange "date" := by
  obtain ⟨rule, f, hrule, hf, hfound⟩ := date_found_is_understood
  obtain rfl : dateRule = rule := Except.ok.inj (date_eq.symm.trans hrule)
  obtain rfl : (fun _ t c => calendarDate t c) = f := Meaning.time.inj hf
  have hm : ⟨⟨0, 6⟩, [(3, ⟨4, 6⟩), (2, ⟨0, 3⟩)]⟩ ∈ dateRule.pattern.findAll "dec 99" := by
    decide +kernel
  have hfails : calendarDate ⟨⟨8210266876799, 0⟩, 0⟩ (.ofMatch dateRule.name dateRule.pattern
      "dec 99" ⟨⟨0, 6⟩, [(3, ⟨4, 6⟩), (2, ⟨0, 3⟩)]⟩) = .error (.outOfRange "date") := by
    decide +kernel
  obtain ⟨-, hskip, hunderstood, honly⟩ := hfound "dec 99" _ hm
  exact ⟨dateRule, _, _, hrule, rfl, hm, hskip, hunderstood, _, hfails,
    honly halfPastFour _ _ hfails⟩

end English

end Timephrase
