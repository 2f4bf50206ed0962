import Timephrase.Calendar.Rfc3339
import Timephrase.Proofs.Calendar.Move
import Timephrase.Proofs.Calendar.Rollover
import Timephrase.Proofs.Text.Numeral

/-!
# Timestamps read back

A written timestamp holds everything that a clock shows, but its offset only to the minute.  Read
back it denotes the moment at which a clock of the rounded offset shows the same, if that offset is
still less than a day.

## Main definitions

* `Moment.roundedOffset`: an offset rounded to the minute

## Main results

* `Moment.readDigits?_padded`, `Moment.exists_digits_of_fraction`: numbers and fractions read back
* `Moment.readOffset?_offsetText`, `Moment.readOffset?_offsetText_eq_none`: offsets read back
* `Moment.ofFields?_fields`: a local time is put together from its own fields
* `Moment.ofRfc3339?_rfc3339`: what a written timestamp denotes
* `Moment.offset_of_ofRfc3339?`: the offsets that timestamps have
-/

namespace Timephrase

namespace Moment

variable {count n : Nat} {cs rest : List Char} {offset : Int} {m : Moment}

/-! ## Numbers -/

theorem readDigits?_go (hdigits : ∀ c ∈ cs, c.isDigit = true) (n : Nat) (rest : List Char) :
    readDigits?.go cs.length n (cs ++ rest) = some (Nat.ofDigitChars 10 cs n, rest) := by
  induction cs generalizing n with
  | nil => rfl
  | cons c cs ih =>
    obtain ⟨hc, hdigits⟩ := List.forall_mem_cons.mp hdigits
    rw [List.length_cons, List.cons_append, readDigits?.go, if_pos hc, ih hdigits,
      Nat.ofDigitChars_cons]

/-- **A numeral is read back** if its number fits into its width. -/
theorem readDigits?_padded (hcount : 0 < count) (hn : n < 10 ^ count) (rest : List Char) :
    readDigits? count ((Digits.padded count n).toList ++ rest) = some (n, rest) := by
  have hdigits : ∀ c ∈ (Digits.padded count n).toList, c.isDigit = true :=
    Digits.isDigit_of_mem_padded
  have hread := readDigits?_go hdigits 0 rest
  rw [Digits.length_padded hcount hn, Digits.ofDigitChars_padded] at hread
  exact hread

/-- What is found is handed on. -/
theorem bind_of_eq_some {α β : Type} {a? : Option α} {a : α} {f : α → Option β} (h : a? = some a) :
    (a? >>= f) = f a := by
  rw [h]
  rfl

theorem readMark?_cons (mark : Char) (cs : List Char) : readMark? mark (mark :: cs) = some cs :=
  if_pos rfl

/-- Some digits, not more than nine, are read as a fraction. -/
theorem readFraction?_append (hne : cs ≠ []) (hle : cs.length ≤ 9)
    (hdigits : ∀ c ∈ cs, c.isDigit = true) (hrest : rest.head?.any Char.isDigit = false) :
    readFraction? (cs ++ rest) =
      some (Nat.ofDigitChars 10 cs 0 * 10 ^ (9 - cs.length), rest) := by
  have htake : rest.takeWhile Char.isDigit = [] := by
    cases rest with
    | nil => rfl
    | cons c rest => exact List.takeWhile_cons_of_neg (Bool.eq_false_iff.mp hrest)
  have hdrop : rest.dropWhile Char.isDigit = rest := by
    cases rest with
    | nil => rfl
    | cons c rest => exact List.dropWhile_cons_of_neg (Bool.eq_false_iff.mp hrest)
  rw [readFraction?, List.takeWhile_append_of_pos hdigits, htake, List.append_nil,
    List.dropWhile_append_of_pos hdigits, hdrop]
  dsimp only
  rw [if_neg hne, List.take_of_length_le hle]
  rfl

/-- **A fraction is read back.**  It is written with no characters, or with a point and digits that
are read as it. -/
theorem exists_digits_of_fraction (hn : n < Duration.perSecond)
    (hrest : rest.head?.any Char.isDigit = false) :
    n = 0 ∧ (Digits.fraction n).toList = [] ∨ ∃ digits,
      (Digits.fraction n).toList = '.' :: digits ∧
        readFraction? (digits ++ rest) = some (n, rest) := by
  -- Three, six or nine digits are written, as many as it takes.
  have hwritten : ∀ count k, 0 < count → count ≤ 9 → k < 10 ^ count → k * 10 ^ (9 - count) = n →
      readFraction? ((Digits.padded count k).toList ++ rest) = some (n, rest) := by
    intro count k hpos hle hk hn
    have hlength := Digits.length_padded hpos hk
    rw [readFraction?_append (by rw [← List.length_pos_iff]; omega) (by omega)
      Digits.isDigit_of_mem_padded hrest, Digits.ofDigitChars_padded, hlength, hn]
  rw [Duration.perSecond] at hn
  rw [Digits.fraction]
  split
  · next hzero => exact Or.inl ⟨hzero, rfl⟩
  refine Or.inr ?_
  split
  · exact ⟨_, String.toList_append, hwritten 3 _ (by decide) (by decide) (by omega) (by omega)⟩
  split
  · exact ⟨_, String.toList_append, hwritten 6 _ (by decide) (by decide) (by omega) (by omega)⟩
  · exact ⟨_, String.toList_append, hwritten 9 _ (by decide) (by decide) (by omega) (by omega)⟩

/-- Whatever reads on after a fraction is handed what it stands for, if neither a digit nor a point
follows. -/
theorem read_fraction_then {α : Type} (hn : n < Duration.perSecond)
    (hrest : rest.head?.any Char.isDigit = false) (hpoint : rest.head? ≠ some '.')
    (f : Nat × List Char → Option α) :
    (match (Digits.fraction n).toList ++ rest with
      | '.' :: cs => readFraction? cs >>= f
      | cs => some (0, cs) >>= f) = f (n, rest) := by
  rcases exists_digits_of_fraction hn hrest with ⟨rfl, hnone⟩ | ⟨digits, hdigits, hread⟩
  · rw [hnone, List.nil_append]
    split
    · exact absurd rfl hpoint
    · rfl
  · rw [hdigits, List.cons_append]
    exact bind_of_eq_some hread

/-! ## Offsets -/

/-- An offset rounded to the nearest minute, a half away from zero. -/
def roundedOffset (offset : Int) : Int :=
  let seconds : Nat := (offset.natAbs + 30) / 60 * 60
  if offset < 0 then -seconds else seconds

theorem roundedOffset_eq_self_iff : roundedOffset offset = offset ↔ 60 ∣ offset := by
  rw [roundedOffset]
  split <;> omega

theorem roundedOffset_lt (h : offset.natAbs < 86370) :
    -86400 < roundedOffset offset ∧ roundedOffset offset < 86400 := by
  rw [roundedOffset]
  split <;> omega

theorem toList_offsetText (offset : Int) : (offsetText offset).toList =
    (if offset < 0 then '-' else '+') ::
      ((Digits.padded 2 ((offset.natAbs + 30) / 60 / 60)).toList ++
        ':' :: (Digits.padded 2 ((offset.natAbs + 30) / 60 % 60)).toList) := by
  rw [offsetText]
  split <;> simp [String.toList_append]

/-- An offset starts with its sign. -/
theorem head?_offsetText (offset : Int) :
    (offsetText offset).toList.head? = some (if offset < 0 then '-' else '+') := by
  rw [toList_offsetText, List.head?_cons]

theorem magnitude?_padded (hours minutes : Nat) (hhours : hours < 100) (hminutes : minutes < 60) :
    readOffset?.magnitude?
        ((Digits.padded 2 hours).toList ++ ':' :: (Digits.padded 2 minutes).toList) =
      if hours ≤ 23 then some (hours * 3600 + minutes * 60, []) else none := by
  have hhour : readDigits? 2 ((Digits.padded 2 hours).toList ++
      ':' :: (Digits.padded 2 minutes).toList) = some (hours, _) :=
    readDigits?_padded (by decide) hhours _
  have hminute : readDigits? 2 ((Digits.padded 2 minutes).toList ++ []) = some (minutes, []) :=
    readDigits?_padded (by decide) (by omega) []
  rw [List.append_nil] at hminute
  have hle : minutes ≤ 59 := Nat.le_of_lt_succ hminutes
  simp only [readOffset?.magnitude?, hhour, readMark?_cons, hminute, Option.bind_eq_bind,
    Option.bind_some, hle, and_true]

/-- **An offset is read back** rounded to the minute. -/
theorem readOffset?_offsetText (h : offset.natAbs < 86370) :
    readOffset? (offsetText offset).toList = some (roundedOffset offset, []) := by
  have hmagnitude := magnitude?_padded ((offset.natAbs + 30) / 60 / 60)
    ((offset.natAbs + 30) / 60 % 60) (by omega) (by omega)
  rw [if_pos (by omega)] at hmagnitude
  have hseconds : (offset.natAbs + 30) / 60 / 60 * 3600 + (offset.natAbs + 30) / 60 % 60 * 60 =
      (offset.natAbs + 30) / 60 * 60 := by
    omega
  rw [hseconds] at hmagnitude
  rw [toList_offsetText, roundedOffset, readOffset?]
  split <;> simp [hmagnitude]

/-- An offset that rounds to a day is not read back. -/
theorem readOffset?_offsetText_eq_none (h : 86370 ≤ offset.natAbs) (hlt : offset.natAbs < 86400) :
    readOffset? (offsetText offset).toList = none := by
  have hmagnitude := magnitude?_padded ((offset.natAbs + 30) / 60 / 60)
    ((offset.natAbs + 30) / 60 % 60) (by omega) (by omega)
  rw [if_neg (by omega)] at hmagnitude
  rw [toList_offsetText, readOffset?]
  split <;> simp [hmagnitude]

theorem dvd_of_magnitude? (h : readOffset?.magnitude? cs = some (n, rest)) :
    60 ∣ n ∧ n < 86400 := by
  obtain ⟨⟨hours, cs⟩, -, h⟩ := Option.bind_eq_some_iff.mp h
  obtain ⟨cs, -, h⟩ := Option.bind_eq_some_iff.mp h
  obtain ⟨⟨minutes, cs⟩, -, h⟩ := Option.bind_eq_some_iff.mp h
  dsimp only at h
  split at h
  · cases h
    omega
  · cases h

/-- The offset of a timestamp is one of whole minutes, and less than a day. -/
theorem dvd_of_readOffset? (h : readOffset? cs = some (offset, rest)) :
    60 ∣ offset ∧ -86400 < offset ∧ offset < 86400 := by
  cases cs with
  | nil => cases h
  | cons c cs =>
    rw [readOffset?] at h
    split at h
    · cases h
      decide
    split at h
    · obtain ⟨⟨n, cs⟩, hn, heq⟩ := Option.map_eq_some_iff.mp h
      cases heq
      have := dvd_of_magnitude? hn
      omega
    split at h
    · obtain ⟨⟨n, cs⟩, hn, heq⟩ := Option.map_eq_some_iff.mp h
      cases heq
      have := dvd_of_magnitude? hn
      omega
    · cases h

/-- A text that denotes a moment ends with an offset, at which a clock shows what stands before. -/
theorem exists_offset_of_ofRfc3339? {text : String} (h : ofRfc3339? text = some m) :
    ∃ cs t offset, readOffset? cs = some (offset, []) ∧ ofLocal? t offset = some m := by
  obtain ⟨⟨year, cs⟩, -, h⟩ := Option.bind_eq_some_iff.mp h
  obtain ⟨cs, -, h⟩ := Option.bind_eq_some_iff.mp h
  obtain ⟨⟨month, cs⟩, -, h⟩ := Option.bind_eq_some_iff.mp h
  obtain ⟨cs, -, h⟩ := Option.bind_eq_some_iff.mp h
  obtain ⟨⟨day, cs⟩, -, h⟩ := Option.bind_eq_some_iff.mp h
  dsimp only at h
  -- With a fraction or without one, the offset is read last.
  have hend : ∃ cs hour minute second nanos, ((readOffset? cs).bind fun found =>
      if found.2 ≠ [] then none
      else (ofFields? year month day hour minute second nanos).bind (ofLocal? · found.1)) =
        some m := by
    split at h
    · split at h
      · obtain ⟨cs, -, h⟩ := Option.bind_eq_some_iff.mp h
        obtain ⟨⟨hour, cs⟩, -, h⟩ := Option.bind_eq_some_iff.mp h
        obtain ⟨cs, -, h⟩ := Option.bind_eq_some_iff.mp h
        obtain ⟨⟨minute, cs⟩, -, h⟩ := Option.bind_eq_some_iff.mp h
        obtain ⟨cs, -, h⟩ := Option.bind_eq_some_iff.mp h
        obtain ⟨⟨second, cs⟩, -, h⟩ := Option.bind_eq_some_iff.mp h
        dsimp only at h
        split at h
        · obtain ⟨⟨nanos, cs⟩, -, h⟩ := Option.bind_eq_some_iff.mp h
          exact ⟨cs, hour, minute, second, nanos, h⟩
        · obtain ⟨⟨nanos, cs⟩, -, h⟩ := Option.bind_eq_some_iff.mp h
          exact ⟨cs, hour, minute, second, nanos, h⟩
      · cases h
    · cases h
  obtain ⟨cs, hour, minute, second, nanos, h⟩ := hend
  obtain ⟨⟨offset, rest⟩, hoffset, h⟩ := Option.bind_eq_some_iff.mp h
  dsimp only at h
  split at h
  · cases h
  · next hrest =>
    obtain rfl : rest = [] := not_not.mp hrest
    obtain ⟨t, -, h⟩ := Option.bind_eq_some_iff.mp h
    exact ⟨cs, t, offset, hoffset, h⟩

/-- **The moments of timestamps** have offsets of whole minutes, less than a day. -/
theorem offset_of_ofRfc3339? {text : String} (h : ofRfc3339? text = some m) :
    60 ∣ m.offset ∧ -86400 < m.offset ∧ m.offset < 86400 := by
  obtain ⟨cs, t, offset, hoffset, h⟩ := exists_offset_of_ofRfc3339? h
  obtain ⟨rfl, -⟩ := ofLocal?_eq_some_iff.mp h
  exact dvd_of_readOffset? hoffset

/-! ## Timestamps -/

/-- **A local time is put together from its own fields.** -/
theorem ofFields?_fields {t : LocalTime} (ht : t.Supported) :
    ofFields? t.date.year t.date.month t.date.day t.hour t.minute t.second t.nanos = some t := by
  have hvalid := t.date.isValid_fields
  have hdate : Date.ofFields? t.date.year t.date.month t.date.day = some t.date := by
    rw [Date.ofFields?, if_pos ⟨hvalid.month_pos, hvalid.month_le, hvalid.day_pos, hvalid.day_le⟩,
      Date.ofFields_fields]
    exact Date.supported?_eq_some_iff.mpr ⟨rfl, ht⟩
  have hhour := t.hour_lt
  have hminute := t.minute_lt
  have hsecond := t.second_lt
  have hsum := t.secondOfDay_eq
  have hseconds := t.seconds_eq
  rw [ofFields?, if_pos ⟨by omega, by omega, by omega⟩, hdate, Option.map_some,
    if_neg (by omega)]
  congr 2
  omega

section

variable (hyear : 0 ≤ m.localTime.date.year ∧ m.localTime.date.year ≤ 9999)
  (hleap : m.utc.isLeap = false)

include hyear hleap

/-- The characters of a timestamp. -/
theorem toList_rfc3339 : m.rfc3339.toList =
    (Digits.padded 4 m.localTime.date.year.toNat).toList ++ '-' ::
      ((Digits.padded 2 m.localTime.date.month).toList ++ '-' ::
      ((Digits.padded 2 m.localTime.date.day).toList ++ 'T' ::
      ((Digits.padded 2 m.localTime.hour).toList ++ ':' ::
      ((Digits.padded 2 m.localTime.minute).toList ++ ':' ::
      ((Digits.padded 2 m.localTime.second).toList ++
      ((Digits.fraction m.localTime.nanos).toList ++ (offsetText m.offset).toList)))))) := by
  rw [← m.isLeap_localTime] at hleap
  simp only [rfc3339, Date.text, Digits.signedYear, if_pos hyear, LocalTime.clockText, hleap,
    Bool.false_eq_true, if_false, String.toList_append, String.reduceToList, List.append_assoc,
    List.cons_append, List.nil_append]

/-- **All that a timestamp holds is read back**, but for the offset. -/
theorem ofRfc3339?_rfc3339_eq : ofRfc3339? m.rfc3339 =
    (readOffset? (offsetText m.offset).toList).bind fun (offset, cs) =>
      if cs ≠ [] then none else ofLocal? m.localTime offset := by
  have hsupported : m.localTime.Supported :=
    Date.supported_of_year (Int.le_trans (by decide) hyear.1) (Int.le_trans hyear.2 (by decide))
  have hfields := ofFields?_fields hsupported
  have hcast : (m.localTime.date.year.toNat : Int) = m.localTime.date.year :=
    Int.toNat_of_nonneg hyear.1
  -- Each number fits into its width.
  have hfour : ∀ rest,
      readDigits? 4 ((Digits.padded 4 m.localTime.date.year.toNat).toList ++ rest) =
        some (m.localTime.date.year.toNat, rest) := readDigits?_padded (by decide) (by omega)
  have htwo : ∀ n ≤ 59, ∀ rest,
      readDigits? 2 ((Digits.padded 2 n).toList ++ rest) = some (n, rest) :=
    fun n hn => readDigits?_padded (by decide) (by omega)
  have hmonth : m.localTime.date.month ≤ 59 :=
    Nat.le_trans m.localTime.date.isValid_fields.month_le (by decide)
  have hday : m.localTime.date.day ≤ 59 :=
    Nat.le_trans m.localTime.date.isValid_fields.day_le
      (Nat.le_trans (Date.monthLength_le _ _) (by decide))
  have hhour : m.localTime.hour ≤ 59 := Nat.le_of_lt (Nat.lt_trans m.localTime.hour_lt (by decide))
  have hminute : m.localTime.minute ≤ 59 := Nat.le_of_lt_succ m.localTime.minute_lt
  have hsecond : m.localTime.second ≤ 59 := Nat.le_of_lt_succ m.localTime.second_lt
  have hsign : (offsetText m.offset).toList.head?.any Char.isDigit = false ∧
      (offsetText m.offset).toList.head? ≠ some '.' := by
    rw [head?_offsetText]
    split <;> decide
  have hnanos : m.localTime.nanos < Duration.perSecond :=
    Nat.lt_of_not_le (of_decide_eq_false hleap)
  -- The fields are read one after the other.
  rw [ofRfc3339?, toList_rfc3339 hyear hleap]
  refine (bind_of_eq_some (hfour _)).trans ?_
  refine (bind_of_eq_some (readMark?_cons _ _)).trans ?_
  refine (bind_of_eq_some (htwo _ hmonth _)).trans ?_
  refine (bind_of_eq_some (readMark?_cons _ _)).trans ?_
  refine (bind_of_eq_some (htwo _ hday _)).trans ?_
  dsimp only
  rw [if_pos (Or.inl rfl)]
  refine (bind_of_eq_some rfl).trans ?_
  refine (bind_of_eq_some (htwo _ hhour _)).trans ?_
  refine (bind_of_eq_some (readMark?_cons _ _)).trans ?_
  refine (bind_of_eq_some (htwo _ hminute _)).trans ?_
  refine (bind_of_eq_some (readMark?_cons _ _)).trans ?_
  refine (bind_of_eq_some (htwo _ hsecond _)).trans ?_
  dsimp only
  refine (read_fraction_then hnanos hsign.1 hsign.2 _).trans ?_
  dsimp only
  rw [hcast, hfields]
  rfl

section

variable (hoffset : -86400 < m.offset ∧ m.offset < 86400)

include hoffset

/-- **A written timestamp denotes** the moment at which a clock of the rounded offset shows the
same.  If the offset rounds to a whole day, the timestamp denotes none. -/
theorem ofRfc3339?_rfc3339 : ofRfc3339? m.rfc3339 =
    if m.offset.natAbs < 86370 then some (.ofLocal m.localTime (roundedOffset m.offset))
    else none := by
  rw [ofRfc3339?_rfc3339_eq hyear hleap]
  split
  · next hlt =>
    have hfirst : Date.firstYear < m.localTime.date.year := Int.lt_of_lt_of_le (by decide) hyear.1
    have hlast : m.localTime.date.year < Date.lastYear := Int.lt_of_le_of_lt hyear.2 (by decide)
    have hlocal : (ofLocal m.localTime (roundedOffset m.offset)).localTime = m.localTime :=
      localTime_ofLocal _ _
    rw [readOffset?_offsetText hlt]
    refine ofLocal?_eq_some_iff.mpr ⟨rfl, supported_of_shown (roundedOffset_lt hlt) ?_ ?_⟩
    · rw [hlocal]
      exact Date.supported_addDays hfirst hlast (by decide)
    · rw [hlocal]
      exact Date.supported_addDays hfirst hlast (by decide)
  · next hge =>
    rw [readOffset?_offsetText_eq_none (Nat.le_of_not_lt hge) (by omega)]
    rfl

/-- **A written timestamp denotes the moment itself** just if its offset is one of whole minutes. -/
theorem ofRfc3339?_rfc3339_eq_self_iff : ofRfc3339? m.rfc3339 = some m ↔ 60 ∣ m.offset := by
  rw [ofRfc3339?_rfc3339 hyear hleap hoffset, ← roundedOffset_eq_self_iff]
  constructor
  · intro h
    split at h
    · exact congrArg Moment.offset (Option.some.inj h)
    · cases h
  · intro h
    have hdvd := roundedOffset_eq_self_iff.mp h
    rw [if_pos (by omega), h, ofLocal_localTime]

end

end

end Moment

end Timephrase
