import Mathlib.Data.List.TakeWhile
import Timephrase.Captures
import Timephrase.Proofs.Number.Rounding
import Timephrase.Proofs.Text.Kind

/-!
# What decimal notation denotes

A decimal that is neither very small nor very great is rounded once.  A text of digits with at most
one point is read in full, so that it denotes the number nearest to what it writes.

## Main definitions

* `Decimal.value`: the exact value of a decimal
* `Decimal.Writes`: the number that digits with at most one point write

## Main results

* `Decimal.exists_nearest`: the nearest number is the value, rounded
* `Binary64.ofText?_of_digits`: texts of digits and points are read as decimals
* `Decimal.Writes.exists_float`: what such a text denotes
* `Decimal.exists_writes_iff`: the texts of digits and points that write a number
* `Decimal.float_eq_error`: the others denote none
-/

namespace Timephrase

namespace Decimal

variable {d : Decimal}

/-- The exact value of a decimal. -/
def value (d : Decimal) : ℚ := d.digits * 10 ^ d.exponent

/-- The size by which a decimal is judged, from below. -/
theorem two_zpow_size_le (hdigits : d.digits ≠ 0) (hexponent : 0 ≤ d.exponent) :
    (2 : ℚ) ^ ((d.digits.log2 : ℤ) + 3 * d.exponent) ≤ d.value := by
  have hlog : (2 : ℚ) ^ d.digits.log2 ≤ d.digits := by
    exact_mod_cast Nat.log2_self_le hdigits
  calc (2 : ℚ) ^ ((d.digits.log2 : ℤ) + 3 * d.exponent)
      = 2 ^ d.digits.log2 * 8 ^ d.exponent := by
        rw [zpow_add₀ two_ne_zero, zpow_natCast, zpow_mul]
        norm_num
    _ ≤ d.digits * 10 ^ d.exponent := by
        have hpow : (8 : ℚ) ^ d.exponent ≤ 10 ^ d.exponent :=
          zpow_le_zpow_left₀ hexponent (by norm_num) (by norm_num)
        gcongr

/-- The size by which a decimal is judged, from above. -/
theorem value_lt_two_zpow (hexponent : d.exponent ≤ 0) :
    d.value < 2 ^ ((d.digits.log2 : ℤ) + 3 * d.exponent + 1) := by
  have hlog : (d.digits : ℚ) < 2 ^ (d.digits.log2 + 1) := by
    exact_mod_cast Nat.lt_log2_self
  obtain ⟨k, hk⟩ := Int.eq_ofNat_of_zero_le (Int.neg_nonneg.mpr hexponent)
  have hk : d.exponent = -(k : ℤ) := by omega
  calc d.value ≤ d.digits * 8 ^ d.exponent := by
        rw [value, hk, zpow_neg, zpow_neg, zpow_natCast, zpow_natCast]
        gcongr
        norm_num
    _ < 2 ^ (d.digits.log2 + 1) * 8 ^ d.exponent := by gcongr
    _ = 2 ^ ((d.digits.log2 : ℤ) + 3 * d.exponent + 1) := by
        have height : (8 : ℚ) = 2 ^ (3 : ℤ) := by norm_num
        rw [height, ← zpow_mul, ← zpow_natCast, ← zpow_add₀ two_ne_zero]
        congr 1
        push_cast
        ring

/-- A decimal as a quotient of whole numbers. -/
theorem value_eq_div (d : Decimal) :
    d.value = (d.digits * 10 ^ d.exponent.toNat : ℕ) / (10 ^ (-d.exponent).toNat : ℕ) := by
  push_cast
  rw [value, eq_div_iff (by positivity), mul_assoc, Binary64.zpow_mul_pow (by norm_num)]

/-- **The number nearest to a decimal** that is neither very small nor very great is its exact value,
rounded once. -/
theorem exists_nearest (hlow : d.digits ≠ 0 → 2 ^ (-1022 : ℤ) ≤ d.value)
    (hhigh : d.value < 2 ^ (1000 : ℤ)) :
    ∃ v, (d.nearest false).HasValue v ∧ Binary64.RoundsTo d.value v := by
  by_cases hdigits : d.digits = 0
  · refine ⟨0, ?_, ?_⟩
    · rw [nearest, if_pos hdigits]
      exact Binary64.hasValue_zero
    · rw [value, hdigits, Nat.cast_zero, zero_mul]
      exact Binary64.roundsTo_zero
  -- The size bounds the value from both sides, so that neither shortcut is taken.
  · have hnotInfinite : ¬(0 < d.exponent ∧ 1100 < (d.digits.log2 : ℤ) + 3 * d.exponent) := by
      rintro ⟨hexponent, hsize⟩
      have hlt := (two_zpow_size_le hdigits (by omega)).trans_lt hhigh
      have := (zpow_lt_zpow_iff_right₀ one_lt_two).mp hlt
      omega
    have hnotZero : ¬(d.digits.log2 : ℤ) + 3 * d.exponent < -1100 := by
      intro hsize
      have hlt := (hlow hdigits).trans_lt (value_lt_two_zpow (by omega))
      have := (zpow_lt_zpow_iff_right₀ one_lt_two).mp hlt
      omega
    have hround : d.nearest false = .round false (d.digits * 10 ^ d.exponent.toNat)
        (10 ^ (-d.exponent).toNat) := by
      rw [nearest, if_neg hdigits]
      dsimp only
      rw [if_neg hnotInfinite, if_neg hnotZero]
      rfl
    have hden : 0 < 10 ^ (-d.exponent).toNat := by positivity
    rw [hround, value_eq_div]
    rw [value_eq_div] at hhigh
    exact Binary64.exists_round hden hhigh

/-! ## Texts -/

/-- A text of digits with at most one point and at least one digit writes a number. -/
def Writes (text : String) (q : ℚ) : Prop :=
  ∃ whole part : List Char, (∀ ch ∈ whole ++ part, ch.isDigit = true) ∧ whole ++ part ≠ [] ∧
    (text.toList = whole ∧ part = [] ∨ text.toList = whole ++ '.' :: part) ∧
      q = ofDigits (whole ++ part) / 10 ^ part.length

/-- **Digits with at most one point** are read in full. -/
theorem read?_of_writes {cs whole part : List Char}
    (hdigits : ∀ ch ∈ whole ++ part, ch.isDigit = true) (hne : whole ++ part ≠ [])
    (h : cs = whole ∧ part = [] ∨ cs = whole ++ '.' :: part) :
    read? cs = some ⟨ofDigits (whole ++ part), -part.length⟩ := by
  have hwhole : ∀ ch ∈ whole, ch.isDigit = true := fun ch hch =>
    hdigits ch (List.mem_append_left _ hch)
  have hpart : ∀ ch ∈ part, ch.isDigit = true := fun ch hch =>
    hdigits ch (List.mem_append_right _ hch)
  have htaken : part.takeWhile Char.isDigit = part := List.takeWhile_eq_self_iff.mpr hpart
  have hdropped : part.dropWhile Char.isDigit = [] := List.dropWhile_eq_nil_iff.mpr hpart
  rcases h with ⟨rfl, rfl⟩ | rfl
  · have htaken : cs.takeWhile Char.isDigit = cs := List.takeWhile_eq_self_iff.mpr hwhole
    have hdropped : cs.dropWhile Char.isDigit = [] := List.dropWhile_eq_nil_iff.mpr hwhole
    rw [List.append_nil] at hne
    simp [read?, htaken, hdropped, hne, readExponent?]
  · rw [read?, List.takeWhile_append_of_pos hwhole, List.dropWhile_append_of_pos hwhole,
      List.takeWhile_cons_of_neg (by simp), List.dropWhile_cons_of_neg (by simp)]
    simp only [htaken, hdropped, List.append_nil, if_neg hne, readExponent?, Option.map_some,
      zero_sub]

end Decimal

/-- A text of digits and points is read as a decimal, since it is none of the words for what is not a
finite number. -/
theorem Binary64.ofText?_of_digits {text : String}
    (h : ∀ ch ∈ text.toList, ch.isDigit = true ∨ ch = '.') :
    Binary64.ofText? text = (Decimal.read? text.toList).map (Decimal.nearest false) := by
  -- Each of the words has a letter in common, which is no digit.
  have hword : ∀ word : String, 'n' ∈ word.toList →
      text.toList.map Char.toLower ≠ word.toList := by
    intro word hn heq
    rw [← heq] at hn
    obtain ⟨ch, hch, hlower⟩ := List.mem_map.mp hn
    rcases h ch hch with hdigit | rfl
    · have hbounds := Ascii.isDigit_iff.mp hdigit
      rcases Ascii.toLower_cases ch with hsame | ⟨hcapital, -, -⟩
      · rw [hlower] at hsame
        subst hsame
        cases hdigit
      · omega
    · cases hlower
  have hunsigned : ofUnsigned? false text.toList =
      (Decimal.read? text.toList).map (Decimal.nearest false) := by
    have hnan := hword "nan" (by decide)
    have hinf := hword "inf" (by decide)
    have hinfinity := hword "infinity" (by decide)
    simp only [ofUnsigned?, if_neg hnan, if_neg (not_or.mpr ⟨hinf, hinfinity⟩)]
  rw [ofText?]
  split
  · next heq =>
    rw [heq] at h
    rcases h '-' List.mem_cons_self with hdigit | hpoint
    · cases hdigit
    · cases hpoint
  · next heq =>
    rw [heq] at h
    rcases h '+' List.mem_cons_self with hdigit | hpoint
    · cases hdigit
    · cases hpoint
  · exact hunsigned

namespace Decimal.Writes

variable {text : String} {q : ℚ}

theorem ne_empty (h : Writes text q) : text ≠ "" := by
  rintro rfl
  obtain ⟨whole, part, -, hne, ⟨rfl, rfl⟩ | htext, -⟩ := h
  · exact hne rfl
  · have := List.append_eq_nil_iff.mp htext.symm
    cases this.2

/-- Such a text is made of digits and points. -/
theorem isDigit_or_eq (h : Writes text q) : ∀ ch ∈ text.toList, ch.isDigit = true ∨ ch = '.' := by
  intro ch hch
  obtain ⟨whole, part, hdigits, -, ⟨rfl, rfl⟩ | htext, -⟩ := h
  · exact Or.inl (hdigits ch (List.mem_append_left _ hch))
  · rw [htext, List.mem_append, List.mem_cons] at hch
    rcases hch with hch | rfl | hch
    · exact Or.inl (hdigits ch (List.mem_append_left _ hch))
    · exact Or.inr rfl
    · exact Or.inl (hdigits ch (List.mem_append_right _ hch))

/-- The value that digits with a part after the point have as a decimal. -/
theorem value_of_parts (whole part : List Char) :
    value ⟨ofDigits (whole ++ part), -part.length⟩ =
      ofDigits (whole ++ part) / 10 ^ part.length := by
  rw [value, zpow_neg, zpow_natCast, div_eq_mul_inv]

/-- What is written is the value of the decimal that is read. -/
theorem exists_read? (h : Writes text q) : ∃ d, read? text.toList = some d ∧ d.value = q := by
  obtain ⟨whole, part, hdigits, hne, htext, rfl⟩ := h
  exact ⟨_, read?_of_writes hdigits hne htext, value_of_parts whole part⟩

/-- A text writes one number at most. -/
theorem unique {q' : ℚ} (h : Writes text q) (h' : Writes text q') : q = q' := by
  obtain ⟨d, hd, rfl⟩ := h.exists_read?
  obtain ⟨d', hd', rfl⟩ := h'.exists_read?
  rw [Option.some.inj (hd.symm.trans hd')]

/-- What is written is denoted by the number nearest to it. -/
theorem exists_decimal (h : Writes text q) :
    ∃ d : Decimal, d.value = q ∧ Captures.float text = .ok (d.nearest false) := by
  obtain ⟨d, hread, hvalue⟩ := h.exists_read?
  refine ⟨d, hvalue, ?_⟩
  rw [Captures.float, Binary64.ofText?_of_digits h.isDigit_or_eq, hread]
  rfl

/-- **What digits with at most one point denote** is the number that they write, rounded once,
unless it is very small or very great. -/
theorem exists_float (h : Writes text q) (hlow : q ≠ 0 → 2 ^ (-1022 : ℤ) ≤ q)
    (hhigh : q < 2 ^ (1000 : ℤ)) :
    ∃ x v, Captures.float text = .ok x ∧ x.HasValue v ∧ Binary64.RoundsTo q v := by
  obtain ⟨d, rfl, hfloat⟩ := h.exists_decimal
  obtain ⟨v, hv, hrounds⟩ := exists_nearest (fun hzero => hlow (by
    rw [value]
    positivity)) hhigh
  exact ⟨_, v, hfloat, hv, hrounds⟩

/-- Digits alone write a whole number. -/
theorem exists_natCast (h : Writes text q) (hdigits : ∀ ch ∈ text.toList, ch.isDigit = true) :
    ∃ n : ℕ, q = n := by
  obtain ⟨whole, part, -, -, ⟨-, rfl⟩ | htext, rfl⟩ := h
  · exact ⟨ofDigits (whole ++ []), by simp⟩
  · have hpoint : '.' ∈ text.toList := by
      rw [htext]
      exact List.mem_append_right _ List.mem_cons_self
    cases hdigits '.' hpoint

theorem mem_of_mem_parts {whole part : List Char} {ch : Char} (h : ch ∈ whole ++ part) :
    ch ∈ whole ++ '.' :: part := by
  rcases List.mem_append.mp h with h | h
  · exact List.mem_append_left _ h
  · exact List.mem_append_right _ (List.mem_cons_of_mem _ h)

theorem exists_digit (h : Writes text q) : ∃ ch ∈ text.toList, ch.isDigit = true := by
  obtain ⟨whole, part, hdigits, hne, hshape, -⟩ := h
  obtain ⟨ch, hch⟩ := List.exists_mem_of_ne_nil _ hne
  refine ⟨ch, ?_, hdigits ch hch⟩
  rcases hshape with ⟨hshape, rfl⟩ | hshape
  · rwa [List.append_nil, ← hshape] at hch
  · rw [hshape]
    exact mem_of_mem_parts hch

theorem count_point_le (h : Writes text q) : text.toList.count '.' ≤ 1 := by
  obtain ⟨whole, part, hdigits, -, hshape, -⟩ := h
  have hnone : (whole ++ part).count '.' = 0 := List.count_eq_zero.mpr fun hpoint => by
    cases hdigits '.' hpoint
  rw [List.count_append] at hnone
  rcases hshape with ⟨hshape, rfl⟩ | hshape
  · rw [hshape]
    omega
  · rw [hshape, List.count_append, List.count_cons_self]
    omega

end Decimal.Writes

namespace Decimal

section Chars

variable {text : String} (h : ∀ ch ∈ text.toList, ch.isDigit = true ∨ ch = '.')

include h

/-- Behind digits that are read in full there is nothing, or a point. -/
theorem dropWhile_cases {cs : List Char} (hcs : ∀ ch ∈ cs, ch ∈ text.toList) :
    cs.dropWhile Char.isDigit = [] ∨ ∃ tail, cs.dropWhile Char.isDigit = '.' :: tail := by
  have hhead := List.head?_dropWhile_not Char.isDigit cs
  have hmem : ∀ ch ∈ cs.dropWhile Char.isDigit, ch ∈ text.toList := fun ch hch =>
    hcs ch ((List.dropWhile_sublist _).subset hch)
  cases hrest : cs.dropWhile Char.isDigit with
  | nil => exact Or.inl rfl
  | cons ch tail =>
    rw [hrest] at hhead hmem
    rcases h ch (hmem ch List.mem_cons_self) with hdigit | rfl
    · have hnot : ch.isDigit = false := hhead
      rw [hdigit] at hnot
      cases hnot
    · exact Or.inr ⟨tail, rfl⟩

/-- Digits and points that are read are digits with at most one point. -/
theorem exists_parts_of_read? {d : Decimal} (hread : read? text.toList = some d) :
    ∃ whole part : List Char, (∀ ch ∈ whole ++ part, ch.isDigit = true) ∧ whole ++ part ≠ [] ∧
      (text.toList = whole ∧ part = [] ∨ text.toList = whole ++ '.' :: part) := by
  have htaken : ∀ cs : List Char, ∀ ch ∈ cs.takeWhile Char.isDigit, ch.isDigit = true :=
    fun cs ch hch => List.mem_takeWhile_imp hch
  have hsplit : ∀ cs : List Char, cs.takeWhile Char.isDigit ++ cs.dropWhile Char.isDigit = cs :=
    fun _ => List.takeWhile_append_dropWhile
  have hwhole := hsplit text.toList
  rw [read?] at hread
  rcases dropWhile_cases h fun _ => id with hrest | ⟨tail, hrest⟩
  · rw [hrest] at hwhole hread
    refine ⟨text.toList.takeWhile Char.isDigit, [], ?_, ?_, Or.inl ⟨?_, rfl⟩⟩
    · rw [List.append_nil]
      exact htaken _
    · intro hnil
      simp [hnil] at hread
    · rw [← hwhole, List.append_nil, List.takeWhile_takeWhile]
      simp
  · rw [hrest] at hwhole hread
    have hmem : ∀ ch ∈ tail, ch ∈ text.toList := fun ch hch => by
      rw [← hwhole]
      exact List.mem_append_right _ (List.mem_cons_of_mem _ hch)
    -- Behind the digits after the point there is nothing, as a second point is no exponent.
    have hrest' : tail.dropWhile Char.isDigit = [] := by
      refine (dropWhile_cases h hmem).resolve_right ?_
      rintro ⟨tail', hrest'⟩
      simp [hrest', readExponent?] at hread
    have hpart := hsplit tail
    rw [hrest', List.append_nil] at hpart
    refine ⟨text.toList.takeWhile Char.isDigit, tail, ?_, ?_, Or.inr hwhole.symm⟩
    · intro ch hch
      rcases List.mem_append.mp hch with hch | hch
      · exact htaken _ ch hch
      · rw [← hpart] at hch
        exact htaken _ ch hch
    · intro hnil
      simp [hpart, hnil] at hread

/-- **Of digits and points nothing is read** but digits with at most one point. -/
theorem writes_of_read? {d : Decimal} (hread : read? text.toList = some d) :
    Writes text d.value := by
  obtain ⟨whole, part, hdigits, hne, hshape⟩ := exists_parts_of_read? h hread
  rw [read?_of_writes hdigits hne hshape] at hread
  obtain rfl := Option.some.inj hread
  exact ⟨whole, part, hdigits, hne, hshape, Writes.value_of_parts whole part⟩

/-- Digits and points that write no number denote none. -/
theorem float_eq_error (hnone : ∀ q, ¬Writes text q) :
    Captures.float text = .error .invalidFloat := by
  have hread : read? text.toList = none := by
    cases hread : read? text.toList with
    | none => rfl
    | some d => exact absurd (writes_of_read? h hread) (hnone d.value)
  rw [Captures.float, Binary64.ofText?_of_digits h, hread]
  rfl

/-- Digits, and points of which there is one at most, write a number. -/
theorem exists_writes {ch : Char} (hch : ch ∈ text.toList) (hdigit : ch.isDigit = true)
    (hcount : text.toList.count '.' ≤ 1) : ∃ q, Writes text q := by
  -- The point parts the digits; without one they all stand before it.
  by_cases hpoint : '.' ∈ text.toList
  · obtain ⟨whole, part, hshape⟩ := List.append_of_mem hpoint
    rw [hshape, List.count_append, List.count_cons_self] at hcount
    have hnone : '.' ∉ whole ++ part := by
      rw [← List.count_eq_zero, List.count_append]
      omega
    rw [hshape] at h hch
    have hdigits : ∀ ch ∈ whole ++ part, ch.isDigit = true := by
      intro ch hch
      refine (h ch (Writes.mem_of_mem_parts hch)).resolve_right ?_
      rintro rfl
      exact hnone hch
    refine ⟨_, whole, part, hdigits, ?_, Or.inr hshape, rfl⟩
    intro hnil
    obtain ⟨rfl, rfl⟩ := List.append_eq_nil_iff.mp hnil
    obtain rfl : ch = '.' := by simpa using hch
    cases hdigit
  · have hdigits : ∀ ch ∈ text.toList ++ [], ch.isDigit = true := by
      intro ch hch
      rw [List.append_nil] at hch
      refine (h ch hch).resolve_right ?_
      rintro rfl
      exact hpoint hch
    refine ⟨_, text.toList, [], hdigits, ?_, Or.inl ⟨rfl, rfl⟩, rfl⟩
    rw [List.append_nil]
    exact List.ne_nil_of_mem hch

/-- **A text of digits and points writes a number** just if it has a digit and at most one point. -/
theorem exists_writes_iff : (∃ q, Writes text q) ↔
    (∃ ch ∈ text.toList, ch.isDigit = true) ∧ text.toList.count '.' ≤ 1 := by
  constructor
  · rintro ⟨q, hq⟩
    exact ⟨hq.exists_digit, hq.count_point_le⟩
  · rintro ⟨⟨ch, hch, hdigit⟩, hcount⟩
    exact exists_writes h hch hdigit hcount

end Chars

end Decimal

end Timephrase
