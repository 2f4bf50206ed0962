import Timephrase.Pattern.CharSet
import Timephrase.Text.Lowercase
import Mathlib.Data.List.Basic

/-!
# Kinds of characters

## Main definitions

* `Word.kind`: the word characters of a condition on the edges of words

## Main results

* `Ascii.isDigit_iff`, `Ascii.isUpper_iff`, `Ascii.isLower_iff`: the numbers of digits, capital and
  small letters
* `Ascii.toLower_cases`: what small letters change
* `Lowercase.lowercase_eq_self`, `Lowercase.lowercase_digits`: texts of ASCII characters without
  capitals
* `Ranges.contains_eq_false_of_inter`: ranges that have nothing in common
* `Word.isWord_of_mem`, `Word.isWord_of_isBlank`: digits and letters are word characters, and blanks
  are none
-/

namespace Timephrase

/-- What lies in one of two sets of ranges without anything in common does not lie in the other. -/
theorem Ranges.contains_eq_false_of_inter {r s : Ranges} {n : Nat} (h : (r.inter s).list = [])
    (hr : r.contains n = true) : s.contains n = false := by
  by_contra hs
  have hboth := (Ranges.contains_inter r s n).mpr ⟨hr, Bool.not_eq_false _ ▸ hs⟩
  rw [Ranges.contains, h] at hboth
  cases hboth

/-- The members of one set are none of another with which it has nothing in common. -/
theorem CharSet.mem_eq_false_of_inter {s t : CharSet} {c : Char}
    (h : (s.ranges.inter t.ranges).list = []) (hs : s.mem c = true) : t.mem c = false :=
  Ranges.contains_eq_false_of_inter h hs

namespace Ascii

theorem isDigit_iff {c : Char} : c.isDigit = true ↔ 0x30 ≤ c.toNat ∧ c.toNat ≤ 0x39 := by
  have hdef : c.isDigit = (decide (c.val ≥ 0x30) && decide (c.val ≤ 0x39)) := rfl
  rw [hdef, Bool.and_eq_true, decide_eq_true_eq, decide_eq_true_eq]
  exact Iff.rfl

theorem isUpper_iff {c : Char} : c.isUpper = true ↔ 0x41 ≤ c.toNat ∧ c.toNat ≤ 0x5A := by
  have hdef : c.isUpper = decide (c.val ≥ 0x41 ∧ c.val ≤ 0x5A) := rfl
  rw [hdef, decide_eq_true_eq]
  exact Iff.rfl

theorem isLower_iff {c : Char} : c.isLower = true ↔ 0x61 ≤ c.toNat ∧ c.toNat ≤ 0x7A := by
  have hdef : c.isLower = (decide (c.val ≥ 0x61) && decide (c.val ≤ 0x7A)) := rfl
  rw [hdef, Bool.and_eq_true, decide_eq_true_eq, decide_eq_true_eq]
  exact Iff.rfl

/-- A letter that small letters change is a capital, and becomes the small letter. -/
theorem toLower_cases (c : Char) :
    c.toLower = c ∨ 0x41 ≤ c.toNat ∧ c.toNat ≤ 0x5A ∧ c.toLower.toNat = c.toNat + 0x20 := by
  by_cases hupper : 'A'.val ≤ c.val ∧ c.val ≤ 'Z'.val
  · have hlow : 0x41 ≤ c.toNat := hupper.1
    have hhigh : c.toNat ≤ 0x5A := hupper.2
    have hlower : c.toLower.toNat = (c.val + 0x20).toNat := congrArg Char.toNat (dif_pos hupper)
    have hsum : (c.val + 0x20).toNat = (c.toNat + 0x20) % 2 ^ 32 := UInt32.toNat_add c.val 0x20
    refine Or.inr ⟨hlow, hhigh, ?_⟩
    rw [hlower, hsum, Nat.mod_eq_of_lt (by omega)]
  · exact Or.inl (dif_neg hupper)

end Ascii

/-- **A text of ASCII characters without capitals** is in small letters. -/
theorem Lowercase.lowercase_eq_self {cs : List Char}
    (h : ∀ c ∈ cs, c.toNat < 128 ∧ c.isUpper = false) :
    lowercase (String.ofList cs) = String.ofList cs := by
  have hlower : ∀ before, lowerAfter before cs = cs := by
    induction cs with
    | nil => exact fun _ => rfl
    | cons c cs ih =>
      intro before
      obtain ⟨⟨hascii, hupper⟩, h⟩ := List.forall_mem_cons.mp h
      have hsigma : c ≠ '\u03A3' := by
        rintro rfl
        exact absurd hascii (by decide)
      have hdotted : c ≠ '\u0130' := by
        rintro rfl
        exact absurd hascii (by decide)
      have hsame : c.toLower = c := by
        refine (Ascii.toLower_cases c).resolve_right fun hletter => ?_
        rw [Ascii.isUpper_iff.mpr ⟨hletter.1, hletter.2.1⟩] at hupper
        cases hupper
      rw [lowerAfter, if_neg hsigma, if_neg hdotted, lower, if_pos hascii, hsame, ih h]
      rfl
  rw [lowercase, String.toList_ofList, hlower]

/-- Digits and points stay as they are in small letters. -/
theorem Lowercase.lowercase_digits {cs : List Char}
    (h : ∀ ch ∈ cs, ch.isDigit = true ∨ ch = '.') :
    lowercase (String.ofList cs) = String.ofList cs := by
  refine lowercase_eq_self fun ch hch => ?_
  rcases h ch hch with hdigit | rfl
  · have hbounds := Ascii.isDigit_iff.mp hdigit
    refine ⟨by omega, ?_⟩
    rw [Bool.eq_false_iff, ne_eq, Ascii.isUpper_iff]
    omega
  · decide

namespace Word

/-- Digits, letters and the underscore are word characters. -/
theorem isAsciiWord_iff {c : Char} :
    isAsciiWord c = true ↔ 0x30 ≤ c.toNat ∧ c.toNat ≤ 0x39 ∨ 0x41 ≤ c.toNat ∧ c.toNat ≤ 0x5A ∨
      c.toNat = 0x5F ∨ 0x61 ≤ c.toNat ∧ c.toNat ≤ 0x7A := by
  have hunderscore : (c == '_') = true ↔ c.toNat = 0x5F := by
    rw [beq_iff_eq, ← Char.toNat_inj]
    exact Iff.rfl
  have hdef : isAsciiWord c = (c.isUpper || c.isLower || c.isDigit || c == '_') := rfl
  simp only [hdef, Bool.or_eq_true, Ascii.isDigit_iff, Ascii.isUpper_iff, Ascii.isLower_iff,
    hunderscore]
  omega

/-- The members of a set are word characters if its ranges lie in those of ASCII. -/
theorem isWord_of_mem {s : CharSet} {c : Char}
    (hs : (s.ranges.list.all fun r => CharSet.asciiWords.list.any fun w =>
      w.1 ≤ r.1 && r.2 ≤ w.2) = true)
    (h : s.mem c = true) : isWord c = true := by
  obtain ⟨r, hr, hlow, hhigh⟩ := (Ranges.contains_iff _ _).mp h
  obtain ⟨w, hw, hbounds⟩ := List.any_eq_true.mp (List.all_eq_true.mp hs r hr)
  simp only [Bool.and_eq_true, decide_eq_true_eq] at hbounds
  have hword : isAsciiWord c = true := by
    rw [isAsciiWord_iff]
    simp only [CharSet.asciiWords, List.mem_cons, List.not_mem_nil, or_false] at hw
    -- Digits, capitals, the underscore and small letters.
    rcases hw with rfl | rfl | rfl | rfl
    · simp only at hbounds
      omega
    · simp only at hbounds
      omega
    · simp only at hbounds
      omega
    · simp only at hbounds
      omega
  have hlt : c.toNat < 128 := by
    have := isAsciiWord_iff.mp hword
    omega
  rw [isWord, if_pos hlt, hword]

/-- Blanks are no word characters, of ASCII or of any script. -/
theorem isAsciiWord_of_isBlank {c : Char} (h : Blank.isBlank c = true) : isAsciiWord c = false := by
  by_contra hword
  have hword := isAsciiWord_iff.mp (Bool.not_eq_false _ ▸ hword)
  obtain ⟨p, hp, hlow, hhigh⟩ := (Ranges.contains_iff _ _).mp h
  simp only [Blank.blanks, List.mem_cons, List.not_mem_nil, or_false] at hp
  rcases hp with rfl | rfl | rfl | rfl | rfl | rfl | rfl | rfl | rfl | rfl <;>
    simp only at hlow hhigh <;> omega

theorem isWord_of_isBlank {c : Char} (h : Blank.isBlank c = true) : isWord c = false := by
  by_cases hlt : c.toNat < 128
  · rw [isWord, if_pos hlt, isAsciiWord_of_isBlank h]
  -- Beyond ASCII the tables of letters and marks have nothing in common with that of blanks.
  · have halphabetic : Letter.alphabetic.contains c.toNat = false :=
      Ranges.contains_eq_false_of_inter (r := Blank.blanks) (by decide +kernel) h
    have hmarks : marks.contains c.toNat = false :=
      Ranges.contains_eq_false_of_inter (r := Blank.blanks) (by decide +kernel) h
    rw [isWord, if_neg hlt, Letter.isAlphabetic, if_neg hlt, halphabetic, hmarks]
    rfl

/-- The word characters of a condition on the edges of words. -/
def kind (ascii : Bool) : Char → Bool := if ascii then isAsciiWord else isWord

theorem kind_of_isBlank (ascii : Bool) {c : Char} (h : Blank.isBlank c = true) :
    kind ascii c = false := by
  cases ascii with
  | true => exact isAsciiWord_of_isBlank h
  | false => exact isWord_of_isBlank h

end Word

end Timephrase
