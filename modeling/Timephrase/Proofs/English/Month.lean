import Timephrase.Proofs.English.Gating
import Timephrase.Proofs.Pattern.Caseless

/-!
# Names of months

A month is named by its whole name or by its first three letters, and September by its first four as
well.  The pattern for dates reads these names in ASCII letters of any case, and no other words.

## Main definitions

* `English.monthNames`, `English.IsMonthName`: the names, and what they name
* `English.ReadsWords`: a node reads some words, and no others
* `English.wordsOf?`: the words that a node of ASCII letters reads

## Main results

* `English.readsWords_of_wordsOf?`: such a node reads these words, and no others
* `English.way_months_iff`: the pattern for dates reads the names of the months
* `English.month?_of_isMonthName`: a name is understood as the month that it names
-/

namespace Timephrase.English

open Pattern Pattern.Node

/-! ## Names -/

/-- The names of the months in small letters, each with the number of its month. -/
def monthNames : List (List Char × Nat) := [
  (['j', 'a', 'n'], 1), (['j', 'a', 'n', 'u', 'a', 'r', 'y'], 1),
  (['f', 'e', 'b'], 2), (['f', 'e', 'b', 'r', 'u', 'a', 'r', 'y'], 2),
  (['m', 'a', 'r'], 3), (['m', 'a', 'r', 'c', 'h'], 3),
  (['a', 'p', 'r'], 4), (['a', 'p', 'r', 'i', 'l'], 4),
  (['m', 'a', 'y'], 5),
  (['j', 'u', 'n'], 6), (['j', 'u', 'n', 'e'], 6),
  (['j', 'u', 'l'], 7), (['j', 'u', 'l', 'y'], 7),
  (['a', 'u', 'g'], 8), (['a', 'u', 'g', 'u', 's', 't'], 8),
  (['s', 'e', 'p'], 9), (['s', 'e', 'p', 't'], 9),
  (['s', 'e', 'p', 't', 'e', 'm', 'b', 'e', 'r'], 9),
  (['o', 'c', 't'], 10), (['o', 'c', 't', 'o', 'b', 'e', 'r'], 10),
  (['n', 'o', 'v'], 11), (['n', 'o', 'v', 'e', 'm', 'b', 'e', 'r'], 11),
  (['d', 'e', 'c'], 12), (['d', 'e', 'c', 'e', 'm', 'b', 'e', 'r'], 12)]

/-- A name of a month, in ASCII letters of any case. -/
def IsMonthName (name : String) (month : Nat) : Prop :=
  (name.toList.map Char.toLower, month) ∈ monthNames

instance (name : String) (month : Nat) : Decidable (IsMonthName name month) :=
  inferInstanceAs (Decidable (_ ∈ _))

theorem isLower_of_mem_monthNames {entry : List Char × Nat} (h : entry ∈ monthNames) :
    ∀ c ∈ entry.1, c.isLower = true := by
  have hall : (monthNames.all fun entry => entry.1.all Char.isLower) = true := by decide
  exact List.all_eq_true.mp (List.all_eq_true.mp hall entry h)

/-- A name of a month has no digits. -/
theorem isDigit_of_isMonthName {name : String} {month : Nat} (h : IsMonthName name month) :
    ∀ c ∈ name.toList, c.isDigit = false := by
  intro c hc
  have hlower := Ascii.isLower_iff.mp (isLower_of_mem_monthNames h _ (List.mem_map_of_mem hc))
  rw [← Ascii.isDigit_toLower, Bool.eq_false_iff, ne_eq, Ascii.isDigit_iff]
  omega

/-- **A name of a month is understood** as the month that it names. -/
theorem month?_of_isMonthName {name : String} {month : Nat} (h : IsMonthName name month) :
    month? (Lowercase.lowercase name) = some month := by
  have hmonths : ∀ entry ∈ monthNames,
      months.lookup ((entry.1.take 3).map Char.toLower) = some entry.2 := by
    decide
  have hsmall : ∀ c ∈ name.toList.map Char.toLower, c.toNat < 128 ∧ c.isUpper = false := by
    intro c hc
    have hlower := Ascii.isLower_iff.mp (isLower_of_mem_monthNames h c hc)
    rw [Bool.eq_false_iff, ne_eq, Ascii.isUpper_iff]
    omega
  have hlower : name.toLower = String.ofList (name.toList.map Char.toLower) := by
    rw [← String.toList_inj, String.toLower, String.toList_map, String.toList_ofList]
  -- The name is captured in small letters of all scripts, which for ASCII are those of ASCII.
  rw [← Lowercase.lowercase_toLower, hlower, Lowercase.lowercase_eq_self hsmall, month?,
    String.toList_ofList]
  exact hmonths _ h

/-! ## The words that the pattern reads -/

/-- The small letter of a set that has it in both cases and nothing else. -/
def letterOf? (s : CharSet) : Option Char :=
  ((List.range 26).map fun i => Char.ofNat (0x61 + i)).find? fun c => s == asciiLetterSet c

/-- The words in small letters that a node made of ASCII letters reads. -/
def wordsOf? : Node → Option (List (List Char))
  | .empty => some [[]]
  | .set s => (letterOf? s).map fun c => [[c]]
  | .run s 0 (some 1) _ => (letterOf? s).map fun c => [[c], []]
  | .seq first second => do
    let words ← wordsOf? first
    let words' ← wordsOf? second
    some (words.flatMap fun w => words'.map (w ++ ·))
  | .alt first second => do some ((← wordsOf? first) ++ (← wordsOf? second))
  | .times body 0 (some 1) _ => (wordsOf? body).map (· ++ [[]])
  | _ => none

variable {s : CharSet} {c d : Cursor} {ch : Char}

theorem mem_iff_of_letterOf? {a : Char} (h : letterOf? s = some a) :
    s.mem ch = true ↔ ch.toLower = a := by
  have hmem := List.mem_of_find?_eq_some h
  have hsame : (s == asciiLetterSet a) = true := by
    rw [letterOf?] at h
    simpa using List.find?_some h
  obtain rfl : s = asciiLetterSet a := beq_iff_eq.mp hsame
  obtain ⟨i, hi, rfl⟩ := List.mem_map.mp hmem
  have hall : ∀ i < 26, (Char.ofNat (0x61 + i)).isLower = true ∧
      (asciiLetterSet (.ofNat (0x61 + i))).mem (.ofNat (0x61 + i)) = true ∧
      (asciiLetterSet (.ofNat (0x61 + i))).ranges.ignoresCase = true := by
    decide
  obtain ⟨hlower, hself, hcase⟩ := hall i (List.mem_range.mp hi)
  refine ⟨toLower_of_mem_asciiLetterSet hlower, fun h => ?_⟩
  rw [← CharSet.mem_toLower hcase, h]
  exact hself

/-- A letter that may be left out. -/
theorem way_optionalSet {greedy : Bool} {gs : List (Nat × Span)} :
    (run s 0 (some 1) greedy).Way c d gs ↔ (d = c ∧ gs = []) ∨ (set s).Way c d gs := by
  constructor
  · rintro ⟨w, hmem, -, hmost, hw, rfl⟩
    rcases w with _ | ⟨ch, _ | ⟨ch', w⟩⟩
    · exact Or.inl ⟨Cursor.Reads.nil_iff.mp hw, rfl⟩
    · exact Or.inr ⟨ch, hmem ch (by simp), hw, rfl⟩
    · have := hmost 1 rfl
      simp at this
  · rintro (⟨rfl, rfl⟩ | ⟨ch, hch, hw, rfl⟩)
    · exact ⟨[], by simp, Nat.le_refl _, by simp, .refl _, rfl⟩
    · exact ⟨[ch], by simpa using hch, Nat.zero_le _, by simp, hw, rfl⟩

/-- A node reads some words in any case of their ASCII letters, and no others. -/
def ReadsWords (node : Node) (words : List (List Char)) : Prop :=
  ∀ c d, (∃ gs, node.Way c d gs) ↔ ∃ w, w.map Char.toLower ∈ words ∧ c.Reads w d

namespace ReadsWords

variable {node first second : Node} {words words' : List (List Char)}

theorem empty : ReadsWords .empty [[]] := by
  intro c d
  constructor
  · rintro ⟨gs, rfl, -⟩
    exact ⟨[], by simp, .refl _⟩
  · rintro ⟨w, hw, hread⟩
    obtain rfl : w = [] := List.map_eq_nil_iff.mp (List.mem_singleton.mp hw)
    exact ⟨[], Cursor.Reads.nil_iff.mp hread, rfl⟩

theorem set {a : Char} (ha : letterOf? s = some a) : ReadsWords (.set s) [[a]] := by
  intro c d
  constructor
  · rintro ⟨gs, ch, hch, hread, -⟩
    refine ⟨[ch], ?_, hread⟩
    rw [List.map_singleton, (mem_iff_of_letterOf? ha).mp hch]
    exact List.mem_singleton_self _
  · rintro ⟨w, hw, hread⟩
    obtain ⟨ch, rfl, hch⟩ := List.map_eq_singleton_iff.mp (List.mem_singleton.mp hw)
    exact ⟨[], ch, (mem_iff_of_letterOf? ha).mpr hch, hread, rfl⟩

/-- What may be left out reads nothing as well. -/
theorem optional {body : Node} (h : ReadsWords body words)
    (hway : ∀ c d gs, node.Way c d gs ↔ (d = c ∧ gs = []) ∨ body.Way c d gs) :
    ReadsWords node (words ++ [[]]) := by
  intro c d
  have hempty := empty c d
  simp only [hway, exists_or, List.mem_append, or_and_right]
  rw [or_comm]
  exact or_congr (h c d) hempty

theorem alt (h : ReadsWords first words) (h' : ReadsWords second words') :
    ReadsWords (.alt first second) (words ++ words') := by
  intro c d
  simp only [Node.Way, exists_or, List.mem_append, or_and_right]
  exact or_congr (h c d) (h' c d)

theorem seq (h : ReadsWords first words) (h' : ReadsWords second words') :
    ReadsWords (.seq first second) (words.flatMap fun w => words'.map (w ++ ·)) := by
  intro c d
  constructor
  · rintro ⟨_, e, hs, ks, hfirst, hsecond, rfl⟩
    obtain ⟨w, hw, hread⟩ := (h c e).mp ⟨hs, hfirst⟩
    obtain ⟨w', hw', hread'⟩ := (h' e d).mp ⟨ks, hsecond⟩
    refine ⟨w ++ w', ?_, hread.trans hread'⟩
    rw [List.map_append]
    exact List.mem_flatMap.mpr ⟨_, hw, List.mem_map_of_mem hw'⟩
  · rintro ⟨w, hw, hread⟩
    -- The word falls into two, each of which one of the nodes reads.
    obtain ⟨x, hx, hw⟩ := List.mem_flatMap.mp hw
    obtain ⟨y, hy, hw⟩ := List.mem_map.mp hw
    obtain ⟨u, v, rfl, rfl, rfl⟩ := List.map_eq_append_iff.mp hw.symm
    obtain ⟨e, hread, hread'⟩ := hread.exists_of_append
    obtain ⟨hs, hfirst⟩ := (h c e).mpr ⟨u, hx, hread⟩
    obtain ⟨ks, hsecond⟩ := (h' e d).mpr ⟨v, hy, hread'⟩
    exact ⟨ks ++ hs, e, hs, ks, hfirst, hsecond, rfl⟩

end ReadsWords

/-- **A node made of ASCII letters reads its words** in any case, and no others. -/
theorem readsWords_of_wordsOf? {node : Node} {words : List (List Char)}
    (h : wordsOf? node = some words) : ReadsWords node words := by
  induction node generalizing words with
  | empty =>
    obtain rfl := Option.some.inj h
    exact .empty
  | set s =>
    obtain ⟨a, ha, rfl⟩ := Option.map_eq_some_iff.mp h
    exact .set ha
  | run s least greatest greedy =>
    match least, greatest, h with
    | 0, some 1, h =>
      obtain ⟨a, ha, rfl⟩ := Option.map_eq_some_iff.mp h
      exact (ReadsWords.set ha).optional fun _ _ _ => way_optionalSet
  | seq first second ih₁ ih₂ =>
    obtain ⟨words₁, h₁, h⟩ := Option.bind_eq_some_iff.mp h
    obtain ⟨words₂, h₂, h⟩ := Option.bind_eq_some_iff.mp h
    obtain rfl := Option.some.inj h
    exact (ih₁ h₁).seq (ih₂ h₂)
  | alt first second ih₁ ih₂ =>
    obtain ⟨words₁, h₁, h⟩ := Option.bind_eq_some_iff.mp h
    obtain ⟨words₂, h₂, h⟩ := Option.bind_eq_some_iff.mp h
    obtain rfl := Option.some.inj h
    exact (ih₁ h₁).alt (ih₂ h₂)
  | times body least greatest greedy ih =>
    match least, greatest, h with
    | 0, some 1, h =>
      obtain ⟨words, hbody, rfl⟩ := Option.map_eq_some_iff.mp h
      exact (ih hbody).optional fun _ _ _ => way_optional
  -- The other nodes have no words listed.
  | _ => cases h

/-- **The pattern for dates reads the names of the months**, and no other words where it has a
month. -/
theorem way_months_iff {u w v : List Char} :
    (∃ gs, (ofBranches monthNodes).Way (.between u (w ++ v)) (.between (u ++ w) v) gs) ↔
      ∃ month, IsMonthName (String.ofList w) month := by
  -- The pattern lists its words in an order of its own, longer names before shorter ones.
  obtain ⟨words, hwords, hsame⟩ : ∃ words, wordsOf? (ofBranches monthNodes) = some words ∧
      words.Perm (monthNames.map (·.1)) := by
    refine ⟨_, rfl, ?_⟩
    decide
  rw [readsWords_of_wordsOf? hwords]
  constructor
  · rintro ⟨w', hw', hread⟩
    obtain rfl : w' = w := List.append_cancel_right hread.rest_eq.symm
    obtain ⟨⟨name, month⟩, hentry, hname⟩ := List.mem_map.mp (hsame.mem_iff.mp hw')
    refine ⟨month, ?_⟩
    rw [IsMonthName, String.toList_ofList, ← hname]
    exact hentry
  · rintro ⟨month, hname⟩
    rw [IsMonthName, String.toList_ofList] at hname
    exact ⟨w, hsame.mem_iff.mpr (List.mem_map_of_mem hname), Cursor.reads_between u w v⟩

end Timephrase.English
