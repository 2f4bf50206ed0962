import Timephrase.Proofs.English.Node
import Timephrase.Proofs.Pattern.Edge
import Timephrase.Proofs.Pattern.Row
import Timephrase.Proofs.Text.Kind

/-!
# Times of day as they are written

The pattern for times of day and the one for zones read the same words, and the latter a code after
one.  Up to the half of the day such a word is made of digits, marks and blanks alone, so that
where it ends can be told from the text.

## Main definitions

* `English.Clock`: a time of day as it is written
* `English.Clock.stem`: what stands of it before a blank that may be left out

## Main results

* `English.exists_clock_of_atTime`, `English.exists_clock_of_zone`: what the patterns read
* `English.Clock.stop_lt_of_zoneStart`: a time of day does not end where a code follows directly
-/

namespace Timephrase.English

open Pattern Pattern.Node

/-! ## Parts of a time of day -/

/-- One or two digits. -/
inductive IsHour : List Char → Prop
  | one {d : Char} (hd : digitSet.mem d = true) : IsHour [d]
  | two {d d' : Char} (hd : digitSet.mem d = true) (hd' : digitSet.mem d' = true) : IsHour [d, d']

/-- Two digits, maybe after a mark, or nothing. -/
inductive IsMinute : List Char → Prop
  | none : IsMinute []
  | plain {d d' : Char} (hd : digitSet.mem d = true) (hd' : digitSet.mem d' = true) :
    IsMinute [d, d']
  | marked {p d d' : Char} (hp : markSet.mem p = true) (hd : digitSet.mem d = true)
    (hd' : digitSet.mem d' = true) : IsMinute [p, d, d']

/-- A blank or nothing. -/
inductive IsGap : List Char → Prop
  | none : IsGap []
  | blank {b : Char} (hb : blankSet.mem b = true) : IsGap [b]

/-- The two letters of a half of the day, or nothing. -/
inductive IsHalf : List Char → Prop
  | none : IsHalf []
  | letters {x m : Char} (hx : halfSet.mem x = true) (hm : (letterSet 'm').mem m = true) :
    IsHalf [x, m]

theorem IsHour.digitSet_of_mem {w : List Char} (h : IsHour w) :
    ∀ ch ∈ w, digitSet.mem ch = true := by
  cases h with
  | one hd => simpa using hd
  | two hd hd' => simpa using ⟨hd, hd'⟩

theorem IsMinute.digitSet_or_markSet_of_mem {w : List Char} (h : IsMinute w) :
    ∀ ch ∈ w, digitSet.mem ch = true ∨ markSet.mem ch = true := by
  cases h with
  | none => simp
  | plain hd hd' => simpa using ⟨Or.inl hd, Or.inl hd'⟩
  | marked hp hd hd' => simpa using ⟨Or.inr hp, Or.inl hd, Or.inl hd'⟩

theorem IsGap.blankSet_of_mem {w : List Char} (h : IsGap w) :
    ∀ ch ∈ w, blankSet.mem ch = true := by
  cases h with
  | none => simp
  | blank hb => simpa using hb

theorem IsGap.exists_of_ne_nil {w : List Char} (h : IsGap w) (hne : w ≠ []) :
    ∃ b, blankSet.mem b = true ∧ w = [b] := by
  cases h with
  | none => exact absurd rfl hne
  | @blank b hb => exact ⟨b, hb, rfl⟩

theorem spells_hour : (oneOrTwo digitSet).Spells IsHour := by
  intro c d gs h
  obtain ⟨w, ⟨hmem, hleast, hmost⟩, hw⟩ := spells_run h
  refine ⟨w, ?_, hw⟩
  rcases w with _ | ⟨d₁, _ | ⟨d₂, _ | ⟨d₃, w⟩⟩⟩
  · cases hleast
  · exact .one (hmem d₁ (by simp))
  · exact .two (hmem d₁ (by simp)) (hmem d₂ (by simp))
  · simp only [List.length_cons] at hmost
    omega

/-- Two digits. -/
def IsPair (w : List Char) : Prop :=
  ∃ d d', w = [d, d'] ∧ digitSet.mem d = true ∧ digitSet.mem d' = true

theorem spells_pair : (run digitSet 2 (some 2) true).Spells IsPair := by
  intro c d gs h
  obtain ⟨w, ⟨hmem, hleast, hmost⟩, hw⟩ := spells_run h
  refine ⟨w, ?_, hw⟩
  obtain ⟨d₁, d₂, rfl⟩ := List.length_eq_two.mp (Nat.le_antisymm hmost hleast)
  exact ⟨d₁, d₂, rfl, hmem d₁ (by simp), hmem d₂ (by simp)⟩

/-- A character that may be left out. -/
theorem spells_optionalSet {s : CharSet} :
    (optionalSet s).Spells fun w => w = [] ∨ ∃ ch, s.mem ch = true ∧ w = [ch] := by
  intro c d gs h
  obtain ⟨w, ⟨hmem, -, hmost⟩, hw⟩ := spells_run h
  refine ⟨w, ?_, hw⟩
  rcases w with _ | ⟨ch, _ | ⟨ch', w⟩⟩
  · exact Or.inl rfl
  · exact Or.inr ⟨ch, hmem ch (by simp), rfl⟩
  · simp only [List.length_cons] at hmost
    omega

/-- Two digits are the minute, with the mark that may stand before them. -/
theorem spells_minute {pair : Node} (hpair : pair.Spells IsPair) :
    (optional [optionalSet markSet, pair]).Spells IsMinute := by
  refine Spells.optional (fun c d gs h => ?_) .none
  obtain ⟨e, hs, ks, hmark, hdigits, -⟩ := h
  obtain ⟨mark, hmark, hread⟩ := spells_optionalSet hmark
  obtain ⟨_, ⟨d₁, d₂, rfl, h₁, h₂⟩, hread'⟩ := hpair hdigits
  refine ⟨mark ++ [d₁, d₂], ?_, hread.trans hread'⟩
  rcases hmark with rfl | ⟨p, hp, rfl⟩
  · exact .plain h₁ h₂
  · exact .marked hp h₁ h₂

theorem spells_gap : (optionalSet blankSet).Spells IsGap := by
  intro c d gs h
  obtain ⟨w, hgap, hw⟩ := spells_optionalSet h
  refine ⟨w, ?_, hw⟩
  rcases hgap with rfl | ⟨b, hb, rfl⟩
  · exact .none
  · exact .blank hb

theorem mem_halfSet {ch : Char} :
    halfSet.mem ch = true ↔ (letterSet 'a').mem ch = true ∨ (letterSet 'p').mem ch = true := by
  have ha : (letterSet 'a').ranges = ⟨[(0x41, 0x41), (0x61, 0x61)]⟩ := rfl
  have hp : (letterSet 'p').ranges = ⟨[(0x50, 0x50), (0x70, 0x70)]⟩ := rfl
  simp only [CharSet.mem, ha, hp, halfSet, Ranges.contains, List.any_cons, List.any_nil,
    Bool.or_false, Bool.or_eq_true, Bool.and_eq_true, decide_eq_true_eq]
  omega

theorem spells_half : (optional [.set halfSet, letter 'm']).Spells IsHalf := by
  refine Spells.optional (fun c d gs h => ?_) .none
  obtain ⟨e, hs, ks, ⟨x, hx, hread, -⟩, ⟨m, hm, hread', -⟩, -⟩ := h
  exact ⟨[x, m], .letters hx hm, hread.trans hread'⟩

/-- The pattern for times of day has the halves of the day as words. -/
theorem spells_halfNode : halfNode.Spells IsHalf := by
  have hwords : ∀ word ∈ [ofItems (letters "am"), ofItems (letters "pm")],
      ∃ a, (∀ ch, (letterSet a).mem ch = true → halfSet.mem ch = true) ∧
        word = ofItems [letter a, letter 'm'] := by
    intro word hword
    simp only [List.mem_cons, List.not_mem_nil, or_false] at hword
    rcases hword with rfl | rfl
    · exact ⟨'a', fun ch h => mem_halfSet.mpr (Or.inl h), by simp [letters]⟩
    · exact ⟨'p', fun ch h => mem_halfSet.mpr (Or.inr h), by simp [letters]⟩
  refine Spells.optional (Spells.group (fun c d gs h => ?_) 3) .none
  obtain ⟨word, hword, h⟩ := way_ofBranches.mp h
  obtain ⟨a, ha, rfl⟩ := hwords word hword
  obtain ⟨e, hs, ks, ⟨x, hx, hread, -⟩, ⟨m, hm, hread', -⟩, -⟩ := h
  exact ⟨[x, m], .letters (ha x hx) hm, hread.trans hread'⟩

/-! ## Times of day -/

/-- A time of day as it is written: the word "at", a blank, an hour, and maybe a minute, a blank and
a half of the day. -/
structure Clock where
  a : Char
  t : Char
  blank : Char
  hour : List Char
  minute : List Char
  gap : List Char
  half : List Char
  a_mem : (letterSet 'a').mem a = true
  t_mem : (letterSet 't').mem t = true
  blank_mem : blankSet.mem blank = true
  isHour : IsHour hour
  isMinute : IsMinute minute
  isGap : IsGap gap
  isHalf : IsHalf half

namespace Clock

/-- The word "at" and a blank. -/
def lead (k : Clock) : List Char := [k.a, k.t, k.blank]

/-- The hour, the minute and the blank after them. -/
def signs (k : Clock) : List Char := k.hour ++ k.minute ++ k.gap

/-- All that is written. -/
def word (k : Clock) : List Char := k.lead ++ (k.signs ++ k.half)

end Clock

/-- **What a row of the nodes of a time of day reads**, and what comes after it. -/
theorem exists_clock_of_row {hour minute half : Node} {after : List Node} {c d : Cursor}
    {gs : List (Nat × Span)} (hhour : hour.Spells IsHour) (hminute : minute.Spells IsMinute)
    (hhalf : half.Spells IsHalf)
    (h : Row ([edge, letter 'a', letter 't', .set blankSet, hour, minute, optionalSet blankSet,
      half] ++ after) c d gs) :
    (Look.word .boundary false).HoldsAt c ∧
      ∃ (k : Clock) (e : Cursor) (ks : List (Nat × Span)), c.Reads k.word e ∧ Row after e d ks := by
  -- One node of the row after another.
  obtain ⟨_, _, _, ⟨hedge, rfl, -⟩, h, -⟩ := h
  obtain ⟨_, _, _, ⟨a, ha, hra, -⟩, h, -⟩ := h
  obtain ⟨_, _, _, ⟨t, ht, hrt, -⟩, h, -⟩ := h
  obtain ⟨_, _, _, ⟨b, hb, hrb, -⟩, h, -⟩ := h
  obtain ⟨_, _, _, hhourWay, h, -⟩ := h
  obtain ⟨_, _, _, hminuteWay, h, -⟩ := h
  obtain ⟨_, _, _, hgapWay, h, -⟩ := h
  obtain ⟨e, _, ks, hhalfWay, h, -⟩ := h
  obtain ⟨hour, hhour, hrh⟩ := hhour hhourWay
  obtain ⟨minute, hminute, hrm⟩ := hminute hminuteWay
  obtain ⟨gap, hgap, hrg⟩ := spells_gap hgapWay
  obtain ⟨half, hhalf, hrl⟩ := hhalf hhalfWay
  refine ⟨hedge, ⟨a, t, b, hour, minute, gap, half, ha, ht, hb, hhour, hminute, hgap, hhalf⟩, e, ks,
    ?_, h⟩
  have hlead := hra.trans (hrt.trans hrb)
  have hsigns := (hrh.trans hrm).trans hrg
  exact hlead.trans (hsigns.trans hrl)

/-- **What the pattern for times of day reads** is a time of day between edges of words. -/
theorem exists_clock_of_atTime {c d : Cursor} {gs : List (Nat × Span)} (h : atTimeNode.Way c d gs) :
    (Look.word .boundary false).HoldsAt c ∧ (Look.word .boundary false).HoldsAt d ∧
      ∃ k : Clock, c.Reads k.word d := by
  have hrow : Row ([edge, letter 'a', letter 't', .set blankSet, .group 1 (oneOrTwo digitSet),
      minuteNode, optionalSet blankSet, halfNode] ++ [edge]) c d gs := way_ofItems.mp h
  obtain ⟨hstart, k, e, ks, hread, hrest⟩ := exists_clock_of_row (spells_hour.group 1)
    (spells_minute (spells_pair.group 2)) spells_halfNode hrow
  obtain ⟨hstop, rfl, -⟩ := row_singleton.mp hrest
  exact ⟨hstart, hstop, k, hread⟩

/-- **What the pattern for zones reads before the code** is a time of day, with a blank after it or
none. -/
theorem exists_clock_of_zone {c e : Cursor} {gs : List (Nat × Span)} (h : Row clockNodes c e gs) :
    (Look.word .boundary false).HoldsAt c ∧
      ∃ (k : Clock) (gap : List Char), IsGap gap ∧ c.Reads (k.word ++ gap) e := by
  have hrow : Row ([edge, letter 'a', letter 't', .set blankSet, oneOrTwo digitSet,
      optional [optionalSet markSet, .run digitSet 2 (some 2) true], optionalSet blankSet,
      optional [.set halfSet, letter 'm']] ++ [optionalSet blankSet]) c e gs := h
  obtain ⟨hstart, k, e', ks, hread, hrest⟩ :=
    exists_clock_of_row spells_hour (spells_minute spells_pair) spells_half hrow
  obtain ⟨gap, hgap, hread'⟩ := spells_gap (row_singleton.mp hrest)
  exact ⟨hstart, k, gap, hgap, hread.trans hread'⟩

/-! ## The characters of a time of day -/

/-- The characters that a time of day is made of between the word "at" and the half of the day. -/
def signSet : CharSet :=
  ⟨(CharSet.asciiDigits.union markSet.ranges).union CharSet.blanks, false⟩

/-- The capital letters of ASCII. -/
def capitalSet : CharSet := ⟨⟨[(0x41, 0x5A)]⟩, false⟩

/-- Whether characters start as the code of a zone may: with a capital, and not with the letters of
a half of the day. -/
def isZoneStart : List Char → Bool
  | z :: z' :: _ => capitalSet.mem z && !(halfSet.mem z && (letterSet 'm').mem z')
  | _ => false

theorem mem_signSet {ch : Char} : signSet.mem ch = true ↔
    (digitSet.mem ch = true ∨ markSet.mem ch = true) ∨ blankSet.mem ch = true := by
  simp [CharSet.mem, signSet, digitSet, blankSet]

theorem signSet_of_halfSet {ch : Char} (h : halfSet.mem ch = true) : signSet.mem ch = false :=
  CharSet.mem_eq_false_of_inter (by decide) h

theorem signSet_of_capitalSet {ch : Char} (h : capitalSet.mem ch = true) : signSet.mem ch = false :=
  CharSet.mem_eq_false_of_inter (by decide) h

theorem isWord_of_digit {ch : Char} (h : digitSet.mem ch = true) : Word.isWord ch = true :=
  Word.isWord_of_mem (by decide) h

/-- An hour and a minute end with a digit. -/
theorem exists_last_digit {hour minute : List Char} (hhour : IsHour hour)
    (hminute : IsMinute minute) :
    ∃ w d, digitSet.mem d = true ∧ hour ++ minute = w ++ [d] := by
  cases hminute with
  | none =>
    cases hhour with
    | @one d hd => exact ⟨[], d, hd, rfl⟩
    | @two d d' hd hd' => exact ⟨[d], d', hd', rfl⟩
  | @plain d d' hd hd' => exact ⟨hour ++ [d], d', hd', by simp⟩
  | @marked p d d' hp hd hd' => exact ⟨hour ++ [p, d], d', hd', by simp⟩

namespace Clock

variable {k k' : Clock} {v v' : List Char}

theorem mem_signSet_of_mem_signs : ∀ ch ∈ k.signs, signSet.mem ch = true := by
  intro ch hch
  rw [mem_signSet]
  simp only [signs, List.mem_append] at hch
  rcases hch with (hch | hch) | hch
  · exact Or.inl (Or.inl (k.isHour.digitSet_of_mem ch hch))
  · exact Or.inl (k.isMinute.digitSet_or_markSet_of_mem ch hch)
  · exact Or.inr (k.isGap.blankSet_of_mem ch hch)

theorem takeWhile_signs_append :
    (k.signs ++ v).takeWhile signSet.mem = k.signs ++ v.takeWhile signSet.mem :=
  List.takeWhile_append_of_pos k.mem_signSet_of_mem_signs

theorem half_cases (k : Clock) : k.half = [] ∨
    ∃ x m, k.half = [x, m] ∧ halfSet.mem x = true ∧ (letterSet 'm').mem m = true := by
  have h : ∀ half, IsHalf half → half = [] ∨
      ∃ x m, half = [x, m] ∧ halfSet.mem x = true ∧ (letterSet 'm').mem m = true := by
    intro half hhalf
    cases hhalf with
    | none => exact Or.inl rfl
    | @letters x m hx hm => exact Or.inr ⟨x, m, rfl, hx, hm⟩
  exact h k.half k.isHalf

/-- A half of the day is no sign, nor is what starts as a code may. -/
theorem takeWhile_half_append (hzone : isZoneStart v = true) :
    (k.half ++ v).takeWhile signSet.mem = [] := by
  rcases k.half_cases with hhalf | ⟨x, m, hhalf, hx, -⟩
  · match v, hzone with
    | z :: z' :: _, hzone =>
      have hz : capitalSet.mem z = true := (Bool.and_eq_true_iff.mp hzone).1
      rw [hhalf]
      exact List.takeWhile_cons_of_neg (by simp [signSet_of_capitalSet hz])
  · rw [hhalf]
    exact List.takeWhile_cons_of_neg (by simp [signSet_of_halfSet hx])

/-- **A time of day that a code follows directly** is the only one that can be read there and is no
shorter. -/
theorem word_eq_of_zoneStart (h : k.word ++ v = k'.word ++ v') (hzone : isZoneStart v = true)
    (hsize : Utf8.size k.word ≤ Utf8.size k'.word) : k.word = k'.word := by
  have hparts :
      k.lead ++ (k.signs ++ (k.half ++ v)) = k'.lead ++ (k'.signs ++ (k'.half ++ v')) := by
    simpa [word] using h
  obtain ⟨hlead, hrest⟩ := List.append_inj hparts rfl
  -- The signs are as many as can be read, so that both have the same unless the other goes on.
  have hsigns : k.signs = k'.signs ++ (k'.half ++ v').takeWhile signSet.mem := by
    have htake := congrArg (List.takeWhile signSet.mem) hrest
    rwa [takeWhile_signs_append, takeWhile_signs_append, takeWhile_half_append hzone,
      List.append_nil] at htake
  -- Without a half of the day `k'` is a beginning of `k`, and it is no shorter.
  rcases k'.half_cases with hhalf' | ⟨x, m, hhalf', hx, hm⟩
  · have hword : k.word = k'.word ++ ((k'.half ++ v').takeWhile signSet.mem ++ k.half) := by
      simp only [word, hlead, hsigns, hhalf', List.append_assoc, List.nil_append, List.append_nil]
    have hmore : (k'.half ++ v').takeWhile signSet.mem ++ k.half = [] := by
      by_contra hne
      have := Utf8.size_pos hne
      rw [hword, Utf8.size_append] at hsize
      omega
    rw [hword, hmore, List.append_nil]
  · have hnone : (k'.half ++ v').takeWhile signSet.mem = [] := by
      rw [hhalf']
      exact List.takeWhile_cons_of_neg (by simp [signSet_of_halfSet hx])
    rw [hnone, List.append_nil] at hsigns
    rw [hsigns, hhalf'] at hrest
    -- With one, `k` has the same, since its letters are not the start of a code.
    have hhalf : k.half ++ v = [x, m] ++ v' := List.append_cancel_left hrest
    rcases k.half_cases with hnil | ⟨y, n, hyn, -, -⟩
    · rw [hnil, List.nil_append] at hhalf
      rw [hhalf] at hzone
      simp [isZoneStart, hx, hm] at hzone
    · rw [hyn] at hhalf
      have heq : k.half = k'.half := by
        rw [hyn, hhalf']
        exact (List.append_inj hhalf rfl).1
      rw [word, word, hlead, hsigns, heq]

/-- A time of day ends with a letter or digit if it does not end with a blank. -/
theorem exists_last_isWord (h : k.half ≠ [] ∨ k.gap = []) :
    ∃ w ch, k.word = w ++ [ch] ∧ Word.isWord ch = true := by
  rcases k.half_cases with hhalf | ⟨x, m, hhalf, -, hm⟩
  · have hgap : k.gap = [] := h.resolve_left (not_not_intro hhalf)
    obtain ⟨w, d, hd, hlast⟩ := exists_last_digit k.isHour k.isMinute
    refine ⟨k.lead ++ w, d, ?_, isWord_of_digit hd⟩
    rw [word, signs, hhalf, hgap, List.append_nil, List.append_nil, hlast, List.append_assoc]
  · refine ⟨k.lead ++ k.signs ++ [x], m, ?_, Word.isWord_of_mem (by decide) hm⟩
    rw [word, hhalf]
    simp

/-- **No time of day ends at or after the place where a code follows another directly**. -/
theorem stop_lt_of_zoneStart {c d e : Cursor} (hread : c.Reads k.word e)
    (hlast : k.half ≠ [] ∨ k.gap = []) (hzone : isZoneStart e.rest = true)
    (hread' : c.Reads k'.word d) (hedge : (Look.word .boundary false).HoldsAt d) :
    d.offset < e.offset := by
  by_contra hle
  have hsize : Utf8.size k.word ≤ Utf8.size k'.word := by
    have := hread.offset_eq
    have := hread'.offset_eq
    omega
  -- The other would be the same and end at the code, where no edge of a word is.
  have hword : k.word = k'.word :=
    word_eq_of_zoneStart (hread.rest_eq.symm.trans hread'.rest_eq) hzone hsize
  obtain rfl : d = e := hread'.eq_of_reads (hword ▸ hread)
  -- Both the last character and the first of the code are parts of words.
  obtain ⟨w, ch, hw, hch⟩ := exists_last_isWord hlast
  have hbefore : d.before = some ch := by
    rw [hread.before_eq, hw]
    simp
  match hrest : d.rest, hzone with
  | z :: z' :: v, hzone =>
    have hz : Word.isWord z = true :=
      Word.isWord_of_mem (s := capitalSet) (by decide) (Bool.and_eq_true_iff.mp hzone).1
    have hne : (d.before.any Word.isWord != d.rest.head?.any Word.isWord) = true := hedge
    rw [hbefore, hrest] at hne
    simp [hch, hz] at hne

/-- Between the first letter of a time of day and its half of the day there is no `a`. -/
theorem exists_after_signs {w rest : List Char} {a : Char} (h : k.word ++ v = w ++ a :: rest)
    (hne : w ≠ []) (ha : (letterSet 'a').mem a = true) :
    ∃ x, w = k.lead ++ k.signs ++ x ∧ k.half ++ v = x ++ a :: rest := by
  have hbefore : ∀ ch ∈ k.t :: k.blank :: k.signs, (letterSet 'a').mem ch = false := by
    intro ch hch
    rcases List.mem_cons.mp hch with rfl | hch
    · exact CharSet.mem_eq_false_of_inter (by decide) k.t_mem
    rcases List.mem_cons.mp hch with rfl | hch
    · exact CharSet.mem_eq_false_of_inter (by decide) k.blank_mem
    · exact CharSet.mem_eq_false_of_inter (by decide) (k.mem_signSet_of_mem_signs ch hch)
  match w, hne with
  | a' :: w, _ =>
    have hcons : k.a :: ((k.t :: k.blank :: k.signs) ++ (k.half ++ v)) =
        a' :: (w ++ a :: rest) := by
      simpa [word, lead] using h
    obtain ⟨rfl, hrest⟩ := List.cons.inj hcons
    -- The `a` stands after the signs, or it would be one of them.
    rcases List.append_eq_append_iff.mp hrest with ⟨x, rfl, hx⟩ | ⟨y, hy, htail⟩
    · exact ⟨x, by simp [lead], hx⟩
    · cases y with
      | nil => exact ⟨[], by simpa [lead] using hy.symm, htail.symm⟩
      | cons a' y =>
        obtain ⟨rfl, -⟩ := List.cons.inj htail
        have hmem : a ∈ k.t :: k.blank :: k.signs := by
          rw [hy]
          simp
        rw [hbefore a hmem] at ha
        cases ha

/-- No word "at" starts in a half of the day. -/
theorem not_at_in_half {x : List Char} {a t : Char} (h : k.half ++ v = x ++ a :: t :: v')
    (hlt : x.length < k.half.length) (ha : (letterSet 'a').mem a = true) :
    (letterSet 't').mem t = false := by
  rcases k.half_cases with hnil | ⟨b, m, hletters, -, hm⟩
  · rw [hnil] at hlt
    cases hlt
  · rw [hletters] at h hlt
    match x, h, hlt with
    -- The first letter of the half of the day is the `a`, but an `m` follows it.
    | [], h, _ =>
      obtain ⟨rfl, -⟩ := List.cons.inj (List.cons.inj h).2
      exact CharSet.mem_eq_false_of_inter (by decide) hm
    -- The second one is, but it is an `m`.
    | [_], h, _ =>
      obtain ⟨rfl, -⟩ := List.cons.inj (List.cons.inj h).2
      have hnot : (letterSet 'a').mem m = false :=
        CharSet.mem_eq_false_of_inter (by decide) hm
      rw [hnot] at ha
      cases ha
    | _ :: _ :: x, _, hlt =>
      simp only [List.length_cons, List.length_nil] at hlt
      omega

/-- No word "at" stands inside a time of day. -/
theorem not_at_inside {w : List Char} {a t : Char} (h : k.word ++ v = w ++ a :: t :: v')
    (hne : w ≠ []) (hlt : w.length < k.word.length) (ha : (letterSet 'a').mem a = true) :
    (letterSet 't').mem t = false := by
  -- The word would have to start with a letter of the half of the day.
  obtain ⟨x, rfl, hhalf⟩ := exists_after_signs h hne ha
  simp only [word, List.length_append] at hlt
  exact not_at_in_half hhalf (by omega) ha

end Clock

end Timephrase.English
