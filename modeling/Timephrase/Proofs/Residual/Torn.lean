import Timephrase.Proofs.Residual.Words
import Timephrase.Proofs.Text.Decoding

/-!
# Characters that come of torn ones

Spans that start or stop inside a character leave bytes of it that are no character.  Mostly such
bytes are replaced.  But if bytes are taken out from inside one character to inside another, what is
left of the two stands together, and may be a third character that the text has nowhere.

## Main definitions

* `Residual.Tears`: bytes are taken out from inside a character to inside a character

## Main results

* `Residual.exists_gap`: bytes that are left together stood together, or there was a gap
* `Residual.mem_residual_iff`: the characters of a residual text
* `Residual.residual_invents_where_torn`: a character that the text does not have comes of torn ones
-/

namespace Timephrase

open String (utf8EncodeChar)

/-! ## Boundaries among bytes -/

namespace Utf8

variable {cs : List Char} {xs ys tail : List UInt8} {b lead : UInt8}

/-- At a boundary the bytes are those of the characters before it and those of the others. -/
theorem exists_encode_of_isBoundary (h : IsBoundary cs xs.length) (hbytes : encode cs = xs ++ ys) :
    ∃ u v, cs = u ++ v ∧ encode u = xs ∧ encode v = ys := by
  obtain ⟨u, v, rfl, hsize⟩ := h
  have hboth : encode u ++ encode v = xs ++ ys := by
    rw [← hbytes, encode, encode, encode, List.flatMap_append]
  obtain ⟨hu, hv⟩ := List.append_inj hboth (by rw [length_encode, hsize])
  exact ⟨u, v, rfl, hu, hv⟩

/-- No character starts at a byte that goes on one. -/
theorem not_isBoundary_of_isTail (hbytes : encode cs = xs ++ b :: ys) (hb : IsTail b) :
    ¬ IsBoundary cs xs.length := by
  intro h
  obtain ⟨u, v, -, -, hv⟩ := exists_encode_of_isBoundary h hbytes
  cases v with
  | nil => cases hv
  | cons c v =>
    obtain ⟨lead, tail, hc, hlead, -, -⟩ := exists_encodeChar_eq c
    rw [encode_cons, hc] at hv
    obtain ⟨rfl, -⟩ := List.cons.inj hv
    exact hlead hb

/-- The bytes from the last first byte on are those of the last character. -/
theorem length_eq_width (hbytes : encode cs = xs ++ lead :: tail) (hlead : ¬ IsTail lead)
    (htail : ∀ b ∈ tail, IsTail b) : tail.length + 1 = width lead := by
  rcases List.eq_nil_or_concat cs with rfl | ⟨u, c, rfl⟩
  · exact absurd hbytes (by simp [encode])
  obtain ⟨lead', tail', hc, hlead', htail', hwidth⟩ := exists_encodeChar_eq c
  have hsplit : encode u ++ lead' :: tail' = xs ++ lead :: tail := by
    rw [← hbytes, ← hc]
    simp [encode]
  -- Neither of the two first bytes is one of the bytes after the other.
  have hsame : lead' :: tail' = lead :: tail := by
    rcases List.append_eq_append_iff.mp hsplit with ⟨zs, -, hzs⟩ | ⟨zs, -, hzs⟩
    · cases zs with
      | nil => exact hzs
      | cons z zs =>
        obtain ⟨-, rfl⟩ := List.cons.inj hzs
        exact absurd (htail' lead (by simp)) hlead
    · cases zs with
      | nil => exact hzs.symm
      | cons z zs =>
        obtain ⟨-, rfl⟩ := List.cons.inj hzs
        exact absurd (htail lead' (by simp)) hlead'
  obtain ⟨rfl, rfl⟩ := List.cons.inj hsame
  rw [hwidth, hc, List.length_cons]

end Utf8

namespace Residual

variable {spans : List Span} {text : String} {c : Char} {b : UInt8} {bs xs ys w : List UInt8}
  {i j : Nat}

/-! ## Gaps -/

/-- What is left of bytes is left of two parts of them. -/
theorem exists_of_kept_eq_append (h : kept spans i bs = xs ++ ys) :
    ∃ us vs, bs = us ++ vs ∧ kept spans i us = xs ∧ kept spans (i + us.length) vs = ys := by
  induction bs generalizing i xs with
  | nil =>
    obtain ⟨rfl, rfl⟩ := List.append_eq_nil_iff.mp h.symm
    exact ⟨[], [], rfl, rfl, rfl⟩
  | cons b bs ih =>
    cases xs with
    | nil => exact ⟨[], b :: bs, rfl, rfl, h⟩
    | cons x xs =>
      have hplace : ∀ n, i + (n + 1) = i + 1 + n := fun n => by omega
      rw [kept] at h
      -- A covered byte before the next one that is left goes with the first part.
      split at h
      · next hcovered =>
        obtain ⟨us, vs, rfl, hus, hvs⟩ := ih h
        refine ⟨b :: us, vs, rfl, ?_, ?_⟩
        · rw [kept, if_pos hcovered, hus]
        · rw [List.length_cons, hplace, hvs]
      · next hcovered =>
        obtain ⟨rfl, htail⟩ := List.cons.inj h
        obtain ⟨us, vs, rfl, rfl, hvs⟩ := ih htail
        refine ⟨b :: us, vs, rfl, ?_, ?_⟩
        · rw [kept, if_neg hcovered]
        · rw [List.length_cons, hplace, hvs]

/-- The first byte that is left is the first that no span covers. -/
theorem exists_of_kept_eq_cons (h : kept spans i bs = b :: ys) :
    ∃ gap rest, bs = gap ++ b :: rest ∧
      (∀ k, i ≤ k → k < i + gap.length → ∃ s ∈ spans, s.Covers k) ∧
      (¬ ∃ s ∈ spans, s.Covers (i + gap.length)) ∧
      kept spans (i + gap.length + 1) rest = ys := by
  induction bs generalizing i with
  | nil => cases h
  | cons b' bs ih =>
    rw [kept] at h
    split at h
    · next hcovered =>
      obtain ⟨gap, rest, rfl, hgap, hb, hrest⟩ := ih h
      have hplace : i + (b' :: gap).length = i + 1 + gap.length := by
        rw [List.length_cons]
        omega
      refine ⟨b' :: gap, rest, rfl, fun k hle hlt => ?_, by rwa [hplace], by rwa [hplace]⟩
      rcases Nat.eq_or_lt_of_le hle with rfl | hlt'
      · simpa using hcovered
      · exact hgap k hlt' (by omega)
    · next hcovered =>
      obtain ⟨rfl, hrest⟩ := List.cons.inj h
      refine ⟨[], bs, rfl, fun k hle hlt => absurd hlt (Nat.not_lt.mpr hle), ?_, hrest⟩
      simpa using hcovered

/-- **Bytes that are left together** stood together, or there was a gap: some of them, then bytes
that spans cover, then the next of them. -/
theorem exists_gap (h : kept spans i bs = w ++ ys) :
    w <+: bs ∨ ∃ w₁ b w₂ gap rest, w = w₁ ++ b :: w₂ ∧ bs = w₁ ++ gap ++ b :: rest ∧ gap ≠ [] ∧
      (∀ k, i ≤ k → k < i + w₁.length → ¬ ∃ s ∈ spans, s.Covers k) ∧
      (∀ k, i + w₁.length ≤ k → k < i + w₁.length + gap.length → ∃ s ∈ spans, s.Covers k) ∧
      ¬ ∃ s ∈ spans, s.Covers (i + w₁.length + gap.length) := by
  induction w generalizing i bs with
  | nil => exact Or.inl List.nil_prefix
  | cons a w ih =>
    obtain ⟨gap, rest, rfl, hgap, ha, hrest⟩ := exists_of_kept_eq_cons h
    -- Covered bytes before the first byte are the gap; else it lies further on, if there is one.
    cases gap with
    | cons b gap =>
      exact Or.inr ⟨[], a, w, b :: gap, rest, rfl, rfl, by simp, fun k hle hlt =>
        absurd hlt (Nat.not_lt.mpr hle), hgap, ha⟩
    | nil =>
      rw [List.length_nil, Nat.add_zero] at ha hrest
      rcases ih hrest with hprefix | ⟨w₁, b, w₂, gap, rest', rfl, rfl, hne, hleft, hgap', hb⟩
      · exact Or.inl ((List.prefix_append_right_inj [a]).mpr hprefix)
      · have hplace : i + (a :: w₁).length = i + 1 + w₁.length := by
          rw [List.length_cons]
          omega
        refine Or.inr ⟨a :: w₁, b, w₂, gap, rest', rfl, rfl, hne, fun k hle hlt => ?_,
          by rwa [hplace], by rwa [hplace]⟩
        rcases Nat.eq_or_lt_of_le hle with rfl | hlt'
        · exact ha
        · exact hleft k hlt' (by omega)

/-! ## Torn characters -/

/-- Spans take out the bytes of a text from position `i` to position `j`, and neither the byte
before nor the one after.  They start inside a character and stop inside a character. -/
structure Tears (spans : List Span) (text : String) (i j : Nat) : Prop where
  lt : i < j
  covered : ∀ k, i ≤ k → k < j → ∃ s ∈ spans, s.Covers k
  before : 0 < i ∧ ¬ ∃ s ∈ spans, s.Covers (i - 1)
  after : j < Utf8.size text.toList ∧ ¬ ∃ s ∈ spans, s.Covers j
  start : ¬ Utf8.IsBoundary text.toList i
  stop : ¬ Utf8.IsBoundary text.toList j

/-- The characters of a residual text, besides spaces, are those that its bytes are read as and that
are not blank. -/
theorem mem_residual_iff_mem_decode (hspace : c ≠ ' ') :
    c ∈ (residual text spans).toList ↔
      Blank.isBlank c = false ∧ c ∈ Utf8.decode (kept spans 0 (Utf8.encode text.toList)) := by
  have hordered := Blank.filter_ordered (Utf8.decode (kept spans 0 (Utf8.encode text.toList)))
  have hmem := congrArg (c ∈ ·) hordered
  rw [residual, String.toList_ofList]
  simpa [hspace, and_comm] using hmem

/-- **The characters of a residual text**, besides spaces and replacement characters: those that are
not blank and whose bytes are left next to each other. -/
theorem mem_residual_iff (hspace : c ≠ ' ') (hne : c ≠ Utf8.replacement) :
    c ∈ (residual text spans).toList ↔
      Blank.isBlank c = false ∧ utf8EncodeChar c <:+: kept spans 0 (Utf8.encode text.toList) := by
  rw [mem_residual_iff_mem_decode hspace, Utf8.mem_decode_iff hne]

/-- Bytes of a character that stand next to each other in a text are the character. -/
theorem mem_of_stood (hne : c ≠ Utf8.replacement)
    (h : utf8EncodeChar c <:+: Utf8.encode text.toList) : c ∈ text.toList := by
  rw [← Utf8.mem_decode_iff hne, Utf8.decode_encode] at h
  exact h

/-- Bytes are torn out if they are taken from between the first bytes of a character, which need
more of them, and a byte that goes on one. -/
theorem tears_of_taken {front seen gap rest : List UInt8} {lead b : UInt8}
    (hbytes : Utf8.encode text.toList = front ++ lead :: seen ++ gap ++ b :: rest)
    (hlead : ¬ Utf8.IsTail lead) (hseen : ∀ b ∈ seen, Utf8.IsTail b)
    (hfew : seen.length + 1 < Utf8.width lead) (hb : Utf8.IsTail b) (hgap : gap ≠ [])
    (hbefore : ¬ ∃ s ∈ spans, s.Covers (front.length + seen.length))
    (hcovered : ∀ k, front.length + 1 + seen.length ≤ k →
      k < front.length + 1 + seen.length + gap.length → ∃ s ∈ spans, s.Covers k)
    (hafter : ¬ ∃ s ∈ spans, s.Covers (front.length + 1 + seen.length + gap.length)) :
    Tears spans text (front.length + 1 + seen.length)
      (front.length + 1 + seen.length + gap.length) := by
  have hlength : 0 < gap.length := List.length_pos_iff.mpr hgap
  have hi : (front ++ lead :: seen).length = front.length + 1 + seen.length := by
    rw [List.length_append, List.length_cons]
    omega
  have hj : (front ++ lead :: seen ++ gap).length =
      front.length + 1 + seen.length + gap.length := by
    rw [List.length_append, hi]
  have hplace : front.length + 1 + seen.length - 1 = front.length + seen.length := by omega
  refine ⟨by omega, hcovered, ⟨by omega, by rwa [hplace]⟩, ⟨?_, hafter⟩, ?_, ?_⟩
  · rw [← Utf8.length_encode, hbytes, List.length_append, hj, List.length_cons]
    omega
  · -- A boundary would make the first bytes a character, but there are too few.
    intro hboundary
    rw [List.append_assoc] at hbytes
    rw [← hi] at hboundary
    obtain ⟨u, v, -, hu, -⟩ := Utf8.exists_encode_of_isBoundary hboundary hbytes
    have hwidth := Utf8.length_eq_width hu hlead hseen
    omega
  · rw [← hj]
    exact Utf8.not_isBoundary_of_isTail hbytes hb

/-- The bytes of a character that are left, but stood nowhere together, are left of torn ones. -/
theorem exists_tears (hleft : utf8EncodeChar c <:+: kept spans 0 (Utf8.encode text.toList))
    (hnone : ¬ utf8EncodeChar c <:+: Utf8.encode text.toList) : ∃ i j, Tears spans text i j := by
  obtain ⟨lead, tail, hc, hlead, htail, hwidth⟩ := Utf8.exists_encodeChar_eq c
  rw [hc] at hleft hnone hwidth
  obtain ⟨xs, ys, hkept⟩ := hleft
  rw [List.append_assoc] at hkept
  obtain ⟨us, vs, hbytes, -, hvs⟩ := exists_of_kept_eq_append hkept.symm
  -- From the first byte of the character on.
  obtain ⟨gap, rest, rfl, -, hfirst, hrest⟩ := exists_of_kept_eq_cons hvs
  have hplace : 0 + us.length + gap.length = (us ++ gap).length := by
    rw [List.length_append, Nat.zero_add]
  rw [hplace] at hfirst hrest
  have hall : Utf8.encode text.toList = us ++ gap ++ lead :: rest := by
    rw [hbytes, List.append_assoc]
  rcases exists_gap hrest with hprefix |
    ⟨seen, b, more, gap', rest', rfl, rfl, hgap, hleft, hcovered, hb⟩
  · obtain ⟨zs, rfl⟩ := hprefix
    exact absurd ⟨us ++ gap, zs, by rw [hall, List.append_assoc, List.cons_append]⟩ hnone
  have hstop : Utf8.encode text.toList = us ++ gap ++ lead :: seen ++ gap' ++ b :: rest' := by
    simp [hall]
  have hfew : seen.length + 1 < Utf8.width lead := by
    rw [hwidth, List.length_cons, List.length_append, List.length_cons]
    omega
  have hbefore : ¬ ∃ s ∈ spans, s.Covers ((us ++ gap).length + seen.length) := by
    rcases Nat.eq_zero_or_pos seen.length with hzero | hpos
    · rwa [hzero]
    · exact hleft _ (by omega) (by omega)
  exact ⟨_, _, tears_of_taken hstop hlead (fun b hb => htail b (by simp [hb])) hfew
    (htail b (by simp)) hgap hbefore hcovered hb⟩

/-- **A residual text has a new character only where others are torn.**  Besides spaces and
replacement characters it has the characters that are not blank and whose bytes are left next to
each other.  If the text itself does not have such a character, then spans take out bytes from
inside one of its characters to inside one, and the bytes on both sides are left. -/
theorem residual_invents_where_torn (hspace : c ≠ ' ') (hne : c ≠ Utf8.replacement) :
    (c ∈ (residual text spans).toList ↔
      Blank.isBlank c = false ∧ utf8EncodeChar c <:+: kept spans 0 (Utf8.encode text.toList)) ∧
    (c ∈ (residual text spans).toList → c ∈ text.toList ∨ ∃ i j, Tears spans text i j) := by
  refine ⟨mem_residual_iff hspace hne, fun hmem => ?_⟩
  have hleft := ((mem_residual_iff hspace hne).mp hmem).2
  by_cases hstood : utf8EncodeChar c <:+: Utf8.encode text.toList
  · exact Or.inl (mem_of_stood hne hstood)
  · exact Or.inr (exists_tears hleft hstood)

/-- What is left of `é` and `Ā`, without the second byte of the one and the first of the other, is
`À`. -/
theorem residual_invents_a_grave :
    'À' ≠ ' ' ∧ 'À' ≠ Utf8.replacement ∧ 'À' ∉ "éĀ".toList ∧ residual "éĀ" [⟨1, 3⟩] = "À" ∧
      ∃ i j, Tears [⟨1, 3⟩] "éĀ" i j := by
  have hleft : residual "éĀ" [⟨1, 3⟩] = "À" := by decide +kernel
  have hmem : 'À' ∈ (residual "éĀ" [⟨1, 3⟩]).toList := by
    rw [hleft]
    decide
  have hnew : 'À' ∉ "éĀ".toList := by decide
  exact ⟨by decide, by decide, hnew, hleft,
    ((residual_invents_where_torn (by decide) (by decide)).2 hmem).resolve_left hnew⟩

end Residual

end Timephrase
