import Timephrase.Proofs.Calendar.Sum
import Timephrase.Proofs.English.Length
import Timephrase.Proofs.English.UnitWord
import Timephrase.Proofs.Run.Halves

/-!
# Lengths of time add up

The rule for lengths of time adds the length of every phrase to the duration.  No length is
negative.  So it does not matter in which order the phrases come, even where their lengths are too
much for a duration.

## Main definitions

* `English.length?`: the length of a phrase
* `English.totalLength`: the lengths of phrases together
* `English.phrases`: the captures of a rule in a text
* `English.IsLengthPhrase`: captures of the rule whose amount and unit are understood

## Main results

* `English.IsLengthPhrase.lengthAdded_eq`: what a phrase does to the duration
* `English.foldlM_lengthAdded`: what phrases one after another do
* `English.duration_of_run`: the duration that a run answers
* `English.lengths_add_up`: phrases in any order, and the phrases of a text
-/

namespace Timephrase.English

open Pattern

variable {context : Context} {mode : MatchMode} {text : String} {c : Captures}
  {cs cs' : List Captures} {d d' l : Duration} {x : Binary64} {grain : Grain}

/-- The length of a phrase such as "for 2 hours": its amount times its unit, where that is a
duration. -/
def length? (c : Captures) : Option Duration :=
  match amount c, unit c with
  | .ok amount, .ok grain => grain.fixedLength?.bind (Duration.scaled? amount)
  | _, _ => none

/-- The lengths of phrases together, in nanoseconds. -/
def totalLength (cs : List Captures) : Int := Duration.total (cs.filterMap length?)

theorem length?_eq (hx : amount c = .ok x) (hgrain : unit c = .ok grain) :
    length? c = grain.fixedLength?.bind (Duration.scaled? x) := by
  simp only [length?, hx, hgrain]

theorem totalLength_of_perm (h : cs.Perm cs') : totalLength cs = totalLength cs' :=
  Duration.total_of_perm (h.filterMap length?)

/-! ## One phrase -/

/-- The length of a phrase is added, unless it has none. -/
theorem lengthAdded_eq_inRange (hx : amount c = .ok x) (hgrain : unit c = .ok grain) :
    lengthAdded d c = inRange c ((length? c).bind d.add?) := by
  rw [lengthAdded, hx, hgrain, length?_eq hx hgrain, Option.bind_assoc]
  rfl

/-- A phrase that could be added has a length, by which the duration has grown. -/
theorem exists_length_of_lengthAdded (h : lengthAdded d c = .ok d') :
    ∃ l, length? c = some l ∧ d'.nanos = d.nanos + l.nanos := by
  obtain ⟨x, hx, hrest⟩ := exists_of_bind_eq_ok h
  obtain ⟨grain, hgrain, -⟩ := exists_of_bind_eq_ok hrest
  rw [lengthAdded_eq_inRange hx hgrain] at h
  obtain ⟨l, hl, hsum⟩ := Option.bind_eq_some_iff.mp (inRange_eq_ok_iff.mp h)
  exact ⟨l, hl, Duration.nanos_of_checked? hsum⟩

/-- Captures of a rule with an amount, in some text: their unit is in ASCII, and their amount writes
a number. -/
structure IsLengthPhrase (rule : Rule) (c : Captures) : Prop where
  found : ∃ text, ∃ m ∈ rule.pattern.findAll text, c = .ofMatch rule.name rule.pattern text m
  ascii : ∀ ch ∈ (c.text "unit").toList, ch.toNat < 128
  number : ∃ x, Captures.float (c.text "amount") = .ok x

namespace IsLengthPhrase

/-- The amount of a phrase is a number without a minus sign, and its unit has a fixed length. -/
theorem exists_amount (h : IsLengthPhrase durationRule c) : ∃ x grain unit,
    amount c = .ok x ∧ x.IsUnsigned ∧ English.unit c = .ok grain ∧
      grain.fixedLength? = some unit := by
  obtain ⟨⟨text, m, hm, rfl⟩, hascii, x, hx⟩ := h
  obtain ⟨written, hne, hchars, -, hget⟩ := exists_amount_of_mem_findAll durationRule.name
    indices_fixedUnits hm
  obtain ⟨word, hword, hgrain⟩ :=
    (unitsUnderstood_duration text).exists_word_of_ascii hm hascii
  have hfixed : ∀ word ∈ unitWords fixedUnits, word.2.fixedLength?.isSome = true := by decide
  obtain ⟨unit, hunit⟩ := Option.isSome_iff_exists.mp (hfixed word hword)
  have htext : (Captures.ofMatch durationRule.name durationRule.pattern text m).text "amount" =
      written := Captures.text_of_get? hget
  rw [htext] at hx
  refine ⟨x, word.2, unit, amount_eq_ok hne hx htext, ?_, hgrain, hunit⟩
  -- A minus sign is neither a digit nor a point.
  have hminus : written.toList.head? ≠ some '-' := fun hhead => by
    rcases hchars '-' (List.mem_of_mem_head? hhead) with hdigit | hpoint
    · exact absurd hdigit (by decide)
    · exact absurd hpoint (by decide)
  rw [Captures.float] at hx
  split at hx
  · next hnumber =>
    obtain rfl := Except.ok.inj hx
    exact Binary64.isUnsigned_of_ofText? hminus hnumber
  · cases hx

theorem rule_eq (h : IsLengthPhrase durationRule c) : c.rule = "duration" := by
  obtain ⟨⟨text, m, -, rfl⟩, -, -⟩ := h
  rfl

/-- A length is not negative. -/
theorem nonneg_length (h : IsLengthPhrase durationRule c) (hl : length? c = some l) :
    0 ≤ l.nanos := by
  obtain ⟨x, grain, unit, hx, hsign, hgrain, hunit⟩ := h.exists_amount
  obtain ⟨u, hu, -, -⟩ := Grain.exists_nanos hunit
  rw [length?_eq hx hgrain, hunit, Option.bind_some] at hl
  exact Duration.nonneg_of_scaled? hsign (hu ▸ Int.natCast_nonneg u) hl

/-- **What a phrase does to the duration**: it adds its length if there is one and the sum is not too
large, and is out of range otherwise. -/
theorem lengthAdded_eq (h : IsLengthPhrase durationRule c) (hd : 0 ≤ d.nanos) :
    lengthAdded d c = match length? c with
      | none => .error (.outOfRange "duration")
      | some l =>
        if d.nanos + l.nanos ≤ Duration.limit then .ok ⟨d.nanos + l.nanos⟩
        else .error (.outOfRange "duration") := by
  obtain ⟨x, grain, -, hx, -, hgrain, -⟩ := h.exists_amount
  rw [lengthAdded_eq_inRange hx hgrain, ← h.rule_eq]
  cases hl : length? c with
  | none => rfl
  | some l =>
    rw [Option.bind_some, Duration.add?_of_nonneg hd (h.nonneg_length hl)]
    dsimp only
    split <;> rfl

end IsLengthPhrase

/-! ## Phrases one after another -/

theorem totalLength_nonneg (h : ∀ c ∈ cs, IsLengthPhrase durationRule c) :
    0 ≤ totalLength cs := by
  refine Duration.total_nonneg fun l hl => ?_
  obtain ⟨c, hc, hl⟩ := List.mem_filterMap.mp hl
  exact (h c hc).nonneg_length hl

theorem totalLength_cons (hl : length? c = some l) :
    totalLength (c :: cs) = l.nanos + totalLength cs := by
  rw [totalLength, List.filterMap_cons_some hl, Duration.total_cons]
  rfl

/-- **What phrases one after another do to the duration**: they add up if all of them have lengths
and the sum is not too large, and are out of range otherwise. -/
theorem foldlM_lengthAdded (h : ∀ c ∈ cs, IsLengthPhrase durationRule c) (hd : 0 ≤ d.nanos)
    (hle : d.nanos ≤ Duration.limit) :
    cs.foldlM lengthAdded d =
      if (∃ c ∈ cs, length? c = none) ∨ Duration.limit < d.nanos + totalLength cs then
        .error (.outOfRange "duration")
      else .ok ⟨d.nanos + totalLength cs⟩ := by
  -- On the phrases, with any duration so far that is not negative: once a sum is too large, it stays
  -- so, since nothing that comes after is negative.
  induction cs generalizing d with
  | nil =>
    have hzero : d.nanos + totalLength [] = d.nanos := Int.add_zero _
    have hfits : ¬((∃ c ∈ [], length? c = none) ∨ Duration.limit < d.nanos) := by
      rintro (⟨c, hc, -⟩ | hlt)
      · cases hc
      · omega
    rw [hzero, if_neg hfits]
    rfl
  | cons c cs ih =>
    have hcs : ∀ c ∈ cs, IsLengthPhrase durationRule c :=
      fun c hc => h c (List.mem_cons_of_mem _ hc)
    have hc := h c List.mem_cons_self
    have hrest := totalLength_nonneg hcs
    rw [List.foldlM_cons, hc.lengthAdded_eq hd]
    cases hl : length? c with
    | none =>
      rw [if_pos (Or.inl ⟨c, List.mem_cons_self, hl⟩)]
      rfl
    | some l =>
      have hnonneg := hc.nonneg_length hl
      have hsum : totalLength (c :: cs) = l.nanos + totalLength cs := totalLength_cons hl
      have hnone : (∃ c' ∈ c :: cs, length? c' = none) ↔ ∃ c' ∈ cs, length? c' = none := by
        simp [hl]
      dsimp only
      by_cases hfits : d.nanos + l.nanos ≤ Duration.limit
      · have hassoc : d.nanos + totalLength (c :: cs) = d.nanos + l.nanos + totalLength cs := by
          omega
        rw [if_pos hfits, hassoc]
        refine (ih hcs (by dsimp only; omega) hfits).trans ?_
        exact if_congr (or_congr hnone.symm Iff.rfl) rfl rfl
      · rw [if_neg hfits, if_pos (Or.inr (by omega))]
        rfl

/-- Phrases in any order come to the same, whether that is a duration or out of range. -/
theorem foldlM_lengthAdded_of_perm (h : ∀ c ∈ cs, IsLengthPhrase durationRule c)
    (hperm : cs'.Perm cs) :
    cs'.foldlM lengthAdded .zero =
      if (∃ c ∈ cs, length? c = none) ∨ Duration.limit < totalLength cs then
        .error (.outOfRange "duration")
      else .ok ⟨totalLength cs⟩ := by
  have h' : ∀ c ∈ cs', IsLengthPhrase durationRule c := fun c hc => h c (hperm.mem_iff.mp hc)
  have hzero : Duration.zero.nanos + totalLength cs' = totalLength cs := by
    rw [totalLength_of_perm hperm]
    exact Int.zero_add _
  have hnone : (∃ c ∈ cs', length? c = none) ↔ ∃ c ∈ cs, length? c = none :=
    exists_congr fun c => and_congr_left' hperm.mem_iff
  have hfold := foldlM_lengthAdded (d := .zero) h' (Int.le_refl 0) (by decide)
  rw [hfold, hzero]
  exact if_congr (or_congr hnone Iff.rfl) rfl rfl

/-- Phrases that could be added all have lengths, by which the duration has grown. -/
theorem nanos_of_foldlM_lengthAdded (h : cs.foldlM lengthAdded d = .ok d') :
    (∀ c ∈ cs, ∃ l, length? c = some l) ∧ d'.nanos = d.nanos + totalLength cs := by
  induction cs generalizing d with
  | nil =>
    obtain rfl := Except.ok.inj h
    exact ⟨List.forall_mem_nil _, (Int.add_zero _).symm⟩
  | cons c cs ih =>
    rw [List.foldlM_cons] at h
    obtain ⟨e, he, hrest⟩ := exists_of_bind_eq_ok h
    obtain ⟨l, hl, hsum⟩ := exists_length_of_lengthAdded he
    obtain ⟨hlengths, htotal⟩ := ih hrest
    refine ⟨List.forall_mem_cons.mpr ⟨⟨l, hl⟩, hlengths⟩, ?_⟩
    rw [htotal, hsum, totalLength_cons hl, Int.add_assoc]

/-- The duration never decreases from phrase to phrase, and is never negative. -/
theorem le_of_lengthAdded {before : List Captures}
    (h : ∀ c ∈ before, IsLengthPhrase durationRule c) (hc : IsLengthPhrase durationRule c)
    (hbefore : before.foldlM lengthAdded .zero = .ok d) (hd : lengthAdded d c = .ok d') :
    0 ≤ d.nanos ∧ d.nanos ≤ d'.nanos := by
  obtain ⟨-, hsum⟩ := nanos_of_foldlM_lengthAdded hbefore
  obtain ⟨l, hl, hgrown⟩ := exists_length_of_lengthAdded hd
  have hnonneg := totalLength_nonneg h
  have hlength := hc.nonneg_length hl
  have hzero : Duration.zero.nanos = 0 := rfl
  omega

/-! ## The phrases of a text -/

/-- The captures of the matches that count of a rule in a text. -/
def phrases (rule : Rule) (mode : MatchMode) (text : String) : List Captures :=
  (rule.matchesIn mode text).map (.ofMatch rule.name rule.pattern text)

theorem only_duration : catalogRead.only .duration = ⟨[durationRule]⟩ := rfl

theorem isDue_duration : durationRule.isDue text = hasDigit text :=
  (Bool.true_and _).trans includes_digits

/-- In a text without digits no phrase has an amount. -/
theorem amount_ne_ok_of_noDigit (hdigit : hasDigit text = false)
    (hc : c ∈ phrases durationRule mode text) (x : Binary64) : amount c ≠ .ok x := by
  obtain ⟨m, hm, rfl⟩ := List.mem_map.mp hc
  obtain ⟨value, hvalue⟩ := amount_eq_error_of_noDigits durationRule.name indices_fixedUnits
    (noDigit_of_hasDigit_eq_false hdigit) (Rule.mem_findAll_of_mem_matchesIn hm)
  exact fun hx => nomatch hvalue.symm.trans hx

theorem length?_eq_none_of_amount (h : ∀ x, amount c ≠ .ok x) : length? c = none := by
  rw [length?]
  split
  · next hx _ => exact absurd hx (h _)
  · rfl

/-- The phrases that a run adds up: all that count, unless the rule is passed over. -/
theorem foldlM_phrases_of_run {tally : Tally}
    (h : catalogRead.run context mode text = .ok tally) :
    (if hasDigit text then phrases durationRule mode text else []).foldlM lengthAdded .zero =
      .ok tally.duration := by
  obtain ⟨hsteps, -⟩ := Catalog.run_eq_ok_iff_foldlM.mp h
  obtain ⟨-, hsteps⟩ := (Step.foldlM_rewrite_eq_ok_iff context.today .zero).mp hsteps
  rw [← Catalog.steps_only, only_duration, Catalog.steps, List.filter_cons, isDue_duration] at hsteps
  split
  · next hdigit =>
    rw [if_pos hdigit, List.filter_nil, List.flatMap_singleton,
      Step.foldlM_rewrite_of_duration rfl] at hsteps
    obtain ⟨d, hd, hpair⟩ := exists_of_map_eq_ok hsteps
    rw [← (Prod.mk.inj hpair).2]
    exact hd
  · next hdigit =>
    rw [if_neg hdigit] at hsteps
    rw [← (Prod.mk.inj (Except.ok.inj hsteps)).2]
    rfl

/-- **The duration that a run answers** is the sum of the lengths of the phrases in the text, of
which all with an amount have one. -/
theorem duration_of_run {tally : Tally} (h : catalogRead.run context mode text = .ok tally) :
    tally.duration = ⟨totalLength (phrases durationRule mode text)⟩ ∧
      ∀ c ∈ phrases durationRule mode text, ∀ x, amount c = .ok x → ∃ l, length? c = some l := by
  have hfold := foldlM_phrases_of_run h
  cases hdigit : hasDigit text with
  | true =>
    rw [hdigit, if_pos rfl] at hfold
    obtain ⟨hlengths, hsum⟩ := nanos_of_foldlM_lengthAdded hfold
    exact ⟨congrArg Duration.mk (hsum.trans (Int.zero_add _)), fun c hc _ _ => hlengths c hc⟩
  | false =>
    -- The rule is passed over, but then its phrases have no lengths to add.
    rw [hdigit, if_neg Bool.false_ne_true] at hfold
    have hnone : (phrases durationRule mode text).filterMap length? = [] :=
      List.filterMap_eq_nil_iff.mpr fun c hc =>
        length?_eq_none_of_amount (amount_ne_ok_of_noDigit hdigit hc)
    refine ⟨?_, fun c hc x hx => absurd hx (amount_ne_ok_of_noDigit hdigit hc x)⟩
    rw [← Except.ok.inj hfold, totalLength, hnone]
    rfl

/-- **Lengths of time add up in any order.**  Take any phrases with their units in ASCII whose
amounts are numbers; each has for its length the amount times the unit, if that is a duration.  In
whatever order they are added to no time at all, they are out of range just if some phrase has no
length or the sum is more than the longest duration, and come to the sum of their lengths otherwise.
On the way the duration never decreases and is never negative.  So the duration that a parse of a
text answers is the sum of the lengths of the phrases in it, of which all with an amount have
one. -/
theorem lengths_add_up : ∃ rule f, duration = .ok rule ∧ rule.meaning = .duration f ∧
    (∀ c, IsLengthPhrase rule c → ∃ x grain length, amount c = .ok x ∧ unit c = .ok grain ∧
      grain.fixedLength? = some length ∧ length? c = Duration.scaled? x length) ∧
    (∀ cs : List Captures, (∀ c ∈ cs, IsLengthPhrase rule c) →
      (∀ cs' : List Captures, cs'.Perm cs → cs'.foldlM f .zero =
        if (∃ c ∈ cs, length? c = none) ∨ Duration.limit < totalLength cs then
          .error (.outOfRange "duration")
        else .ok ⟨totalLength cs⟩) ∧
      ∀ before c after d d', cs = before ++ c :: after → before.foldlM f .zero = .ok d →
        f d c = .ok d' → 0 ≤ d.nanos ∧ d.nanos ≤ d'.nanos) ∧
    ∃ c, catalog = .ok c ∧ ∀ context mode text e,
      (⟨c, mode⟩ : Parser).parse context text = .ok e →
        e.duration = ⟨totalLength (phrases rule mode text)⟩ ∧
        ∀ c ∈ phrases rule mode text, ∀ x, amount c = .ok x → ∃ l, length? c = some l := by
  refine ⟨durationRule, lengthAdded, duration_eq, rfl, fun c hc => ?_, fun cs hcs => ⟨?_, ?_⟩,
    catalogRead, catalog_eq, fun context mode text e h => ?_⟩
  · obtain ⟨x, grain, length, hx, -, hgrain, hlength⟩ := hc.exists_amount
    refine ⟨x, grain, length, hx, hgrain, hlength, ?_⟩
    rw [length?_eq hx hgrain, hlength, Option.bind_some]
  · exact fun cs' hperm => foldlM_lengthAdded_of_perm hcs hperm
  · rintro before c after d d' rfl hbefore hd
    exact le_of_lengthAdded (fun c hc => hcs c (List.mem_append_left _ hc))
      (hcs c (List.mem_append_right _ List.mem_cons_self)) hbefore hd
  · exact duration_of_run (Parser.parse_eq_ok_iff.mp h).1

/-- Days that are as many as a phrase may have, over and over: a million and nine times they are a
duration, and once more they are too long.  In a text, an hour and a half and half an hour make two
hours. -/
theorem lengths_add_up_to_limit : ∃ rule f c, duration = .ok rule ∧ rule.meaning = .duration f ∧
    IsLengthPhrase rule c ∧
    (List.replicate 1000009 c).foldlM f .zero = .ok ⟨9223369409577600000000000⟩ ∧
    (List.replicate 1000010 c).foldlM f .zero = .error (.outOfRange "duration") ∧
    ∃ c e, catalog = .ok c ∧
      (⟨c, .all⟩ : Parser).parse halfPastFour "for 1.5h, then for 30 min" = .ok e ∧
      e.duration = ⟨7200000000000⟩ := by
  obtain ⟨rule, f, hrule, hf, -, hsum, c, hc, hparse⟩ := lengths_add_up
  obtain rfl : durationRule = rule := Except.ok.inj (duration_eq.symm.trans hrule)
  obtain rfl := catalogRead_eq hc
  -- No phrase can have more days than these.
  obtain ⟨days, hdays, hlength⟩ : ∃ c, IsLengthPhrase durationRule c ∧
      length? c = some ⟨9223286400000000000⟩ := by
    have hm : ⟨⟨0, 15⟩, [(2, ⟨11, 15⟩), (1, ⟨4, 10⟩)]⟩ ∈
        durationRule.pattern.findAll "for 106751 days" := by
      decide +kernel
    have hunit : (Captures.ofMatch durationRule.name durationRule.pattern "for 106751 days"
        ⟨⟨0, 15⟩, [(2, ⟨11, 15⟩), (1, ⟨4, 10⟩)]⟩).text "unit" = "days" := by
      decide +kernel
    refine ⟨_, ⟨⟨_, _, hm, rfl⟩, ?_, exists_of_isOk (by decide +kernel)⟩, by decide +kernel⟩
    rw [hunit]
    simp
  have htotal (n : Nat) : totalLength (List.replicate n days) = n * 9223286400000000000 := by
    rw [totalLength, List.filterMap_replicate_of_some hlength, Duration.total, List.map_replicate,
      List.sum_replicate, nsmul_eq_mul]
  have hall (n : Nat) : ∀ c ∈ List.replicate n days, IsLengthPhrase durationRule c := fun c hc => by
    rwa [List.eq_of_mem_replicate hc]
  have hnone (n : Nat) : ¬∃ c ∈ List.replicate n days, length? c = none := by
    rintro ⟨c, hc, hnone⟩
    rw [List.eq_of_mem_replicate hc, hlength] at hnone
    cases hnone
  refine ⟨durationRule, f, days, hrule, hf, hdays, ?_, ?_, catalogRead, ?_⟩
  · rw [(hsum _ (hall _)).1 _ (.refl _), htotal, if_neg (not_or.mpr ⟨hnone _, by decide⟩)]
    rfl
  · rw [(hsum _ (hall _)).1 _ (.refl _), htotal, if_pos (Or.inr (by decide))]
  · have hok : ((⟨catalogRead, .all⟩ : Parser).parse halfPastFour
        "for 1.5h, then for 30 min").isOk = true := by decide +kernel
    obtain ⟨e, he⟩ := exists_of_isOk hok
    refine ⟨e, hc, he, ?_⟩
    rw [(hparse _ _ _ _ he).1]
    decide +kernel

end Timephrase.English
