import Timephrase.CommandLine.Elapsed
import Timephrase.CommandLine.Run
import Timephrase.Proofs.Duration.Text
import Timephrase.Proofs.Run.Slice

/-!
# Texts without escapes

What is printed without colors has no escape character, unless the text that was parsed has one:
moments, durations and elapsed times are written in digits and a few marks, and what is cut out of a
text or left of it has no other characters than the text and spaces.

## Main definitions

* `Plain`: a text has no escape character

## Main results

* `Moment.plain_rfc3339`, `Duration.plain_text`, `Elapsed.plain_text`: what is written in digits
* `Blank.plain_trim`, `Utf8.plain_slice?`, `Residual.plain_residual`: what is made of a text
* `Parser.plain_of_parse`: what a parse answers
-/

namespace Timephrase

/-- A text has no escape character. -/
structure Plain (text : String) : Prop where
  escape_not_mem : '\x1b' ∉ text.toList

instance (text : String) : Decidable (Plain text) :=
  decidable_of_iff ('\x1b' ∉ text.toList) ⟨.mk, Plain.escape_not_mem⟩

variable {s t : String}

theorem plain_append_iff : Plain (s ++ t) ↔ Plain s ∧ Plain t := by
  constructor
  · rintro ⟨h⟩
    rw [String.toList_append, List.mem_append, not_or] at h
    exact ⟨⟨h.1⟩, ⟨h.2⟩⟩
  · rintro ⟨⟨hs⟩, ⟨ht⟩⟩
    constructor
    rw [String.toList_append, List.mem_append]
    exact not_or.mpr ⟨hs, ht⟩

namespace Plain

theorem append (hs : Plain s) (ht : Plain t) : Plain (s ++ t) := plain_append_iff.mpr ⟨hs, ht⟩

theorem of_digits (h : ∀ c ∈ s.toList, c.isDigit = true) : Plain s :=
  ⟨fun hs => absurd (h _ hs) (by decide)⟩

theorem of_ofList {cs : List Char} (h : '\x1b' ∉ cs) : Plain (String.ofList cs) := by
  constructor
  rwa [String.toList_ofList]

theorem intercalate (hs : Plain s) {texts : List String} (h : ∀ text ∈ texts, Plain text) :
    Plain (s.intercalate texts) := by
  induction texts with
  | nil => exact (by decide : Plain "")
  | cons text texts ih =>
    have htext := h text List.mem_cons_self
    cases texts with
    | nil => rwa [String.intercalate_singleton]
    | cons next texts =>
      rw [String.intercalate_cons_cons]
      exact (htext.append hs).append (ih fun text ht => h text (List.mem_cons_of_mem _ ht))

end Plain

theorem plain_join_iff {texts : List String} :
    Plain (String.join texts) ↔ ∀ text ∈ texts, Plain text := by
  constructor
  · rintro ⟨h⟩ text htext
    rw [String.toList_join, List.mem_flatMap] at h
    exact ⟨fun hc => h ⟨text, htext, hc⟩⟩
  · intro h
    constructor
    rw [String.toList_join, List.mem_flatMap]
    rintro ⟨text, htext, hc⟩
    exact (h text htext).escape_not_mem hc

/-! ## Numbers -/

theorem plain_repr (n : Nat) : Plain n.repr := by
  refine .of_digits fun c hc => ?_
  rw [Nat.toList_repr] at hc
  exact Nat.isDigit_of_mem_toDigits (by decide) (by decide) hc

namespace Digits

theorem plain_padded (width n : Nat) : Plain (padded width n) := .of_digits isDigit_of_mem_padded

theorem plain_signedYear (year : Int) : Plain (signedYear year) := by
  rw [signedYear]
  split
  · exact plain_padded _ _
  · split
    · exact .append (by decide) (plain_padded _ _)
    · exact .append (by decide) (plain_padded _ _)

theorem plain_fraction (nanos : Nat) : Plain (fraction nanos) := by
  rw [fraction]
  split
  · decide
  · split
    · exact .append (by decide) (plain_padded _ _)
    · split
      · exact .append (by decide) (plain_padded _ _)
      · exact .append (by decide) (plain_padded _ _)

end Digits

/-! ## Moments -/

theorem Date.plain_text (d : Date) : Plain d.text := by
  simp only [text, plain_append_iff, Digits.plain_signedYear, Digits.plain_padded, and_true]
  decide

theorem LocalTime.plain_clockText (t : LocalTime) : Plain t.clockText := by
  simp only [clockText, plain_append_iff, Digits.plain_padded, Digits.plain_fraction, and_true]
  decide

namespace Moment

theorem plain_offsetText (offset : Int) : Plain (offsetText offset) := by
  have hsign : Plain (if offset < 0 then "-" else "+") := by
    split
    · decide
    · decide
  simp only [offsetText, plain_append_iff, hsign, Digits.plain_padded, and_true]
  decide

/-- **A written moment** has no escape character. -/
theorem plain_rfc3339 (m : Moment) : Plain m.rfc3339 := by
  simp only [rfc3339, plain_append_iff, Date.plain_text, LocalTime.plain_clockText,
    plain_offsetText, and_true]
  decide

end Moment

/-! ## Durations -/

namespace Duration

theorem plain_secondsText (seconds nanos : Nat) : Plain (secondsText seconds nanos) := by
  have hdigits : Plain (fractionDigits nanos) := .of_digits isDigit_of_mem_fractionDigits
  rw [secondsText]
  split
  · exact plain_repr seconds
  · exact ((plain_repr seconds).append (by decide)).append hdigits

theorem plain_clockText (nanos : Nat) : Plain (clockText nanos) := by
  rw [clockText]
  split
  · simp only [plain_append_iff, plain_repr, plain_secondsText, and_true]
    decide
  · split
    · simp only [plain_append_iff, plain_repr, plain_secondsText]
      decide
    · exact (plain_secondsText _ _).append (by decide)

theorem plain_signedText (n : Int) : Plain (signedText n) := by
  rw [signedText]
  split
  · exact .append (by decide) (plain_repr _)
  · exact plain_repr _

/-- **A written duration** has no escape character. -/
theorem plain_text (d : Duration) : Plain d.text := by
  rw [text]
  split
  · exact (plain_signedText _).append (by decide)
  · split
    · decide
    · refine .append ?_ (plain_clockText _)
      split
      · decide
      · decide

end Duration

/-! ## Elapsed times -/

namespace CommandLine.Elapsed

theorem plain_fraction (places rest : Nat) : Plain (fraction places rest) := by
  induction places generalizing rest with
  | zero => exact (by decide : Plain "")
  | succ places ih =>
    rw [fraction]
    split
    · decide
    · split
      · exact ih _
      · refine ((by decide : Plain ".").append (.of_ofList fun hc => ?_)).append (plain_repr _)
        cases List.eq_of_mem_replicate hc

theorem plain_inUnit (places : Nat) (nanos : Nat) {unit : String} (h : Plain unit) :
    Plain (inUnit places unit nanos) :=
  ((plain_repr _).append (plain_fraction _ _)).append h

/-- **A written elapsed time** has no escape character. -/
theorem plain_text (nanos : Nat) : Plain (text nanos) := by
  rw [text]
  split
  · exact plain_inUnit _ _ (by decide)
  · split
    · exact plain_inUnit _ _ (by decide)
    · split
      · exact plain_inUnit _ _ (by decide)
      · exact plain_inUnit _ _ (by decide)

end CommandLine.Elapsed

/-! ## The help text -/

set_option maxRecDepth 4000 in
-- The text is compared with the list of its characters, which is a long one.
theorem CommandLine.plain_helpText : Plain helpText := by
  rw [helpText]
  refine .append (by decide) (.of_ofList ?_)
  decide +kernel

/-! ## Pieces of a text -/

theorem Blank.plain_trim (h : Plain t) : Plain (Blank.trim t) :=
  .of_ofList fun hc => h.escape_not_mem (mem_of_mem_trimChars hc)

namespace Utf8

theorem plain_slice? {piece : String} {start stop : Nat} (h : Plain t)
    (hpiece : slice? t start stop = some piece) : Plain piece := by
  simp only [slice?, Option.ite_none_right_eq_some, Option.bind_eq_bind,
    Option.bind_eq_some_iff, Option.some.injEq] at hpiece
  obtain ⟨-, ⟨before, rest⟩, hbefore, ⟨inside, after⟩, hinside, rfl⟩ := hpiece
  obtain ⟨hwhole, -⟩ := eq_of_splitAt? hbefore
  obtain ⟨hrest, -⟩ := eq_of_splitAt? hinside
  refine .of_ofList fun hc => h.escape_not_mem ?_
  dsimp only at hrest
  rw [hwhole, hrest]
  exact List.mem_append_right _ (List.mem_append_left _ hc)

end Utf8

/-- **What is left of a text** where pieces are taken out has no escape character if the text has
none. -/
theorem Residual.plain_residual {spans : List Span} (h : Plain t)
    (hmarks : ∀ s ∈ spans, ∃ w, s.Marks t w) : Plain (residual t spans) := by
  constructor
  intro hc
  refine h.escape_not_mem ((filter_residual_sublist hmarks).subset (List.mem_filter.mpr ⟨hc, ?_⟩))
  decide

/-- What a parse answers has no escape character if the text has none. -/
theorem Parser.plain_of_parse {p : Parser} {context : Context} {e : Extraction} (h : Plain t)
    (hparse : p.parse context t = .ok e) : Plain e.text := by
  obtain ⟨tally, hrun, rfl⟩ := exists_of_map_eq_ok hparse
  exact Residual.plain_residual h (Catalog.exists_marks_of_run hrun)

/-- The names of the rules have no escape character. -/
theorem English.plain_name_of_mem_rules : ∀ rule ∈ catalogRead.rules, Plain rule.name := by decide

end Timephrase
