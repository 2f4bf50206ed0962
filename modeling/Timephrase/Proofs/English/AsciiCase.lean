import Timephrase.Proofs.English.Wording
import Timephrase.Proofs.Run.Slice

/-!
# The case of ASCII letters does not matter

The patterns of the English rules hold an ASCII letter in both cases or in none, and what a match
captures is handed over in small letters.  Only the rule for zones tells capitals from small letters:
without it two texts that differ in the case of ASCII letters alone mean the same.

## Main definitions

* `Rule.ignoresCase`: whether a rule is out of use or does not see the case of ASCII letters

## Main results

* `Catalog.run_toLower`: rules that ignore case do in a text what they do in small letters
* `Parser.parse_toLower`: so does a parse, and leaves the same in small letters
* `English.parse_of_recased`: two texts that differ in the case of ASCII letters alone
-/

namespace Timephrase

variable {text : String}

/-! ## Rules -/

/-- What a match captures is the same in a text in small letters. -/
theorem Captures.ofMatch_toLower (rule : String) (pattern : Pattern) (text : String)
    (m : Pattern.Match) : ofMatch rule pattern text.toLower m = ofMatch rule pattern text m := by
  have hslice : ofMatch.slice text.toLower = ofMatch.slice text := by
    funext s
    rw [ofMatch.slice, ofMatch.slice, Utf8.slice?_toLower, Option.map_map]
    refine congrArg (Option.map · _) (funext fun piece => ?_)
    exact Lowercase.lowercase_toLower piece
  rw [ofMatch, ofMatch, hslice]

theorem Step.rewrite_toLower (context : Context) (text : String) :
    Step.rewrite context text.toLower = Step.rewrite context text := by
  funext state step
  rw [Step.rewrite, Step.rewrite, Captures.ofMatch_toLower]

namespace Rule

/-- Whether a rule is out of use, or neither its pattern nor the features that it asks for tell
capital ASCII letters from small ones. -/
def ignoresCase (rule : Rule) : Bool :=
  !rule.enabled ||
    (rule.pattern.node.isLoopFree && rule.pattern.node.ignoresCase && !rule.features.uppercase)

theorem isDue_toLower {rule : Rule} (h : rule.ignoresCase = true) :
    rule.isDue text.toLower = rule.isDue text := by
  obtain ⟨hdigits, hmonthish⟩ := Features.scan_toLower text
  cases henabled : rule.enabled with
  | false => simp only [isDue, henabled, Bool.false_and]
  | true =>
    have hcapital : rule.features.uppercase = false := by
      simp only [ignoresCase, henabled, Bool.not_true, Bool.false_or, Bool.and_eq_true,
        Bool.not_eq_true'] at h
      exact h.2
    simp only [isDue, Features.includes, hdigits, hmonthish, hcapital, Bool.not_false,
      Bool.true_or]

/-- A rule that is due finds the same in a text in small letters. -/
theorem matchesIn_toLower {rule : Rule} (h : rule.ignoresCase = true) (hdue : rule.isDue text = true)
    (mode : MatchMode) : rule.matchesIn mode text.toLower = rule.matchesIn mode text := by
  have henabled : rule.enabled = true := (Bool.and_eq_true_iff.mp hdue).1
  simp only [ignoresCase, henabled, Bool.not_true, Bool.false_or, Bool.and_eq_true] at h
  rw [matchesIn, matchesIn, Pattern.findAll_toLower h.1.1 h.1.2]

end Rule

/-! ## Runs -/

namespace Catalog

variable {c : Catalog}

theorem steps_toLower (h : ∀ rule ∈ c.rules, rule.ignoresCase = true) (mode : MatchMode)
    (text : String) : c.steps mode text.toLower = c.steps mode text := by
  have hdue : c.rules.filter (·.isDue text.toLower) = c.rules.filter (·.isDue text) :=
    List.filter_congr fun rule hrule => Rule.isDue_toLower (h rule hrule)
  rw [steps, steps, hdue]
  refine List.flatMap_congr fun rule hrule => ?_
  obtain ⟨hmem, hdue⟩ := List.mem_filter.mp hrule
  rw [Rule.matchesIn_toLower (h rule hmem) hdue]

/-- **Rules that ignore case** do in a text what they do in it in small letters. -/
theorem run_toLower (h : ∀ rule ∈ c.rules, rule.ignoresCase = true) (context : Context)
    (mode : MatchMode) (text : String) :
    c.run context mode text.toLower = c.run context mode text := by
  rw [run_eq_foldlM, run_eq_foldlM, steps_toLower h, Step.rewrite_toLower]

end Catalog

/-! ## What is left -/

theorem Span.Marks.toLower {s : Span} {w : List Char} (h : s.Marks text w) :
    s.Marks text.toLower (w.map Char.toLower) := by
  obtain ⟨u, v, ht, hstart, hstop⟩ := h
  refine ⟨u.map Char.toLower, v.map Char.toLower, ?_, ?_, ?_⟩
  · rw [String.toLower, String.toList_map, ht, List.map_append, List.map_append]
  · rw [hstart, Utf8.size_toLower]
  · rw [hstop, ← List.map_append, Utf8.size_toLower]

namespace Residual

variable {spans : List Span}

theorem uncovered_toLower (i : Nat) (cs : List Char) :
    uncovered spans i (cs.map Char.toLower) = (uncovered spans i cs).map Char.toLower := by
  induction cs generalizing i with
  | nil => rfl
  | cons c cs ih =>
    rw [List.map_cons, uncovered, uncovered, Ascii.utf8Size_toLower, ih]
    split
    · rfl
    · rfl

/-- What spans leave of a text in small letters is what they leave of the text, in small letters. -/
theorem residual_toLower (h : ∀ s ∈ spans, ∃ w, s.Marks text w) :
    residual text.toLower spans = (residual text spans).toLower := by
  have hlower : ∀ s ∈ spans, ∃ w, s.Marks text.toLower w := by
    intro s hs
    obtain ⟨w, hw⟩ := h s hs
    exact ⟨_, hw.toLower⟩
  have hordered := Blank.map_ordered Blank.isBlank_toLower (by decide)
    (uncovered spans 0 text.toList)
  rw [residual_eq h, residual_eq hlower, ← String.toList_inj, String.toLower, String.toLower,
    String.toList_map, String.toList_map, String.toList_ofList, String.toList_ofList,
    uncovered_toLower, hordered]

end Residual

/-- **A parse of a text in small letters** answers the same, with what is left in small letters. -/
theorem Parser.parse_toLower {p : Parser} (h : ∀ rule ∈ p.catalog.rules, rule.ignoresCase = true)
    (context : Context) (text : String) :
    p.parse context text.toLower =
      (p.parse context text).map fun e => { e with text := e.text.toLower } := by
  rw [parse, parse, Catalog.run_toLower h]
  cases hrun : p.catalog.run context p.mode text with
  | error failure => rfl
  | ok tally =>
    have hresidual := Residual.residual_toLower (Catalog.exists_marks_of_run hrun)
    simp only [Except.map, Extraction.ofTally, hresidual]

/-! ## The English rules -/

namespace English

/-- Without the rule for zones all rules of the English catalog ignore case. -/
theorem ignoresCase_of_mem_rules :
    ∀ rule ∈ (catalogRead.setEnabled "timezone" false).rules, rule.ignoresCase = true := by
  have hcapital : ∀ rule ∈ [yesterdayRule, tomorrowRule, todayRule, atTimeRule, durationRule,
      dateRule, inOffsetRule], rule.name ≠ "timezone" ∧ rule.features.uppercase = false := by
    decide
  intro rule hrule
  obtain ⟨rule, hmem, rfl⟩ := List.mem_map.mp hrule
  have hsplit : rule = timezoneRule ∨ rule ∈ [yesterdayRule, tomorrowRule, todayRule, atTimeRule,
      durationRule, dateRule, inOffsetRule] := by
    rw [mem_rules_iff] at hmem
    simp only [List.mem_cons, List.not_mem_nil, or_false]
    tauto
  rcases hsplit with rfl | hmem
  · rfl
  · obtain ⟨hname, huppercase⟩ := hcapital rule hmem
    obtain ⟨hloop, hsees⟩ := Wording.seesOutline_of_mem_rules rule hmem
    have hcase := Pattern.Node.ignoresCase_of_seesOutline hsees
    simp [hname, Rule.ignoresCase, hloop, hcase, huppercase]

/-- **The case of ASCII letters does not matter** to the English rules, apart from the rule for zones.
Where two texts differ in it alone, both parses fail in the same way, or both answer the same time,
the same duration and the same spans, and what is left of the texts again differs in the case of
ASCII letters alone. -/
theorem parse_of_recased : ∃ c, catalog = .ok c ∧ ∀ text text', Ascii.Recased text text' →
    ∀ context mode,
      (∃ failure,
        (⟨c.setEnabled "timezone" false, mode⟩ : Parser).parse context text = .error failure ∧
          (⟨c.setEnabled "timezone" false, mode⟩ : Parser).parse context text' = .error failure) ∨
      ∃ e e', (⟨c.setEnabled "timezone" false, mode⟩ : Parser).parse context text = .ok e ∧
        (⟨c.setEnabled "timezone" false, mode⟩ : Parser).parse context text' = .ok e' ∧
        e'.time = e.time ∧ e'.duration = e.duration ∧ e'.spans = e.spans ∧
        e'.text.toLower = e.text.toLower := by
  refine ⟨catalogRead, catalog_eq, fun text text' htexts context mode => ?_⟩
  have hlower : ∀ text, (⟨catalogRead.setEnabled "timezone" false, mode⟩ : Parser).parse context
      text.toLower = ((⟨catalogRead.setEnabled "timezone" false, mode⟩ : Parser).parse context
        text).map fun e => { e with text := e.text.toLower } :=
    Parser.parse_toLower ignoresCase_of_mem_rules context
  -- Both parses come to that of the text in small letters.
  have hsame := hlower text'
  rw [htexts.toLower_eq, hlower text] at hsame
  cases hparse : (⟨catalogRead.setEnabled "timezone" false, mode⟩ : Parser).parse context text with
  | error failure =>
    rw [hparse] at hsame
    exact Or.inl ⟨failure, rfl, map_eq_error_iff.mp hsame.symm⟩
  | ok e =>
    rw [hparse] at hsame
    obtain ⟨e', he', heq⟩ := exists_of_map_eq_ok hsame.symm
    obtain ⟨htime, hduration, htext, hspans⟩ := Extraction.mk.inj heq
    exact Or.inr ⟨e, e', rfl, he', htime, hduration, hspans, htext⟩

/-- Capitals change neither what is found nor what it means.  A Kelvin sign is another letter, and
stands for itself in both texts. -/
theorem parse_of_capitals : ∃ c e e', catalog = .ok c ∧
    Ascii.Recased "Lunch At 3pm, in 2 wee\u212As" "lunch AT 3PM, In 2 WEE\u212AS" ∧
    (⟨c.setEnabled "timezone" false, .all⟩ : Parser).parse halfPastFour
      "Lunch At 3pm, in 2 wee\u212As" = .ok e ∧
    (⟨c.setEnabled "timezone" false, .all⟩ : Parser).parse halfPastFour
      "lunch AT 3PM, In 2 WEE\u212AS" = .ok e' ∧
    e'.time = e.time ∧ e'.duration = e.duration ∧ e'.spans = e.spans ∧
    e'.text.toLower = e.text.toLower ∧ e.text = "Lunch ," ∧ e.spans = [⟨6, 12⟩, ⟨14, 26⟩] := by
  obtain ⟨c, hc, h⟩ := parse_of_recased
  obtain rfl := catalogRead_eq hc
  have htexts : Ascii.Recased "Lunch At 3pm, in 2 wee\u212As" "lunch AT 3PM, In 2 WEE\u212AS" := by
    rw [Ascii.Recased]
    decide
  have hanswer : ((⟨catalogRead.setEnabled "timezone" false, .all⟩ : Parser).parse halfPastFour
      "Lunch At 3pm, in 2 wee\u212As").map (fun e => (e.text, e.spans)) =
      .ok ("Lunch ,", [⟨6, 12⟩, ⟨14, 26⟩]) := by
    decide +kernel
  obtain ⟨e₀, he₀, heq⟩ := exists_of_map_eq_ok hanswer
  rcases h _ _ htexts halfPastFour .all with ⟨failure, herror, -⟩ | ⟨e, e', he, he', hrest⟩
  · rw [he₀] at herror
    cases herror
  · obtain rfl : e₀ = e := Except.ok.inj (he₀.symm.trans he)
    obtain ⟨htime, hduration, hspans, htext⟩ := hrest
    obtain ⟨hleft, hfound⟩ := Prod.mk.inj heq
    exact ⟨catalogRead, e₀, e', catalog_eq, htexts, he, he', htime, hduration, hspans, htext, hleft,
      hfound⟩

end English

end Timephrase
