import Timephrase.Proofs.Run.Slice

/-!
# The first match of each rule

A run in which only the first match of a rule counts is told by one in which all of them do: of the
spans that a rule records there it records the first, and nothing else becomes of it.  The two runs
may come to other times and durations on their way, but what the longer one leaves of the text the
shorter one leaves too.

## Main definitions

* `Pass.head`: the entry of a rule with the first of its spans alone

## Main results

* `Rule.account_first`: the entry of a rule of which only the first match counts
* `Parser.first_is_head`: two parses of a text, one with the first matches and one with all
-/

namespace Timephrase

/-- The status of a rule of which one match counts, if any of them do. -/
def PassStatus.head : PassStatus → PassStatus
  | applied _ => applied 1
  | status => status

/-- The entry of a rule with the first of its spans alone. -/
def Pass.head (pass : Pass) : Pass :=
  { pass with status := pass.status.head, spans := pass.spans.take 1 }

/-! ## Rules -/

theorem PassStatus.ofSpans_take_one (spans : List Span) :
    ofSpans (spans.take 1) = (ofSpans spans).head := by
  cases spans with
  | nil => rfl
  | cons s spans => rfl

namespace Rule

variable (rule : Rule) (text : String) (there : Features)

theorem recorded_first :
    rule.recorded .first text there = (rule.recorded .all text there).take 1 := by
  rw [recorded, recorded]
  cases rule.skip? there with
  | some skip => rfl
  | none => exact List.map_take

/-- **The entry of a rule of which only the first match counts** is the head of that for all. -/
theorem account_first : rule.account .first text there = (rule.account .all text there).head := by
  rw [account, account, Pass.head, recorded_first]
  cases rule.skip? there with
  | some skip => cases skip <;> rfl
  | none => simp only [PassStatus.ofSpans_take_one]

end Rule

/-! ## Parses -/

namespace Parser

/-- **A parse with the first matches alone is the head of one with all matches.**  If both succeed, a
rule has an entry of the same kind in both accounts, and its spans in the first are the first of its
spans in the second, if it has any.  Of the characters that are not blank, the text that is left
when all matches count has a part of what is left when the first ones do, in the same order. -/
theorem first_is_head (c : Catalog) (context : Context) (text : String) {first all : Extraction}
    (hfirst : (⟨c, .first⟩ : Parser).parse context text = .ok first)
    (hall : (⟨c, .all⟩ : Parser).parse context text = .ok all) :
    (∃ passes, (⟨c, .all⟩ : Parser).parseTraced context text = .ok ⟨all, context, passes⟩ ∧
      (⟨c, .first⟩ : Parser).parseTraced context text =
        .ok ⟨first, context, passes.map Pass.head⟩ ∧
      List.Forall₂ (Pass.Accounts .all text) c.rules passes ∧
      all.spans = passes.flatMap (·.spans) ∧ first.spans = passes.flatMap (·.spans.take 1)) ∧
    (all.text.toList.filter (!Blank.isBlank ·)).Sublist
      (first.text.toList.filter (!Blank.isBlank ·)) := by
  have hentries : (c.rules.map (·.account .all text (Features.scan text))).map Pass.head =
      c.rules.map (·.account .first text (Features.scan text)) := by
    rw [List.map_map]
    exact List.map_congr_left fun rule _ => (rule.account_first text _).symm
  obtain ⟨htraced, hspans⟩ := parseTraced_of_parse hfirst
  obtain ⟨htraced', hspans'⟩ := parseTraced_of_parse hall
  refine ⟨⟨c.rules.map (·.account .all text (Features.scan text)), htraced', ?_, ?_, ?_, ?_⟩, ?_⟩
  · rw [hentries]
    exact htraced
  · exact List.forall₂_map_right_iff.mpr
      (List.forall₂_same.mpr fun rule _ => rule.accounts_account .all text)
  · rw [List.flatMap_map]
    exact hspans'
  · rw [List.flatMap_map, hspans]
    exact List.flatMap_congr fun rule _ => rule.recorded_first text _
  · obtain ⟨tally, hrun, rfl⟩ := exists_of_map_eq_ok hfirst
    obtain ⟨tally', hrun', rfl⟩ := exists_of_map_eq_ok hall
    -- All that the first matches cover is covered when all of them count.
    have hcovers : ∀ i, (∃ s ∈ tally.spans, s.Covers i) → ∃ s ∈ tally'.spans, s.Covers i := by
      rintro i ⟨s, hs, hcovers⟩
      refine ⟨s, ?_, hcovers⟩
      rw [Catalog.spans_of_run hrun] at hs
      rw [Catalog.spans_of_run hrun']
      obtain ⟨rule, hrule, hs⟩ := List.mem_flatMap.mp hs
      rw [rule.recorded_first] at hs
      exact List.mem_flatMap.mpr ⟨rule, hrule, List.mem_of_mem_take hs⟩
    have hleft := Residual.filter_residual_not_blank (Catalog.exists_marks_of_run hrun)
    have hleft' := Residual.filter_residual_not_blank (Catalog.exists_marks_of_run hrun')
    rw [Extraction.ofTally, Extraction.ofTally, hleft, hleft']
    exact (Residual.uncovered_sublist_of_covers hcovers 0 text.toList).filter _

/-- Of the two lengths in a text the second is left where only the first match counts.  The time of
day stands behind both and is taken out all the same, being the first of its own rule. -/
theorem first_of_two_lengths : ∃ (first all : Extraction) (passes : List Pass),
    (⟨English.catalogRead, .first⟩ : Parser).parse English.halfPastFour
        "lunch for 1 hour, call ana for 2 hours at 3pm" = .ok first ∧
      (⟨English.catalogRead, .all⟩ : Parser).parse English.halfPastFour
        "lunch for 1 hour, call ana for 2 hours at 3pm" = .ok all ∧
      (⟨English.catalogRead, .first⟩ : Parser).parseTraced English.halfPastFour
        "lunch for 1 hour, call ana for 2 hours at 3pm" =
          .ok ⟨first, English.halfPastFour, passes.map Pass.head⟩ ∧
      first.spans = [⟨39, 45⟩, ⟨6, 16⟩] ∧ all.spans = [⟨39, 45⟩, ⟨6, 16⟩, ⟨27, 38⟩] ∧
      first.text = "lunch , call ana for 2 hours" ∧ all.text = "lunch , call ana" ∧
      (all.text.toList.filter (!Blank.isBlank ·)).Sublist
        (first.text.toList.filter (!Blank.isBlank ·)) := by
  have hanswer : ((⟨English.catalogRead, .first⟩ : Parser).parse English.halfPastFour
      "lunch for 1 hour, call ana for 2 hours at 3pm").map (fun e => (e.spans, e.text)) =
      .ok ([⟨39, 45⟩, ⟨6, 16⟩], "lunch , call ana for 2 hours") := by
    rfl
  have hanswer' : ((⟨English.catalogRead, .all⟩ : Parser).parse English.halfPastFour
      "lunch for 1 hour, call ana for 2 hours at 3pm").map (fun e => (e.spans, e.text)) =
      .ok ([⟨39, 45⟩, ⟨6, 16⟩, ⟨27, 38⟩], "lunch , call ana") := by
    rfl
  obtain ⟨first, hfirst, heq⟩ := exists_of_map_eq_ok hanswer
  obtain ⟨all, hall, heq'⟩ := exists_of_map_eq_ok hanswer'
  obtain ⟨hspans, htext⟩ := Prod.mk.inj heq
  obtain ⟨hspans', htext'⟩ := Prod.mk.inj heq'
  obtain ⟨⟨passes, -, htraced, -⟩, hsublist⟩ := first_is_head English.catalogRead
    English.halfPastFour "lunch for 1 hour, call ana for 2 hours at 3pm" hfirst hall
  exact ⟨first, all, passes, hfirst, hall, htraced, hspans, hspans', htext, htext', hsublist⟩

end Parser

end Timephrase
