import Timephrase.Proofs.English.Gating
import Timephrase.Proofs.Run.Again

/-!
# What the English rules recognise in what they have left

Taking phrases out of a text brings together what stood apart, and so may make a phrase that was not
there: "at tomorrow 5" leaves "at 5".  Such a phrase runs over a seam.  No other can be left, so that
parsing again what is left leaves it as it is unless there is a phrase over a seam.

## Main results

* `English.residual_stable_iff`: when what is left is left again, and what is recognised in it if not
-/

namespace Timephrase.English

open Pattern

variable {text : String} {rule : Rule}

/-- All matches of the English rules have characters that are not blank, and can be listed. -/
theorem isInked_of_mem_rules : ∀ rule ∈ catalogRead.rules, rule.isInked = true ∧
    rule.pattern.node.isLoopFree = true ∧ rule.pattern.node.boundsInOrder = true := by
  decide

/-! ## Rules that are due -/

theorem hasDigit_of_isDue (hrule : rule ∈ catalogRead.rules) (hdue : rule.isDue text = true) :
    hasDigit text = true ∨ rule.name ≠ "duration" ∧ rule.name ≠ "in offset" := by
  have hasks : ∀ rule ∈ catalogRead.rules, rule.features.digits = true ∨
      rule.name ≠ "duration" ∧ rule.name ≠ "in offset" := by
    decide
  refine (hasks rule hrule).imp_left fun hdigits => ?_
  have hincludes := (Bool.and_eq_true_iff.mp hdue).2
  simp only [Features.includes, hdigits, Bool.not_true, Bool.false_or, Bool.and_eq_true] at hincludes
  exact hincludes.1.1

/-- A digit of what is left is one of the text. -/
theorem hasDigit_of_residual {spans : List Span} (hmarks : ∀ s ∈ spans, ∃ w, s.Marks text w)
    (h : hasDigit (Residual.residual text spans) = true) : hasDigit text = true := by
  obtain ⟨c, hc, hdigit⟩ := List.any_eq_true.mp h
  have hne : c ≠ ' ' := by
    rintro rfl
    cases hdigit
  have hkept : c ∈ (Residual.residual text spans).toList.filter (· ≠ ' ') :=
    List.mem_filter.mpr ⟨hc, decide_eq_true hne⟩
  exact List.any_eq_true.mpr
    ⟨c, (Residual.filter_residual_sublist hmarks).subset hkept, hdigit⟩

/-- A rule that is due in what is left of a text is due in the text if it has a match there. -/
theorem isDue_of_residual {spans : List Span} (hmarks : ∀ s ∈ spans, ∃ w, s.Marks text w)
    (hrule : rule ∈ catalogRead.rules)
    (hdue : rule.isDue (Residual.residual text spans) = true)
    (h : rule.pattern.findAll text ≠ []) : rule.isDue text = true := by
  have hdigit := (hasDigit_of_isDue hrule hdue).imp_left (hasDigit_of_residual hmarks)
  rw [Rule.isDue, enabled_of_mem_rules rule hrule, includes_of_findAll hrule hdigit h]
  rfl

/-! ## Seams -/

/-- **When what is left of a text is left again.**  A second parse succeeds and leaves the text as it
is if and only if no rule recognises anything in it.  What a rule does recognise there runs over a
seam: nowhere in the first text did it stand uncovered between the same characters. -/
theorem residual_stable_iff (context : Context) (text : String) : ∃ c, catalog = .ok c ∧
    ∀ e, (⟨c, .all⟩ : Parser).parse context text = .ok e →
      (∀ context', (∃ e', (⟨c, .all⟩ : Parser).parse context' e.text = .ok e' ∧ e'.text = e.text) ↔
        c.steps .all e.text = []) ∧
      ∀ step ∈ c.steps .all e.text, ∃ u w v, e.text.toList = u ++ w ++ v ∧
        step.2.span.start = Utf8.size u ∧ step.2.span.stop = Utf8.size (u ++ w) ∧
        ¬ Residual.StoodWhole text e.spans u w v := by
  refine ⟨catalogRead, catalog_eq, fun e h => ⟨fun context' => ?_, ?_⟩⟩
  · exact Parser.parse_again_iff (fun rule hrule => (isInked_of_mem_rules rule hrule).1) h context'
  · intro step hstep
    obtain ⟨htext, hmarks⟩ := Parser.exists_residual_of_parse h
    obtain ⟨rule, hrule, hmem⟩ := List.mem_flatMap.mp hstep
    obtain ⟨m, hm, rfl⟩ := List.mem_map.mp hmem
    obtain ⟨hrule, hdue⟩ := List.mem_filter.mp hrule
    obtain ⟨hinked, hloop, hbounds⟩ := isInked_of_mem_rules rule hrule
    obtain ⟨w, u, v, groups, ht, hstart, hstop, -, hway⟩ := Rule.exists_matches hm
    refine ⟨u, w, v, ht, hstart, hstop, Rule.not_stoodWhole hinked hloop hbounds ?_ hway⟩
    intro m' hm'
    -- A rule with a match in the first text was due there, and all its matches were taken out.
    have hdue' := isDue_of_residual hmarks hrule (htext ▸ hdue) (List.ne_nil_of_mem hm')
    rw [Parser.spans_of_parse h]
    exact List.mem_map.mpr ⟨(rule, m'), List.mem_flatMap.mpr
      ⟨rule, List.mem_filter.mpr ⟨hrule, hdue'⟩, List.mem_map_of_mem hm'⟩, rfl⟩

/-- Without "tomorrow" the words "at" and "5" make a time of day, which they did not make before. -/
theorem residual_of_seam : ∃ c e, catalog = .ok c ∧
    (⟨c, .all⟩ : Parser).parse halfPastFour "at tomorrow 5" = .ok e ∧ e.text = "at 5" ∧
    (¬ ∃ e', (⟨c, .all⟩ : Parser).parse halfPastFour e.text = .ok e' ∧ e'.text = e.text) ∧
    ∃ step ∈ c.steps .all e.text, step.2.span = ⟨0, 4⟩ ∧
      ¬ Residual.StoodWhole "at tomorrow 5" e.spans [] "at 5".toList [] := by
  obtain ⟨c, hc, h⟩ := residual_stable_iff halfPastFour "at tomorrow 5"
  obtain rfl := catalogRead_eq hc
  have hanswer : ((⟨catalogRead, .all⟩ : Parser).parse halfPastFour "at tomorrow 5").map
      (·.text) = .ok "at 5" := by
    decide +kernel
  obtain ⟨e, he, htext⟩ := exists_of_map_eq_ok hanswer
  obtain ⟨hagain, hseam⟩ := h e he
  have hsteps : (catalogRead.steps .all "at 5").map (·.2.span) = [⟨0, 4⟩] := by
    decide +kernel
  have hne : catalogRead.steps .all e.text ≠ [] := by
    intro hnil
    rw [← htext, hnil] at hsteps
    cases hsteps
  obtain ⟨step, hstep, hspan⟩ : ∃ step ∈ catalogRead.steps .all e.text, step.2.span = ⟨0, 4⟩ := by
    rw [htext]
    exact List.mem_map.mp (hsteps ▸ List.mem_singleton_self _)
  obtain ⟨u, w, v, ht, hstart, hstop, hwhole⟩ := hseam step hstep
  -- The span holds all of what is left.
  rw [hspan] at hstart hstop
  have hu : u = [] := by
    by_contra hu
    exact Nat.ne_of_gt (Utf8.size_pos hu) hstart.symm
  subst hu
  have hw : w = e.text.toList := by
    refine Utf8.eq_of_append_eq_append (ht.symm.trans (List.append_nil _).symm) ?_
    rw [htext]
    exact hstop.symm
  have hv : v = [] := by
    rw [hw, List.nil_append] at ht
    exact List.append_right_eq_self.mp ht.symm
  subst hv
  refine ⟨catalogRead, e, catalog_eq, he, htext, fun hex => hne ((hagain _).mp hex), step, hstep,
    hspan, ?_⟩
  rw [← htext, ← hw]
  exact hwhole

end Timephrase.English
