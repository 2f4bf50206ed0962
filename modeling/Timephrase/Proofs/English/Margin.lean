import Timephrase.Proofs.English.WordEdge
import Timephrase.Proofs.Pattern.Group
import Timephrase.Proofs.Pattern.Margin
import Timephrase.Proofs.Run.Slice

/-!
# Blanks around a text do not matter

The patterns of the English rules start and end at edges of words, and look at nothing else around
them.  So a parse does not see the blanks that stand before a text and behind it, but for the
positions of what it finds.

## Main definitions

* `Rule.HasEdges`: the pattern of a rule keeps to the edges of words

## Main results

* `Catalog.run_around`: a run over a text with margins
* `Parser.parse_around`: a parse of a text with margins
* `English.parse_of_trimmed`: a parse of a text and one of the text trimmed
-/

namespace Timephrase

variable {m : Margins} {text : String}

/-! ## Rules -/

/-- What a match captures is the same in a text with margins. -/
theorem Captures.ofMatch_around (m : Margins) (rule : String) {p : Pattern} {found : Pattern.Match}
    (h : found ∈ p.findAll text) :
    ofMatch rule p (m.around text) (found.shift m.width) = ofMatch rule p text found := by
  obtain ⟨hstop, hgroups⟩ := Pattern.stop_le_of_mem_findAll h
  have hslice : ∀ s : Span, s.stop ≤ Utf8.size text.toList →
      ofMatch.slice (m.around text) (s.shift m.width) = ofMatch.slice text s :=
    fun s hs => congrArg (Option.map _) (m.slice?_around hs)
  have hgroup : ∀ index, ((found.shift m.width).group? index).bind
      (ofMatch.slice (m.around text)) = (found.group? index).bind (ofMatch.slice text) := by
    intro index
    rw [Pattern.Match.group?_shift]
    cases hs : found.group? index with
    | none => rfl
    | some s =>
      exact hslice s (hgroups _ (Pattern.Match.mem_of_group? hs))
  rw [ofMatch, ofMatch]
  refine congrArg₂ (Captures.mk rule) ?_ ?_
  · exact congrArg (·.getD "") (hslice found.span hstop)
  · exact List.map_congr_left fun g _ => congrArg (Prod.mk g.1) (hgroup g.2)

/-- A step `n` positions further on. -/
def Step.shift (n : Nat) (step : Step) : Step := (step.1, step.2.shift n)

theorem Step.rewrite_around (m : Margins) (context : Context) (state : Moment × Duration)
    {step : Step} (h : step.2 ∈ step.1.pattern.findAll text) :
    (step.shift m.width).rewrite context (m.around text) state =
      step.rewrite context text state := by
  have hcaptures := Captures.ofMatch_around m step.1.name h
  rw [rewrite, rewrite, Step.shift, hcaptures]

theorem Step.foldlM_rewrite_around (m : Margins) (context : Context) {steps : List Step}
    (h : ∀ step ∈ steps, step.2 ∈ step.1.pattern.findAll text) (state : Moment × Duration) :
    (steps.map (Step.shift m.width)).foldlM (rewrite context (m.around text)) state =
      steps.foldlM (rewrite context text) state := by
  induction steps generalizing state with
  | nil => rfl
  | cons step steps ih =>
    obtain ⟨hstep, h⟩ := List.forall_mem_cons.mp h
    rw [List.map_cons, List.foldlM_cons, List.foldlM_cons, rewrite_around m context state hstep]
    exact congrArg _ (funext (ih h))

namespace Rule

/-- The pattern of a rule keeps to the edges of words, those of ASCII characters alone or
those of the characters of all scripts. -/
def HasEdges (rule : Rule) : Prop := ∃ ascii, rule.pattern.node.HasEdges ascii

theorem isDue_around (m : Margins) (rule : Rule) (text : String) :
    rule.isDue (m.around text) = rule.isDue text := by
  rw [isDue, isDue, m.scan_around]

theorem matchesIn_around {rule : Rule} (h : rule.HasEdges) (m : Margins) (mode : MatchMode)
    (text : String) :
    rule.matchesIn mode (m.around text) =
      (rule.matchesIn mode text).map (Pattern.Match.shift m.width) := by
  obtain ⟨ascii, hnode⟩ := h
  rw [matchesIn, matchesIn, Pattern.findAll_around m hnode]
  cases mode with
  | all => rfl
  | first => exact List.map_take.symm

end Rule

/-! ## Runs -/

namespace Catalog

variable {c : Catalog}

theorem steps_around (h : ∀ rule ∈ c.rules, rule.HasEdges) (m : Margins) (mode : MatchMode)
    (text : String) :
    c.steps mode (m.around text) = (c.steps mode text).map (Step.shift m.width) := by
  have hdue : c.rules.filter (·.isDue (m.around text)) = c.rules.filter (·.isDue text) :=
    List.filter_congr fun rule _ => rule.isDue_around m text
  rw [steps, steps, hdue, List.map_flatMap]
  refine List.flatMap_congr fun rule hrule => ?_
  rw [Rule.matchesIn_around (h rule (List.mem_of_mem_filter hrule)), List.map_map, List.map_map]
  rfl

theorem mem_findAll_of_mem_steps {mode : MatchMode} {step : Step} (h : step ∈ c.steps mode text) :
    step.2 ∈ step.1.pattern.findAll text := by
  obtain ⟨rule, -, hstep⟩ := List.mem_flatMap.mp h
  obtain ⟨found, hfound, rfl⟩ := List.mem_map.mp hstep
  exact Rule.mem_findAll_of_mem_matchesIn hfound

/-- **A run over a text with margins** does what one over the text does, further on. -/
theorem run_around (h : ∀ rule ∈ c.rules, rule.HasEdges) (m : Margins) (context : Context)
    (mode : MatchMode) (text : String) :
    c.run context mode (m.around text) = (c.run context mode text).map fun tally =>
      { tally with spans := tally.spans.map (Span.shift m.width) } := by
  rw [run_eq_foldlM, run_eq_foldlM, steps_around h,
    Step.foldlM_rewrite_around m context (fun _ => mem_findAll_of_mem_steps), List.map_map]
  cases (c.steps mode text).foldlM (Step.rewrite context text) (context.today, .zero) with
  | error failure => rfl
  | ok state => simp [Except.map, Step.shift, Pattern.Match.shift, Function.comp_def]

end Catalog

/-! ## What is left -/

theorem Span.Marks.around {s : Span} {w : List Char} (h : s.Marks text w) (m : Margins) :
    (s.shift m.width).Marks (m.around text) w := by
  obtain ⟨u, v, ht, hstart, hstop⟩ := h
  refine ⟨m.front ++ u, v ++ m.back, ?_, ?_, ?_⟩
  · simp [ht]
  · rw [Span.shift, hstart, Utf8.size_append]
    rfl
  · rw [Span.shift, hstop, List.append_assoc, Utf8.size_append m.front]
    rfl

namespace Residual

variable {spans : List Span}

/-- The margins are uncovered. -/
theorem uncovered_around (h : ∀ s ∈ spans, s.stop ≤ Utf8.size text.toList) (m : Margins) :
    uncovered (spans.map (Span.shift m.width)) 0 (m.around text).toList =
      m.front ++ uncovered spans 0 text.toList ++ m.back := by
  -- No shifted span reaches into the first margin or behind the end of the text.
  have hfront : uncovered (spans.map (Span.shift m.width)) 0 m.front = m.front := by
    refine uncovered_of_not_covers fun j hj shifted hshifted => ?_
    obtain ⟨s, -, rfl⟩ := List.mem_map.mp hshifted
    simp only [Span.Covers, Span.shift, Margins.width]
    omega
  have hmiddle : uncovered (spans.map (Span.shift m.width)) m.width text.toList =
      uncovered spans 0 text.toList := by
    refine uncovered_congr fun j _ => ?_
    simp [Span.Covers, Span.shift]
  have hback : uncovered (spans.map (Span.shift m.width)) (m.width + Utf8.size text.toList) m.back =
      m.back := by
    refine uncovered_of_not_covers fun j _ shifted hshifted => ?_
    obtain ⟨s, hs, rfl⟩ := List.mem_map.mp hshifted
    have hstop := h s hs
    simp only [Span.Covers, Span.shift]
    omega
  have hwidth : 0 + Utf8.size m.front = m.width := Nat.zero_add _
  have hsize : 0 + Utf8.size (m.front ++ text.toList) = m.width + Utf8.size text.toList := by
    rw [Nat.zero_add, Utf8.size_append]
    rfl
  rw [Margins.toList_around, uncovered_append, uncovered_append, hfront, hwidth, hmiddle, hsize,
    hback]

/-- What spans leave of a text with margins is what they leave of the text. -/
theorem residual_around (h : ∀ s ∈ spans, ∃ w, s.Marks text w) (m : Margins) :
    residual (m.around text) (spans.map (Span.shift m.width)) = residual text spans := by
  have haround : ∀ s ∈ spans.map (Span.shift m.width), ∃ w, s.Marks (m.around text) w := by
    intro shifted hshifted
    obtain ⟨s, hs, rfl⟩ := List.mem_map.mp hshifted
    obtain ⟨w, hw⟩ := h s hs
    exact ⟨w, hw.around m⟩
  have hstop : ∀ s ∈ spans, s.stop ≤ Utf8.size text.toList := by
    intro s hs
    obtain ⟨w, hw⟩ := h s hs
    exact hw.stop_le
  rw [residual_eq haround, residual_eq h, uncovered_around hstop, m.ordered_around]

end Residual

/-- **A parse of a text with margins** answers what one of the text does, with its spans further
on. -/
theorem Parser.parse_around {p : Parser} (h : ∀ rule ∈ p.catalog.rules, rule.HasEdges) (m : Margins)
    (context : Context) (text : String) :
    p.parse context (m.around text) = (p.parse context text).map fun e =>
      { e with spans := e.spans.map (Span.shift m.width) } := by
  rw [parse, parse, Catalog.run_around h]
  cases hrun : p.catalog.run context p.mode text with
  | error failure => rfl
  | ok tally =>
    have hresidual := Residual.residual_around (Catalog.exists_marks_of_run hrun) m
    simp only [Except.map, Extraction.ofTally, hresidual]

/-! ## The English rules -/

namespace English

/-- The patterns of the English rules keep to the edges of words. -/
theorem hasEdges_of_mem_rules : ∀ rule ∈ catalogRead.rules, rule.HasEdges := by
  have hchecks : ∀ rule ∈ catalogRead.rules, rule.pattern.node.isLoopFree = true ∧
      rule.pattern.node.looksAtWords = true := by
    decide
  intro rule hrule
  obtain ⟨hloop, hlooks⟩ := hchecks rule hrule
  obtain ⟨hopens, hcloses⟩ := opens_and_closes rule hrule
  exact ⟨rule.name == "date", hloop, hlooks, hopens, hcloses⟩

/-- **Blanks around a text do not matter** to the English rules.  A parse of a text and one of the
text trimmed fail in the same way, or answer the same time, the same duration and the same text, and
the spans of the former are those of the latter, moved by the length in bytes of the blanks that
stand first. -/
theorem parse_of_trimmed : ∃ c, catalog = .ok c ∧ ∀ context mode text,
    (∃ failure, (⟨c, mode⟩ : Parser).parse context text = .error failure ∧
      (⟨c, mode⟩ : Parser).parse context (Blank.trim text) = .error failure) ∨
    ∃ e e', (⟨c, mode⟩ : Parser).parse context text = .ok e ∧
      (⟨c, mode⟩ : Parser).parse context (Blank.trim text) = .ok e' ∧
      e.time = e'.time ∧ e.duration = e'.duration ∧ e.text = e'.text ∧
      e.spans = e'.spans.map
        (Span.shift (Utf8.encode (text.toList.takeWhile Blank.isBlank)).length) := by
  refine ⟨catalogRead, catalog_eq, fun context mode text => ?_⟩
  obtain ⟨m, hfront, haround⟩ := Margins.exists_around_trim text
  have hparse := Parser.parse_around (p := ⟨catalogRead, mode⟩) hasEdges_of_mem_rules m context
    (Blank.trim text)
  rw [← haround, Margins.width, hfront] at hparse
  rw [Utf8.length_encode]
  cases htrimmed : (⟨catalogRead, mode⟩ : Parser).parse context (Blank.trim text) with
  | error failure =>
    rw [htrimmed] at hparse
    exact Or.inl ⟨failure, hparse, rfl⟩
  | ok e' =>
    rw [htrimmed] at hparse
    exact Or.inr ⟨_, e', hparse, rfl, rfl, rfl, rfl, rfl⟩

end English

end Timephrase
