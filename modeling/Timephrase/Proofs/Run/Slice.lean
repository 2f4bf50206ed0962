import Timephrase.CommandLine.Report
import Timephrase.Proofs.Captures
import Timephrase.Proofs.Pattern.Finding
import Timephrase.Proofs.Residual
import Timephrase.Proofs.Run.Account

/-!
# Spans are pieces of the text

The matches that a rule finds start and stop between characters, whatever its pattern: also those
that are empty, of which there is at most one at a place.  The spans of a run can therefore be cut
out of the text, a report shows what was matched, and no character is lost from what is left.

## Main definitions

* `Rule.Matches`: a rule matches a piece of a text
* `Rule.Slices`: spans hold, in order, pieces that a rule matches

## Main results

* `Rule.slices_recorded`: the spans that a rule records
* `Parser.spans_are_slices`: the spans, the account and the residual text of a parse
-/

namespace Timephrase

open CommandLine

variable {rule : Rule} {mode : MatchMode} {text : String}

/-! ## The spans of one rule -/

/-- A rule matches the piece `w` of a text under a span: there is a match with this span, and it
leads through the pattern from the start of the piece to its end. -/
def Rule.Matches (rule : Rule) (text : String) (s : Span) (w : List Char) : Prop :=
  ∃ u v groups, text.toList = u ++ w ++ v ∧ s.start = Utf8.size u ∧ s.stop = Utf8.size (u ++ w) ∧
    ⟨s, groups⟩ ∈ rule.pattern.findAll text ∧
    rule.pattern.node.Way (.between u (w ++ v)) (.between (u ++ w) v) groups

/-- Spans hold, in order and without overlap, pieces that a rule matches.  Each of them is what is
cut out of the text and shown in the line of its span. -/
structure Rule.Slices (rule : Rule) (text : String) (spans : List Span) : Prop where
  increasing : spans.Pairwise fun s s' => s.start < s'.start ∧ s.stop ≤ s'.start
  matched : ∀ s ∈ spans, ∃ w, rule.Matches text s w ∧
    Utf8.slice? text s.start s.stop = some (String.ofList w) ∧
    ∀ palette : Palette, Report.spanLine palette text s =
      "      " ++ palette.paint .yellow (Report.span s) ++ " " ++
        palette.paint .dim ("\"" ++ String.ofList w ++ "\"")

namespace Rule

theorem Matches.marks {s : Span} {w : List Char} (h : rule.Matches text s w) :
    s.Marks text w := by
  obtain ⟨u, v, -, ht, hstart, hstop, -⟩ := h
  exact ⟨u, v, ht, hstart, hstop⟩

/-- A match found is one of a piece of the text. -/
theorem exists_matches {m : Pattern.Match} (h : m ∈ rule.pattern.findAll text) :
    ∃ w, rule.Matches text m.span w := by
  obtain ⟨u, v, ht, hm⟩ := Pattern.exists_place_of_mem_findAll h
  obtain ⟨d, hway, hspan⟩ := Pattern.way_of_matchAt? hm
  obtain ⟨w, hw⟩ := hway.exists_reads
  -- The way ends at the place after what it reads.
  have hv : v = w ++ d.rest := hw.rest_eq
  have hd : d = .between (u ++ w) d.rest := hw.eq_between
  refine ⟨w, u, d.rest, m.groups, ?_, ?_, ?_, ?_, ?_⟩
  · rw [ht, hv, List.append_assoc]
  · rw [hspan]
    rfl
  · rw [hspan, hd]
    rfl
  · exact h
  · rw [← hd, ← hv]
    exact hway

/-- The piece under a span is what a report shows. -/
theorem Matches.shown {s : Span} {w : List Char} (h : rule.Matches text s w) :
    Utf8.slice? text s.start s.stop = some (String.ofList w) ∧
      ∀ palette : Palette, Report.spanLine palette text s =
        "      " ++ palette.paint .yellow (Report.span s) ++ " " ++
          palette.paint .dim ("\"" ++ String.ofList w ++ "\"") := by
  obtain ⟨u, v, ht, hstart, hstop⟩ := h.marks
  have hslice : Utf8.slice? text s.start s.stop = some (String.ofList w) := by
    rw [hstart, hstop, Utf8.slice?_eq ht]
  refine ⟨hslice, fun palette => ?_⟩
  rw [Report.spanLine, hslice]
  rfl

theorem slices_nil (rule : Rule) (text : String) : rule.Slices text [] :=
  ⟨List.Pairwise.nil, nofun⟩

/-- **The spans that a rule records** hold pieces that it matches, in order. -/
theorem slices_recorded (rule : Rule) (mode : MatchMode) (text : String) (there : Features) :
    rule.Slices text (rule.recorded mode text there) := by
  rw [recorded]
  split
  · exact slices_nil rule text
  · constructor
    · have hfound : (rule.matchesIn mode text).Pairwise fun m m' =>
          m.span.start < m'.span.start ∧ m.span.stop ≤ m'.span.start := by
        cases mode with
        | all => exact Pattern.pairwise_findAll _ _
        | first => exact (Pattern.pairwise_findAll _ _).sublist (List.take_sublist _ _)
      exact List.pairwise_map.mpr hfound
    · intro s hs
      obtain ⟨m, hm, rfl⟩ := List.mem_map.mp hs
      obtain ⟨w, hw⟩ := exists_matches (mem_findAll_of_mem_matchesIn hm)
      exact ⟨w, hw, hw.shown⟩

end Rule

/-! ## The spans of a run -/

namespace Catalog

variable {c : Catalog} {context : Context} {tally : Tally}

/-- The spans of a run are those that its rules record. -/
theorem spans_of_run (h : c.run context mode text = .ok tally) :
    tally.spans = c.rules.flatMap (·.recorded mode text (Features.scan text)) := by
  rw [← map_trace] at h
  obtain ⟨⟨traced, passes⟩, htrace, rfl⟩ := exists_of_map_eq_ok h
  exact (passes_eq_of_trace htrace).2

theorem exists_marks_of_run (h : c.run context mode text = .ok tally) :
    ∀ s ∈ tally.spans, ∃ w, s.Marks text w := by
  intro s hs
  rw [spans_of_run h] at hs
  obtain ⟨rule, -, hs⟩ := List.mem_flatMap.mp hs
  obtain ⟨w, hw, -⟩ := (rule.slices_recorded mode text (Features.scan text)).matched s hs
  exact ⟨w, hw.marks⟩

end Catalog

/-- What is left of a text where spans hold pieces of it has only characters of it and spaces. -/
theorem Residual.filter_residual_sublist {spans : List Span}
    (h : ∀ s ∈ spans, ∃ w, s.Marks text w) :
    ((residual text spans).toList.filter (· ≠ ' ')).Sublist text.toList := by
  rw [filter_residual h]
  exact List.filter_sublist.trans (uncovered_sublist 0 text.toList)

namespace Parser

/-- **The spans of a parse are pieces of the text.**  Each of them starts and stops between
characters.  Those of one rule come from left to right and do not overlap; they hold what the rule
matched, which is what is cut out of the text and shown in a report.  What is left of the text is made
of its characters that are not covered, in their order, and of spaces. -/
theorem spans_are_slices (p : Parser) (context : Context) (text : String) :
    (∀ e, p.parse context text = .ok e →
      (∀ s ∈ e.spans, s.start ≤ s.stop ∧ s.stop ≤ (Utf8.encode text.toList).length ∧
        ∃ w, s.Marks text w) ∧
      (∃ passes, List.Forall₂ (fun rule spans => rule.Slices text spans) p.catalog.rules passes ∧
        e.spans = passes.flatten) ∧
      e.text.toList.filter (· ≠ ' ') =
        (Residual.uncovered e.spans 0 text.toList).filter (!Blank.isBlank ·) ∧
      (e.text.toList.filter (· ≠ ' ')).Sublist text.toList) ∧
    ∀ traced, p.parseTraced context text = .ok traced →
      p.parse context text = .ok traced.result ∧
      List.Forall₂ (fun rule pass => rule.Slices text pass.spans) p.catalog.rules traced.passes ∧
        traced.result.spans = traced.passes.flatMap (·.spans) := by
  constructor
  · intro e h
    obtain ⟨tally, hrun, rfl⟩ := exists_of_map_eq_ok h
    have hmarks := Catalog.exists_marks_of_run hrun
    refine ⟨fun s hs => ?_, ?_, ?_, ?_⟩
    · obtain ⟨w, hw⟩ := hmarks s hs
      rw [Utf8.length_encode]
      exact ⟨hw.start_le_stop, hw.stop_le, w, hw⟩
    · refine ⟨p.catalog.rules.map (·.recorded p.mode text (Features.scan text)), ?_, ?_⟩
      · exact List.forall₂_map_right_iff.mpr
          (List.forall₂_same.mpr fun rule _ => rule.slices_recorded p.mode text _)
      · rw [← List.flatMap_def]
        exact Catalog.spans_of_run hrun
    · exact Residual.filter_residual hmarks
    · exact Residual.filter_residual_sublist hmarks
  · intro traced h
    obtain ⟨⟨tally, passes⟩, htrace, rfl⟩ := exists_of_map_eq_ok h
    obtain ⟨rfl, hspans⟩ := Catalog.passes_eq_of_trace htrace
    refine ⟨?_, ?_, ?_⟩
    · rw [parse, ← Catalog.map_trace, htrace]
      rfl
    · exact List.forall₂_map_right_iff.mpr
        (List.forall₂_same.mpr fun rule _ => rule.slices_recorded p.mode text _)
    · rw [List.flatMap_map]
      exact hspans

/-- A rule that may match nothing does so before and after other characters, but not inside one and
not where its last match ends. -/
theorem spans_of_marks : ∃ rule traced,
    Rule.Draft.finish ⟨"marks", "x*", true, true, .none, true⟩ (.duration fun d _ => .ok d) =
        .ok rule ∧
      (⟨⟨[rule]⟩, .all⟩ : Parser).parseTraced English.halfPastFour "éxx—" = .ok traced ∧
      (⟨⟨[rule]⟩, .all⟩ : Parser).parse English.halfPastFour "éxx—" = .ok traced.result ∧
      traced.result.spans = [⟨0, 0⟩, ⟨2, 4⟩, ⟨7, 7⟩] ∧
      (∀ s ∈ traced.result.spans, ∃ w, s.Marks "éxx—" w) ∧
      List.Forall₂ (fun rule pass => rule.Slices "éxx—" pass.spans) [rule] traced.passes ∧
      traced.result.text = "é—" ∧
      (traced.result.text.toList.filter (· ≠ ' ')).Sublist "éxx—".toList := by
  have hanswer : (Rule.Draft.finish ⟨"marks", "x*", true, true, .none, true⟩
      (.duration fun d _ => .ok d) >>= fun rule =>
        ((⟨⟨[rule]⟩, .all⟩ : Parser).parseTraced English.halfPastFour "éxx—").map fun t =>
          (t.result.spans, t.result.text)) = .ok ([⟨0, 0⟩, ⟨2, 4⟩, ⟨7, 7⟩], "é—") := by
    decide +kernel
  obtain ⟨rule, hrule, hparse⟩ := exists_of_bind_eq_ok hanswer
  obtain ⟨traced, htraced, heq⟩ := exists_of_map_eq_ok hparse
  obtain ⟨hspans, htext⟩ := Prod.mk.inj heq
  obtain ⟨hplain, haccount⟩ :=
    spans_are_slices ⟨⟨[rule]⟩, .all⟩ English.halfPastFour "éxx—"
  obtain ⟨hresult, hslices, -⟩ := haccount traced htraced
  obtain ⟨hmarks, -, -, hsublist⟩ := hplain traced.result hresult
  exact ⟨rule, traced, hrule, htraced, hresult, hspans, fun s hs => (hmarks s hs).2.2, hslices,
    htext, hsublist⟩

end Parser

end Timephrase
