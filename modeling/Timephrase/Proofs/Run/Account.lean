import Mathlib.Data.List.Forall2
import Timephrase.Parser
import Timephrase.Proofs.English.Catalog
import Timephrase.Proofs.Run.Gate
import Timephrase.Proofs.Run.Trace

/-!
# A traced run is a plain run with an account

A traced run finds the spans of each rule apart and puts them after those of the rules before it.
That comes to the same as recording them one after another, so that a traced parse answers what a
plain one does, and fails where and as a plain one does.

## Main definitions

* `Pass.Accounts`: an entry says of a rule what became of it in a text

## Main results

* `Catalog.map_trace`: a traced run without its account is the plain run
* `Parser.traced_parse_faithful`: what a traced parse answers, and what its account says
-/

namespace Timephrase

variable {context : Context} {mode : MatchMode} {text : String}

/-! ## The plain run in a traced one -/

namespace Rule

/-- The spans that a rule finds come after those found before it, which it does not look at. -/
theorem run_eq_map (rule : Rule) (tally : Tally) :
    rule.run context mode text tally =
      (rule.run context mode text { tally with spans := [] }).map fun after =>
        { after with spans := tally.spans ++ after.spans } := by
  -- Both runs rewrite the time and the duration alike and differ in the spans at their start.
  have hrun : ∀ tally, rule.run context mode text tally =
      (((rule.matchesIn mode text).map (rule, ·)).foldlM (Step.rewrite context text)
        (tally.time, tally.duration)).map fun state =>
          ⟨state.1, state.2, tally.spans ++ ((rule.matchesIn mode text).map (rule, ·)).map
            (·.2.span)⟩ := by
    intro tally
    rw [← Step.foldlM_apply_eq, List.foldlM_map]
    rfl
  rw [hrun tally, hrun { tally with spans := [] }]
  cases ((rule.matchesIn mode text).map (rule, ·)).foldlM (Step.rewrite context text)
      (tally.time, tally.duration) with
  | error failure => rfl
  | ok state => rfl

theorem map_trace (rule : Rule) (tally : Tally) :
    (rule.trace context mode text (Features.scan text) tally).map (·.1) =
      rule.pass context mode text tally := by
  rw [trace, pass]
  cases rule.skip? (Features.scan text) with
  | some skip => rfl
  | none =>
    dsimp only
    rw [run_eq_map rule tally]
    cases rule.run context mode text { tally with spans := [] } with
    | error failure => rfl
    | ok after => rfl

end Rule

namespace Catalog

theorem map_traceFrom (rules : List Rule) (tally : Tally) :
    (traceFrom context mode text (Features.scan text) tally rules).map (·.1) =
      rules.foldlM (fun tally rule => rule.pass context mode text tally) tally := by
  induction rules generalizing tally with
  | nil => rfl
  | cons rule rules ih =>
    rw [traceFrom, List.foldlM_cons, ← Rule.map_trace]
    cases rule.trace context mode text (Features.scan text) tally with
    | error failure => rfl
    | ok result =>
      obtain ⟨next, pass⟩ := result
      refine Eq.trans ?_ (ih next)
      -- The entries of the later rules are put behind that of this one, which leaves the tally.
      show Except.map _ (traceFrom context mode text (Features.scan text) next rules >>= _) = _
      cases traceFrom context mode text (Features.scan text) next rules with
      | error failure => rfl
      | ok rest => rfl

/-- **A traced run without its account is the plain run.** -/
theorem map_trace (c : Catalog) (context : Context) (mode : MatchMode) (text : String) :
    (c.trace context mode text).map (·.1) = c.run context mode text :=
  map_traceFrom c.rules (.start context)

end Catalog

/-! ## What an entry says -/

/-- An entry says of a rule what became of it in a text: its name and its kind, the spans of the
matches that count, and whether it was out of use, passed over for want of a feature, applied, or
found nothing. -/
structure Pass.Accounts (mode : MatchMode) (text : String) (rule : Rule) (pass : Pass) : Prop where
  name : pass.rule = rule.name
  kind : pass.kind = rule.kind
  spans : rule.isDue text = true → pass.spans = (rule.matchesIn mode text).map (·.span)
  no_spans : rule.isDue text = false → pass.spans = []
  disabled : pass.status = .disabled ↔ rule.enabled = false
  gated : pass.status = .gated ↔
    rule.enabled = true ∧ (Features.scan text).includes rule.features = false
  applied : ∀ n, pass.status = .applied n ↔
    rule.isDue text = true ∧ 0 < n ∧ n = pass.spans.length
  noMatch : pass.status = .noMatch ↔ rule.isDue text = true ∧ pass.spans = []

namespace PassStatus

theorem ofSpans_eq_applied_iff {spans : List Span} {n : Nat} :
    ofSpans spans = applied n ↔ 0 < n ∧ n = spans.length := by
  cases spans with
  | nil =>
    simp only [ofSpans, List.isEmpty_nil, if_true, reduceCtorEq, List.length_nil, false_iff]
    omega
  | cons s spans =>
    simp only [ofSpans, List.isEmpty_cons, Bool.false_eq_true, if_false, applied.injEq,
      List.length_cons]
    omega

theorem ofSpans_eq_noMatch_iff {spans : List Span} : ofSpans spans = noMatch ↔ spans = [] := by
  cases spans <;> simp [ofSpans]

theorem ofSpans_ne {spans : List Span} :
    ofSpans spans ≠ disabled ∧ ofSpans spans ≠ gated := by
  cases spans <;> simp [ofSpans]

end PassStatus

namespace Rule

theorem accounts_account (rule : Rule) (mode : MatchMode) (text : String) :
    (rule.account mode text (Features.scan text)).Accounts mode text rule := by
  cases henabled : rule.enabled with
  | false =>
    have hskip : rule.skip? (Features.scan text) = some .disabled := by simp [skip?, henabled]
    constructor <;> simp [account, recorded, isDue, hskip, henabled, PassStatus.ofSkip]
  | true =>
    cases hincludes : (Features.scan text).includes rule.features with
    | false =>
      have hskip : rule.skip? (Features.scan text) = some .gated := by
        simp [skip?, henabled, hincludes]
      constructor <;>
        simp [account, recorded, isDue, hskip, henabled, hincludes, PassStatus.ofSkip]
    | true =>
      have hskip : rule.skip? (Features.scan text) = none := by
        simp [skip?, henabled, hincludes]
      constructor <;>
        simp [account, recorded, isDue, hskip, henabled, hincludes, PassStatus.ofSpans_ne,
          PassStatus.ofSpans_eq_applied_iff, PassStatus.ofSpans_eq_noMatch_iff]

end Rule

/-- The rules that were applied are those with a span. -/
theorem Pass.Accounts.isApplied_iff {rule : Rule} {pass : Pass}
    (h : pass.Accounts mode text rule) : pass.status.isApplied = true ↔ pass.spans ≠ [] := by
  constructor
  · intro happlied
    cases hstatus : pass.status with
    | applied n =>
      obtain ⟨-, hpos, hlength⟩ := (h.applied n).mp hstatus
      exact List.ne_nil_of_length_pos (hlength ▸ hpos)
    | noMatch => simp [hstatus, PassStatus.isApplied] at happlied
    | disabled => simp [hstatus, PassStatus.isApplied] at happlied
    | gated => simp [hstatus, PassStatus.isApplied] at happlied
  · intro hspans
    have hdue : rule.isDue text = true := by
      by_contra hdue
      exact hspans (h.no_spans (Bool.eq_false_iff.mpr hdue))
    rw [(h.applied pass.spans.length).mpr ⟨hdue, List.length_pos_of_ne_nil hspans, rfl⟩]
    rfl

/-! ## Traced parses -/

namespace Parser

/-- A parse that succeeds can be traced, and its account is settled by the rules and the text. -/
theorem parseTraced_of_parse {p : Parser} {context : Context} {text : String} {e : Extraction}
    (h : p.parse context text = .ok e) :
    p.parseTraced context text =
        .ok ⟨e, context, p.catalog.rules.map (·.account p.mode text (Features.scan text))⟩ ∧
      e.spans = p.catalog.rules.flatMap (·.recorded p.mode text (Features.scan text)) := by
  obtain ⟨tally, hrun, rfl⟩ := exists_of_map_eq_ok h
  rw [← Catalog.map_trace] at hrun
  obtain ⟨⟨traced, passes⟩, htrace, rfl⟩ := exists_of_map_eq_ok hrun
  obtain ⟨rfl, hspans⟩ := Catalog.passes_eq_of_trace htrace
  rw [parseTraced, htrace]
  exact ⟨rfl, hspans⟩

/-- The account of a catalog has an entry for each rule, and says that those with a span were
applied. -/
theorem faithful_account (rules : List Rule) (mode : MatchMode) (text : String) :
    List.Forall₂ (Pass.Accounts mode text) rules
        (rules.map (·.account mode text (Features.scan text))) ∧
      ((rules.map (·.account mode text (Features.scan text))).filter (·.status.isApplied)).map
          (·.rule) =
        ((rules.map (·.account mode text (Features.scan text))).filter (·.spans ≠ [])).map
          (·.rule) := by
  refine ⟨List.forall₂_map_right_iff.mpr (List.forall₂_same.mpr fun rule _ =>
    rule.accounts_account mode text), ?_⟩
  refine congrArg (List.map Pass.rule) (List.filter_congr fun pass hpass => ?_)
  obtain ⟨rule, -, rfl⟩ := List.mem_map.mp hpass
  rw [Bool.eq_iff_iff, (rule.accounts_account mode text).isApplied_iff, decide_eq_true_iff]

/-- **A traced parse is a plain one with a faithful account.**  It fails just as the plain parse
does, and otherwise answers the same.  Then there is an entry for each rule of the catalog, in
order, the spans of the entries put together are those of the answer, and the rules that are said to
be applied are those with a span. -/
theorem traced_parse_faithful (p : Parser) (context : Context) (text : String) :
    (p.parseTraced context text).map (·.result) = p.parse context text ∧
      ∀ traced, p.parseTraced context text = .ok traced →
        List.Forall₂ (Pass.Accounts p.mode text) p.catalog.rules traced.passes ∧
          traced.passes.flatMap (·.spans) = traced.result.spans ∧
          traced.appliedRules = (traced.passes.filter (·.spans ≠ [])).map (·.rule) := by
  constructor
  · rw [parse, parseTraced, ← Catalog.map_trace]
    cases p.catalog.trace context p.mode text with
    | error failure => rfl
    | ok result => rfl
  · intro traced h
    obtain ⟨⟨tally, passes⟩, htrace, rfl⟩ := exists_of_map_eq_ok h
    obtain ⟨rfl, hspans⟩ := Catalog.passes_eq_of_trace htrace
    obtain ⟨haccounts, happlied⟩ := faithful_account p.catalog.rules p.mode text
    refine ⟨haccounts, ?_, happlied⟩
    rw [List.flatMap_map]
    exact hspans.symm

/-- In "lunch at 1" one rule of the English catalog is applied.  The others find nothing, are passed
over for want of a feature, or are out of use. -/
theorem traced_parse_of_lunch : ∃ traced,
    (⟨English.catalogRead.setEnabled "today" false, .all⟩ : Parser).parseTraced
        English.halfPastFour "lunch at 1" = .ok traced ∧
      (⟨English.catalogRead.setEnabled "today" false, .all⟩ : Parser).parse
        English.halfPastFour "lunch at 1" = .ok traced.result ∧
      traced.passes.map (·.status) =
        [.noMatch, .noMatch, .disabled, .applied 1, .noMatch, .gated, .noMatch, .gated] ∧
      traced.passes.flatMap (·.spans) = traced.result.spans ∧
      (traced.passes.filter (·.spans ≠ [])).map (·.rule) = ["at time"] := by
  obtain ⟨hresult, haccount⟩ := traced_parse_faithful
    ⟨English.catalogRead.setEnabled "today" false, .all⟩ English.halfPastFour "lunch at 1"
  have hstatus : ((⟨English.catalogRead.setEnabled "today" false, .all⟩ : Parser).parseTraced
      English.halfPastFour "lunch at 1").map (fun t => (t.passes.map (·.status), t.appliedRules)) =
      .ok ([.noMatch, .noMatch, .disabled, .applied 1, .noMatch, .gated, .noMatch, .gated],
        ["at time"]) := by
    decide +kernel
  obtain ⟨traced, htraced, heq⟩ := exists_of_map_eq_ok hstatus
  obtain ⟨hpasses, happlied⟩ := Prod.mk.inj heq
  obtain ⟨-, hspans, hrules⟩ := haccount traced htraced
  refine ⟨traced, htraced, ?_, hpasses, hspans, hrules.symm.trans happlied⟩
  rw [← hresult, htraced]
  rfl

end Parser

end Timephrase
