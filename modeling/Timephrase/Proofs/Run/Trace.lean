import Timephrase.Proofs.Result
import Timephrase.Proofs.Run.Calls
import Timephrase.Run.Trace

/-!
# What the account of a run says

The account of a traced run that succeeds has an entry for each rule in order, with the spans of the
matches that count unless the rule is passed over.  What an entry says is settled by the rule and the
text alone.

## Main definitions

* `Rule.recorded`: the spans that a rule records in a text
* `Rule.account`: the entry of a rule

## Main results

* `Catalog.passes_eq_of_trace`: the entries of an account
* `Catalog.mem_spans_iff_of_trace`: the spans recorded under a name are those of the calls
-/

namespace Timephrase

variable {context : Context} {mode : MatchMode} {text : String} {there : Features}
  {tally after : Tally}

namespace Tally

theorem spans_of_apply {rule : Rule} {m : Pattern.Match}
    (h : tally.apply context text rule m = .ok after) : after.spans = tally.spans ++ [m.span] := by
  simp only [apply] at h
  split at h
  · obtain ⟨time, -, rfl⟩ := exists_of_map_eq_ok h
    rfl
  · obtain ⟨duration, -, rfl⟩ := exists_of_map_eq_ok h
    rfl

theorem spans_of_foldlM {rule : Rule} {ms : List Pattern.Match}
    (h : ms.foldlM (Tally.apply context text rule) tally = .ok after) :
    after.spans = tally.spans ++ ms.map (·.span) := by
  induction ms generalizing tally with
  | nil =>
    cases h
    simp
  | cons m ms ih =>
    rw [List.foldlM_cons] at h
    obtain ⟨next, happly, h⟩ := exists_of_bind_eq_ok h
    rw [ih h, spans_of_apply happly]
    simp

end Tally

namespace Rule

/-- The spans that a rule records in a text with some features: those of the matches that count,
unless it is passed over. -/
def recorded (rule : Rule) (mode : MatchMode) (text : String) (there : Features) : List Span :=
  match rule.skip? there with
  | some _ => []
  | none => (rule.matchesIn mode text).map (·.span)

theorem spans_of_run {rule : Rule} (h : rule.run context mode text tally = .ok after) :
    after.spans = tally.spans ++ (rule.matchesIn mode text).map (·.span) :=
  Tally.spans_of_foldlM h

/-- The entry of a rule in the account of a run that succeeds. -/
def account (rule : Rule) (mode : MatchMode) (text : String) (there : Features) : Pass where
  rule := rule.name
  kind := rule.kind
  status :=
    match rule.skip? there with
    | some skip => .ofSkip skip
    | none => .ofSpans (rule.recorded mode text there)
  spans := rule.recorded mode text there

/-- A traced rule adds the spans that it records, and its entry is settled beforehand. -/
theorem account_of_trace {rule : Rule} {pass : Pass}
    (h : rule.trace context mode text there tally = .ok (after, pass)) :
    pass = rule.account mode text there ∧
      after.spans = tally.spans ++ rule.recorded mode text there := by
  rw [trace] at h
  rw [account, recorded]
  cases hskip : rule.skip? there with
  | some skip =>
    rw [hskip] at h
    cases h
    exact ⟨rfl, (List.append_nil _).symm⟩
  | none =>
    rw [hskip] at h
    -- A traced rule starts with no spans, so that those it ends with are its own.
    obtain ⟨next, hrun, h⟩ := exists_of_bind_eq_ok h
    have hspans : next.spans = (rule.matchesIn mode text).map (·.span) := spans_of_run hrun
    cases h
    rw [hspans]
    exact ⟨rfl, rfl⟩

end Rule

namespace Catalog

theorem passes_eq_of_traceFrom {rules : List Rule} {passes : List Pass}
    (h : traceFrom context mode text there tally rules = .ok (after, passes)) :
    passes = rules.map (·.account mode text there) ∧
      after.spans = tally.spans ++ rules.flatMap (·.recorded mode text there) := by
  induction rules generalizing tally passes with
  | nil =>
    cases h
    simp
  | cons rule rules ih =>
    rw [traceFrom] at h
    obtain ⟨⟨next, pass⟩, hrule, h⟩ := exists_of_bind_eq_ok h
    obtain ⟨⟨last, more⟩, hrest, h⟩ := exists_of_bind_eq_ok h
    cases h
    obtain ⟨rfl, hnext⟩ := Rule.account_of_trace hrule
    obtain ⟨rfl, hlast⟩ := ih hrest
    rw [hlast, hnext, List.append_assoc]
    exact ⟨rfl, rfl⟩

/-- **The entries of an account** are those of the rules, and the spans of the run are the spans that
the rules record, one rule after another. -/
theorem passes_eq_of_trace {c : Catalog} {passes : List Pass}
    (h : c.trace context mode text = .ok (after, passes)) :
    passes = c.rules.map (·.account mode text (Features.scan text)) ∧
      after.spans = c.rules.flatMap (·.recorded mode text (Features.scan text)) :=
  passes_eq_of_traceFrom h

/-- A traced run that succeeds has an account. -/
theorem exists_trace_of_isOk {c : Catalog} (h : (c.trace context mode text).isOk = true) :
    ∃ tally passes, c.trace context mode text = .ok (tally, passes) := by
  obtain ⟨⟨tally, passes⟩, htrace⟩ := exists_of_isOk h
  exact ⟨tally, passes, htrace⟩

/-- **The spans recorded under a name** are those of the calls of rules of this name. -/
theorem mem_spans_iff_of_trace {c : Catalog} {passes : List Pass} {name : String} {s : Span}
    (h : c.trace context mode text = .ok (after, passes)) :
    (∃ pass ∈ passes, pass.rule = name ∧ s ∈ pass.spans) ↔
      ∃ call ∈ c.calls mode text, call.rule.name = name ∧ call.found.span = s := by
  obtain ⟨rfl, -⟩ := passes_eq_of_trace h
  constructor
  · rintro ⟨pass, hpass, rfl, hs⟩
    -- An entry is that of some rule, and a rule that is passed over has no spans in it.
    obtain ⟨rule, hrule, rfl⟩ := List.mem_map.mp hpass
    rw [Rule.account, Rule.recorded] at hs
    dsimp only at hs
    split at hs
    · cases hs
    · next hskip =>
      obtain ⟨found, hfound, rfl⟩ := List.mem_map.mp hs
      obtain ⟨place, hplace⟩ := List.getElem?_of_mem hrule
      exact ⟨⟨place, rule, found⟩, mem_calls_iff.mpr ⟨hplace, hskip, hfound⟩, rfl, rfl⟩
  · rintro ⟨call, hcall, rfl, rfl⟩
    obtain ⟨hrule, hskip, hfound⟩ := mem_calls_iff.mp hcall
    refine ⟨_, List.mem_map_of_mem (List.mem_of_getElem? hrule), rfl, ?_⟩
    rw [Rule.account, Rule.recorded]
    dsimp only
    rw [hskip]
    exact List.mem_map_of_mem hfound

end Catalog

end Timephrase
