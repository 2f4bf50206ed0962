import Timephrase.Parser
import Timephrase.Proofs.English.Catalog
import Timephrase.Proofs.Residual
import Timephrase.Proofs.Run.Sequence

/-!
# Times and durations do not mix

A rule for times sees and rewrites the time alone, and a rule for durations the duration alone.  A
run is therefore two runs side by side, one of the rules for times and one of the rules for
durations, and it does not matter how the two kinds of rules are put together.

## Main definitions

* `Catalog.only`: the rules of one kind
* `Catalog.Reordered`: the same rules in another order, those of each kind in the same one

## Main results

* `Catalog.run_eq_ok_iff`: a run is made of the runs of its halves
* `Parser.parse_of_reordered`: what a parse answers does not depend on how the kinds are put together
-/

namespace Timephrase

variable {context : Context} {mode : MatchMode} {text : String}

/-! ## Steps of one kind -/

theorem Rule.exists_time_of_kind {rule : Rule} (h : rule.kind = .time) :
    ∃ f, rule.meaning = .time f := by
  cases hmeaning : rule.meaning with
  | time f => exact ⟨f, rfl⟩
  | duration f =>
    rw [Rule.kind, hmeaning] at h
    cases h

theorem Rule.exists_duration_of_kind {rule : Rule} (h : rule.kind = .duration) :
    ∃ f, rule.meaning = .duration f := by
  cases hmeaning : rule.meaning with
  | time f =>
    rw [Rule.kind, hmeaning] at h
    cases h
  | duration f => exact ⟨f, rfl⟩

namespace Step

variable {step : Step} {t t' t₀ : Moment} {d d' d₀ : Duration} {state after : Moment × Duration}

/-- A step of a rule for times does not look at the duration. -/
theorem rewrite_time (d d₀ : Duration) (h : step.1.kind = .time) :
    step.rewrite context text (t, d) =
      (step.rewrite context text (t, d₀)).map fun state => (state.1, d) := by
  obtain ⟨f, hmeaning⟩ := Rule.exists_time_of_kind h
  simp only [rewrite, hmeaning]
  cases f context t (.ofMatch step.1.name step.1.pattern text step.2) <;> rfl

/-- A step of a rule for durations does not look at the time. -/
theorem rewrite_duration (t t₀ : Moment) (h : step.1.kind = .duration) :
    step.rewrite context text (t, d) =
      (step.rewrite context text (t₀, d)).map fun state => (t, state.2) := by
  obtain ⟨f, hmeaning⟩ := Rule.exists_duration_of_kind h
  simp only [rewrite, hmeaning]
  cases f d (.ofMatch step.1.name step.1.pattern text step.2) <;> rfl

/-- The steps of one rule for durations apply its meaning to match after match. -/
theorem foldlM_rewrite_of_duration {rule : Rule} {f : Duration → Captures → Except Failure Duration}
    (h : rule.meaning = .duration f) (ms : List Pattern.Match) (t : Moment) (d : Duration) :
    (ms.map fun m => (rule, m)).foldlM (rewrite context text) (t, d) =
      ((ms.map (Captures.ofMatch rule.name rule.pattern text)).foldlM f d).map fun d => (t, d) := by
  induction ms generalizing d with
  | nil => rfl
  | cons m ms ih =>
    rw [List.map_cons, List.map_cons, List.foldlM_cons, List.foldlM_cons, rewrite]
    dsimp only
    rw [h]
    dsimp only
    cases f d (.ofMatch rule.name rule.pattern text m) with
    | error failure => rfl
    | ok d' => exact ih d'

/-- A step of a rule for times leaves the duration. -/
theorem duration_of_rewrite_time (h : step.1.kind = .time)
    (hstep : step.rewrite context text state = .ok after) : after.2 = state.2 := by
  rw [rewrite_time state.2 state.2 h] at hstep
  obtain ⟨_, -, rfl⟩ := exists_of_map_eq_ok hstep
  rfl

/-- A step of a rule for durations leaves the time. -/
theorem time_of_rewrite_duration (h : step.1.kind = .duration)
    (hstep : step.rewrite context text state = .ok after) : after.1 = state.1 := by
  rw [rewrite_duration state.1 state.1 h] at hstep
  obtain ⟨_, -, rfl⟩ := exists_of_map_eq_ok hstep
  rfl

/-- **Steps succeed** just if those of each kind do, whatever is put in the place of the other. -/
theorem foldlM_rewrite_eq_ok_iff (t₀ : Moment) (d₀ : Duration) {steps : List Step} :
    steps.foldlM (rewrite context text) (t, d) = .ok (t', d') ↔
      (steps.filter (·.1.kind == .time)).foldlM (rewrite context text) (t, d₀) = .ok (t', d₀) ∧
        (steps.filter (·.1.kind == .duration)).foldlM (rewrite context text) (t₀, d) =
          .ok (t₀, d') := by
  -- On the steps: the first is one of the two kinds, and the other half goes on without it.
  induction steps generalizing t d with
  | nil =>
    constructor
    · intro h
      cases h
      exact ⟨rfl, rfl⟩
    · rintro ⟨htime, hduration⟩
      cases htime
      cases hduration
      rfl
  | cons step steps ih =>
    cases hkind : step.1.kind with
    | time =>
      rw [List.filter_cons_of_pos (by simp [hkind]), List.filter_cons_of_neg (by simp [hkind]),
        List.foldlM_cons, List.foldlM_cons, rewrite_time d d₀ hkind]
      cases hstep : step.rewrite context text (t, d₀) with
      | error failure =>
        constructor
        · exact nofun
        · exact fun h => nomatch h.1
      | ok state =>
        obtain ⟨t₁, d₁⟩ := state
        obtain rfl : d₁ = d₀ := duration_of_rewrite_time hkind hstep
        exact ih
    | duration =>
      rw [List.filter_cons_of_neg (by simp [hkind]), List.filter_cons_of_pos (by simp [hkind]),
        List.foldlM_cons, List.foldlM_cons, rewrite_duration t t₀ hkind]
      cases hstep : step.rewrite context text (t₀, d) with
      | error failure =>
        constructor
        · exact nofun
        · exact fun h => nomatch h.2
      | ok state =>
        obtain ⟨t₁, d₁⟩ := state
        obtain rfl : t₁ = t₀ := time_of_rewrite_duration hkind hstep
        exact ih

/-- Steps of rules for times leave the duration. -/
theorem duration_of_foldlM_time {steps : List Step}
    (h : (steps.filter (·.1.kind == .time)).foldlM (rewrite context text) (t, d) = .ok (t', d')) :
    d' = d := by
  obtain ⟨-, h⟩ := (foldlM_rewrite_eq_ok_iff t d).mp h
  have hnone : (steps.filter (·.1.kind == .time)).filter (·.1.kind == .duration) = [] := by
    refine List.filter_eq_nil_iff.mpr fun step hstep => ?_
    have htime := (List.mem_filter.mp hstep).2
    rw [eq_of_beq htime]
    exact nofun
  rw [hnone] at h
  exact (Prod.mk.inj (Except.ok.inj h)).2.symm

/-- Steps of rules for durations leave the time. -/
theorem time_of_foldlM_duration {steps : List Step}
    (h : (steps.filter (·.1.kind == .duration)).foldlM (rewrite context text) (t, d) =
      .ok (t', d')) : t' = t := by
  obtain ⟨h, -⟩ := (foldlM_rewrite_eq_ok_iff t d).mp h
  have hnone : (steps.filter (·.1.kind == .duration)).filter (·.1.kind == .time) = [] := by
    refine List.filter_eq_nil_iff.mpr fun step hstep => ?_
    have hduration := (List.mem_filter.mp hstep).2
    rw [eq_of_beq hduration]
    exact nofun
  rw [hnone] at h
  exact (Prod.mk.inj (Except.ok.inj h)).1.symm

end Step

/-! ## The halves of a catalog -/

/-- What is picked out of lists put together, if it depends on the list alone. -/
theorem filter_flatMap_eq {α β : Type} {f : α → List β} {p : β → Bool} {q : α → Bool}
    {as : List α} (h : ∀ a, ∀ b ∈ f a, p b = q a) :
    (as.flatMap f).filter p = (as.filter q).flatMap f := by
  induction as with
  | nil => rfl
  | cons a as ih =>
    rw [List.flatMap_cons, List.filter_append, ih]
    cases hq : q a with
    | false =>
      have hnone : (f a).filter p = [] :=
        List.filter_eq_nil_iff.mpr fun b hb => by simp [h a b hb, hq]
      rw [hnone, List.nil_append, List.filter_cons_of_neg (by simp [hq])]
    | true =>
      have hall : (f a).filter p = f a :=
        List.filter_eq_self.mpr fun b hb => (h a b hb).trans hq
      rw [hall, List.filter_cons_of_pos hq, List.flatMap_cons]

namespace Catalog

/-- The rules of one kind. -/
def only (c : Catalog) (kind : RuleKind) : Catalog := ⟨c.rules.filter (·.kind == kind)⟩

/-- The same rules in another order, in which the rules of each kind follow one another as before. -/
def Reordered (c c' : Catalog) : Prop := ∀ kind, c'.only kind = c.only kind

variable {c c' : Catalog} {tally : Tally}

/-- The rules of the two kinds are all rules. -/
theorem perm_only (c : Catalog) :
    ((c.only .time).rules ++ (c.only .duration).rules).Perm c.rules := by
  have hother : c.rules.filter (·.kind == .duration) = c.rules.filter (!·.kind == .time) :=
    List.filter_congr fun rule _ => by cases rule.kind <;> rfl
  rw [only, only, hother]
  exact List.filter_append_perm _ c.rules

theorem Reordered.perm (h : c.Reordered c') : c'.rules.Perm c.rules := by
  refine (c'.perm_only.symm).trans ?_
  rw [h .time, h .duration]
  exact c.perm_only

theorem Reordered.perm_steps (h : c.Reordered c') :
    (c'.steps mode text).Perm (c.steps mode text) :=
  (h.perm.filter _).flatMap_right _

/-- The steps of the rules of one kind are the steps of this kind. -/
theorem steps_only (c : Catalog) (kind : RuleKind) :
    (c.only kind).steps mode text = (c.steps mode text).filter (·.1.kind == kind) := by
  rw [steps, steps, only, List.filter_comm]
  refine (filter_flatMap_eq fun rule step hstep => ?_).symm
  obtain ⟨found, -, rfl⟩ := List.mem_map.mp hstep
  rfl

theorem run_eq_ok_iff_foldlM :
    c.run context mode text = .ok tally ↔
      (c.steps mode text).foldlM (Step.rewrite context text) (context.today, .zero) =
          .ok (tally.time, tally.duration) ∧
        tally.spans = (c.steps mode text).map (·.2.span) := by
  rw [run_eq_foldlM]
  constructor
  · intro h
    obtain ⟨state, hstate, rfl⟩ := exists_of_map_eq_ok h
    exact ⟨hstate, rfl⟩
  · rintro ⟨hsteps, hspans⟩
    rw [hsteps, ← hspans]
    rfl

/-- **A run is made of the runs of its halves**: the time is that of the rules for times alone, the
duration that of the rules for durations alone. -/
theorem run_eq_ok_iff :
    c.run context mode text = .ok tally ↔
      (∃ times, (c.only .time).run context mode text = .ok times ∧ times.time = tally.time) ∧
        (∃ lengths, (c.only .duration).run context mode text = .ok lengths ∧
          lengths.duration = tally.duration) ∧
        tally.spans = (c.steps mode text).map (·.2.span) := by
  rw [run_eq_ok_iff_foldlM, Step.foldlM_rewrite_eq_ok_iff context.today .zero, ← steps_only,
    ← steps_only, and_assoc]
  refine and_congr ?_ (and_congr ?_ Iff.rfl)
  -- A half leaves what is not its own as it was at the start.
  · constructor
    · intro h
      exact ⟨⟨tally.time, .zero, _⟩, run_eq_ok_iff_foldlM.mpr ⟨h, rfl⟩, rfl⟩
    · rintro ⟨times, hrun, htime⟩
      obtain ⟨h, -⟩ := run_eq_ok_iff_foldlM.mp hrun
      rw [steps_only] at h ⊢
      rw [Step.duration_of_foldlM_time h, htime] at h
      exact h
  · constructor
    · intro h
      exact ⟨⟨context.today, tally.duration, _⟩, run_eq_ok_iff_foldlM.mpr ⟨h, rfl⟩, rfl⟩
    · rintro ⟨lengths, hrun, hduration⟩
      obtain ⟨h, -⟩ := run_eq_ok_iff_foldlM.mp hrun
      rw [steps_only] at h ⊢
      rw [Step.time_of_foldlM_duration h, hduration] at h
      exact h

end Catalog

/-! ## Parses -/

namespace Parser

variable {c c' : Catalog} {e : Extraction}

theorem parse_eq_ok_iff :
    (⟨c, mode⟩ : Parser).parse context text = .ok e ↔
      c.run context mode text = .ok ⟨e.time, e.duration, e.spans⟩ ∧
        e.text = Residual.residual text e.spans := by
  obtain ⟨time, duration, residue, spans⟩ := e
  rw [parse]
  constructor
  · intro h
    obtain ⟨tally, hrun, htally⟩ := exists_of_map_eq_ok h
    cases htally
    exact ⟨hrun, rfl⟩
  · rintro ⟨hrun, htext⟩
    dsimp only at hrun htext
    rw [hrun, htext]
    rfl

/-- A parse succeeds just if the run does. -/
theorem exists_parse_eq_ok_iff :
    (∃ e, (⟨c, mode⟩ : Parser).parse context text = .ok e) ↔
      ∃ tally, c.run context mode text = .ok tally := by
  constructor
  · rintro ⟨e, h⟩
    exact ⟨_, (parse_eq_ok_iff.mp h).1⟩
  · rintro ⟨tally, hrun⟩
    exact ⟨.ofTally text tally, parse_eq_ok_iff.mpr ⟨hrun, rfl⟩⟩

/-- A parse succeeds just if the parses with its halves do. -/
theorem exists_parse_eq_ok_iff_halves :
    (∃ e, (⟨c, mode⟩ : Parser).parse context text = .ok e) ↔
      (∃ times, (⟨c.only .time, mode⟩ : Parser).parse context text = .ok times) ∧
        ∃ lengths, (⟨c.only .duration, mode⟩ : Parser).parse context text = .ok lengths := by
  simp only [exists_parse_eq_ok_iff]
  constructor
  · rintro ⟨tally, hrun⟩
    obtain ⟨⟨times, htimes, -⟩, ⟨lengths, hlengths, -⟩, -⟩ := Catalog.run_eq_ok_iff.mp hrun
    exact ⟨⟨times, htimes⟩, lengths, hlengths⟩
  · rintro ⟨⟨times, htimes⟩, lengths, hlengths⟩
    exact ⟨⟨times.time, lengths.duration, _⟩, Catalog.run_eq_ok_iff.mpr
      ⟨⟨times, htimes, rfl⟩, ⟨lengths, hlengths, rfl⟩, rfl⟩⟩

/-- A parse answers the time of the one half and the duration of the other. -/
theorem eq_of_halves {times lengths : Extraction}
    (h : (⟨c, mode⟩ : Parser).parse context text = .ok e)
    (htimes : (⟨c.only .time, mode⟩ : Parser).parse context text = .ok times)
    (hlengths : (⟨c.only .duration, mode⟩ : Parser).parse context text = .ok lengths) :
    e.time = times.time ∧ e.duration = lengths.duration := by
  obtain ⟨⟨t, ht, htime⟩, ⟨l, hl, hduration⟩, -⟩ :=
    Catalog.run_eq_ok_iff.mp (parse_eq_ok_iff.mp h).1
  obtain rfl := Except.ok.inj (ht.symm.trans (parse_eq_ok_iff.mp htimes).1)
  obtain rfl := Except.ok.inj (hl.symm.trans (parse_eq_ok_iff.mp hlengths).1)
  exact ⟨htime.symm, hduration.symm⟩

/-- The spans of a parse are those of its steps. -/
theorem spans_eq (h : (⟨c, mode⟩ : Parser).parse context text = .ok e) :
    e.spans = (c.steps mode text).map (·.2.span) :=
  (Catalog.run_eq_ok_iff_foldlM.mp (parse_eq_ok_iff.mp h).1).2

/-- **What a parse answers does not depend on how the two kinds of rules are put together.**  If the
rules of each kind keep their order, the parse still succeeds or not, and answers the same time, the
same duration and the same text, with the same spans in some other order.  It succeeds just if the
rules for times and the rules for durations do so on their own, and takes the time from the former
and the duration from the latter. -/
theorem parse_of_reordered (h : c.Reordered c') (context : Context) (mode : MatchMode)
    (text : String) :
    ((∃ e, (⟨c, mode⟩ : Parser).parse context text = .ok e) ↔
        ∃ e', (⟨c', mode⟩ : Parser).parse context text = .ok e') ∧
      (∀ e e', (⟨c, mode⟩ : Parser).parse context text = .ok e →
        (⟨c', mode⟩ : Parser).parse context text = .ok e' →
          e'.time = e.time ∧ e'.duration = e.duration ∧ e'.text = e.text ∧
            e'.spans.Perm e.spans) ∧
      ((∃ e, (⟨c, mode⟩ : Parser).parse context text = .ok e) ↔
        (∃ times, (⟨c.only .time, mode⟩ : Parser).parse context text = .ok times) ∧
          ∃ lengths, (⟨c.only .duration, mode⟩ : Parser).parse context text = .ok lengths) ∧
      ∀ e times lengths, (⟨c, mode⟩ : Parser).parse context text = .ok e →
        (⟨c.only .time, mode⟩ : Parser).parse context text = .ok times →
        (⟨c.only .duration, mode⟩ : Parser).parse context text = .ok lengths →
          e.time = times.time ∧ e.duration = lengths.duration := by
  refine ⟨?_, fun e e' he he' => ?_, exists_parse_eq_ok_iff_halves, fun _ _ _ => eq_of_halves⟩
  -- Both catalogs have the same halves, and each parse is made of those.
  · rw [exists_parse_eq_ok_iff_halves (c := c), exists_parse_eq_ok_iff_halves (c := c'), h .time,
      h .duration]
  · obtain ⟨⟨times, htimes⟩, lengths, hlengths⟩ := exists_parse_eq_ok_iff_halves.mp ⟨e, he⟩
    obtain ⟨htime, hduration⟩ := eq_of_halves he htimes hlengths
    rw [← h .time] at htimes
    rw [← h .duration] at hlengths
    obtain ⟨htime', hduration'⟩ := eq_of_halves he' htimes hlengths
    have hperm : e'.spans.Perm e.spans := by
      rw [spans_eq he, spans_eq he']
      exact h.perm_steps.map _
    refine ⟨htime'.trans htime.symm, hduration'.trans hduration.symm, ?_, hperm⟩
    rw [(parse_eq_ok_iff.mp he).2, (parse_eq_ok_iff.mp he').2, Residual.residual_of_perm hperm]

/-- In the English catalog the rule for lengths of time may as well stand first. -/
theorem parse_with_length_first : ∃ c', English.catalogRead.Reordered c' ∧
    c'.rules.map (·.name) =
      ["duration", "yesterday", "tomorrow", "today", "at time", "date", "in offset", "timezone"] ∧
    ∃ e e', (⟨English.catalogRead, .all⟩ : Parser).parse English.halfPastFour
        "tomorrow at 3pm for 2 hours" = .ok e ∧
      (⟨c', .all⟩ : Parser).parse English.halfPastFour "tomorrow at 3pm for 2 hours" = .ok e' ∧
      e'.time = e.time ∧ e'.duration = e.duration ∧ e'.text = e.text ∧ e'.spans.Perm e.spans ∧
      e.spans = [⟨0, 8⟩, ⟨9, 15⟩, ⟨16, 27⟩] := by
  have hreordered : English.catalogRead.Reordered
      ⟨[English.durationRule, English.yesterdayRule, English.tomorrowRule, English.todayRule,
        English.atTimeRule, English.dateRule, English.inOffsetRule, English.timezoneRule]⟩ := by
    intro kind
    cases kind <;> rfl
  obtain ⟨hsucceeds, hanswers, -⟩ := parse_of_reordered hreordered English.halfPastFour .all
    "tomorrow at 3pm for 2 hours"
  have hparse : ((⟨English.catalogRead, .all⟩ : Parser).parse English.halfPastFour
      "tomorrow at 3pm for 2 hours").map (·.spans) = .ok [⟨0, 8⟩, ⟨9, 15⟩, ⟨16, 27⟩] := by
    decide +kernel
  obtain ⟨e, he, hspans⟩ := exists_of_map_eq_ok hparse
  obtain ⟨e', he'⟩ := hsucceeds.mp ⟨e, he⟩
  obtain ⟨htime, hduration, htext, hperm⟩ := hanswers e e' he he'
  exact ⟨_, hreordered, rfl, e, e', he, he', htime, hduration, htext, hperm, hspans⟩

end Parser

end Timephrase
