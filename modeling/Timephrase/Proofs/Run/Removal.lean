import Mathlib.Data.List.Forall2
import Timephrase.Proofs.Run.Halves
import Timephrase.Proofs.Run.Trace

/-!
# What is removed does not depend on what it means

Which spans a run records is settled by the patterns, the features asked for and the rules in use.
Neither the context nor the meanings have a part in it, so that two runs that succeed take the same
out of a text.  The context has no part in the duration either.

## Main definitions

* `Rule.FindsAlike`: two rules that find the same in every text
* `Rule.LengthensAlike`: two rules whose meanings make the same of a duration

## Main results

* `Parser.removal_ignores_meaning`: two parses with rules that find alike
-/

namespace Timephrase

variable {mode : MatchMode} {text : String} {there : Features} {rule rule' : Rule}

/-! ## Rules that find alike -/

namespace Rule

/-- Two rules have the same pattern, ask for the same features, rewrite the same of time and
duration, and are both in use or both out of it.  Their names and their meanings may differ. -/
structure FindsAlike (rule rule' : Rule) : Prop where
  pattern : rule'.pattern = rule.pattern
  features : rule'.features = rule.features
  kind : rule'.kind = rule.kind
  enabled : rule'.enabled = rule.enabled

/-- If two rules are for durations, their meanings make the same of a duration at every match in a
text, each given the captures under the name of its own rule. -/
def LengthensAlike (text : String) (rule rule' : Rule) : Prop :=
  ∀ f f', rule.meaning = .duration f → rule'.meaning = .duration f' → ∀ found d,
    (f d (.ofMatch rule.name rule.pattern text found)).toOption =
      (f' d (.ofMatch rule'.name rule'.pattern text found)).toOption

theorem FindsAlike.refl (rule : Rule) : rule.FindsAlike rule := ⟨rfl, rfl, rfl, rfl⟩

/-- Rules with the same name and the same meaning make the same of a duration. -/
theorem LengthensAlike.of_meaning_eq (h : rule.FindsAlike rule') (hname : rule'.name = rule.name)
    (hmeaning : rule'.meaning = rule.meaning) : rule.LengthensAlike text rule' := by
  intro f f' hf hf' found d
  obtain rfl : f = f' := Meaning.duration.inj (hf.symm.trans (hmeaning.symm.trans hf'))
  rw [hname, h.pattern]

theorem LengthensAlike.refl (text : String) (rule : Rule) : rule.LengthensAlike text rule :=
  .of_meaning_eq (.refl rule) rfl rfl

namespace FindsAlike

variable (h : rule.FindsAlike rule')
include h

theorem skip?_eq : rule'.skip? there = rule.skip? there := by
  rw [skip?, skip?, h.enabled, h.features]

theorem isDue_eq : rule'.isDue text = rule.isDue text := by
  rw [isDue, isDue, h.enabled, h.features]

theorem matchesIn_eq : rule'.matchesIn mode text = rule.matchesIn mode text := by
  rw [matchesIn, matchesIn, h.pattern]

theorem recorded_eq : rule'.recorded mode text there = rule.recorded mode text there := by
  rw [recorded, recorded, h.skip?_eq, h.matchesIn_eq]

/-- The entries of the two rules in the accounts of runs have the same status. -/
theorem status_account_eq :
    (rule'.account mode text there).status = (rule.account mode text there).status := by
  rw [account, account]
  dsimp only
  rw [h.skip?_eq, h.recorded_eq]

end FindsAlike

end Rule

/-! ## Steps that go together -/

namespace Catalog

variable {c c' : Catalog} {R : Rule → Rule → Prop}

theorem steps_cons (rule : Rule) (rules : List Rule) :
    (⟨rule :: rules⟩ : Catalog).steps mode text =
      (if rule.isDue text then (rule.matchesIn mode text).map (rule, ·) else []) ++
        (⟨rules⟩ : Catalog).steps mode text := by
  rw [steps, steps]
  dsimp only
  rw [List.filter_cons]
  cases rule.isDue text <;> rfl

/-- The steps of two catalogs whose rules find alike are the same matches of rules that go
together. -/
theorem forall₂_steps (mode : MatchMode) (text : String)
    (h : List.Forall₂ (fun rule rule' => rule.FindsAlike rule' ∧ R rule rule')
    c.rules c'.rules) :
    List.Forall₂ (fun step step' : Step => step'.2 = step.2 ∧ step.1.FindsAlike step'.1 ∧
      R step.1 step'.1) (c.steps mode text) (c'.steps mode text) := by
  obtain ⟨rules⟩ := c
  obtain ⟨rules'⟩ := c'
  dsimp only at h
  induction h with
  | nil => exact .nil
  | @cons rule rule' rules rules' hrule _ ih =>
    rw [steps_cons, steps_cons, hrule.1.isDue_eq, hrule.1.matchesIn_eq]
    refine List.rel_append ?_ ih
    cases rule.isDue text with
    | false => exact .nil
    | true =>
      refine List.forall₂_map_left_iff.mpr (List.forall₂_map_right_iff.mpr ?_)
      exact List.forall₂_same.mpr fun found _ => ⟨rfl, hrule⟩

end Catalog

/-! ## Parses -/

/-- Lists that go together in pairs have the same image if each pair has. -/
theorem map_eq_map_of_forall₂ {α β γ : Type} {f : α → γ} {g : β → γ} {as : List α} {bs : List β}
    (h : List.Forall₂ (fun a b => g b = f a) as bs) : bs.map g = as.map f := by
  induction h with
  | nil => rfl
  | cons hpair _ ih => rw [List.map_cons, List.map_cons, hpair, ih]

namespace Step

variable {context context' : Context} {step step' : Step}

/-- Steps that go together leave the same duration if they start from the same one. -/
theorem duration_eq_of_rewrite (hfound : step'.2 = step.2) (hkind : step'.1.kind = step.1.kind)
    (hlengthens : step.1.LengthensAlike text step'.1) {state after state' after' : Moment × Duration}
    (hstart : state'.2 = state.2) (h : step.rewrite context text state = .ok after)
    (h' : step'.rewrite context' text state' = .ok after') : after'.2 = after.2 := by
  cases hsame : step.1.kind with
  | time =>
    rw [duration_of_rewrite_time (hkind.trans hsame) h', duration_of_rewrite_time hsame h, hstart]
  | duration =>
    obtain ⟨f, hf⟩ := Rule.exists_duration_of_kind hsame
    obtain ⟨f', hf'⟩ := Rule.exists_duration_of_kind (hkind.trans hsame)
    rw [rewrite, hf] at h
    rw [rewrite, hf', hfound, hstart] at h'
    obtain ⟨d, hd, rfl⟩ := exists_of_map_eq_ok h
    obtain ⟨d', hd', rfl⟩ := exists_of_map_eq_ok h'
    have halike := hlengthens f f' hf hf' step.2 state.2
    rw [hd, hd'] at halike
    exact (Option.some.inj halike).symm

end Step

namespace Parser

variable {c c' : Catalog}

/-- **What is removed does not depend on what it means.**  Two parses of a text with rules that find
alike, in any two contexts and with whatever meanings, take out the same spans and leave the same
text if both succeed, and the accounts of two traced parses give the rules the same status.  If the
rules make the same of durations, as they do if they also have the same names and meanings, the
durations are the same. -/
theorem removal_ignores_meaning (h : List.Forall₂ Rule.FindsAlike c.rules c'.rules)
    (context context' : Context) (mode : MatchMode) (text : String) :
    (∀ e e', (⟨c, mode⟩ : Parser).parse context text = .ok e →
        (⟨c', mode⟩ : Parser).parse context' text = .ok e' →
          e'.spans = e.spans ∧ e'.text = e.text ∧
            (List.Forall₂ (Rule.LengthensAlike text) c.rules c'.rules →
              e'.duration = e.duration)) ∧
      ∀ traced traced', (⟨c, mode⟩ : Parser).parseTraced context text = .ok traced →
        (⟨c', mode⟩ : Parser).parseTraced context' text = .ok traced' →
          traced'.passes.map (·.status) = traced.passes.map (·.status) := by
  refine ⟨fun e e' he he' => ?_, fun traced traced' ht ht' => ?_⟩
  · have hsteps := Catalog.forall₂_steps (R := fun _ _ => True) mode text
      (h.imp fun _ _ halike => ⟨halike, trivial⟩)
    have hspans : e'.spans = e.spans := by
      rw [spans_eq he, spans_eq he']
      exact map_eq_map_of_forall₂ (hsteps.imp fun _ _ hstep => congrArg (·.span) hstep.1)
    refine ⟨hspans, ?_, fun hlengthens => ?_⟩
    · rw [(parse_eq_ok_iff.mp he).2, (parse_eq_ok_iff.mp he').2, hspans]
    · obtain ⟨hrun, -⟩ := Catalog.run_eq_ok_iff_foldlM.mp (parse_eq_ok_iff.mp he).1
      obtain ⟨hrun', -⟩ := Catalog.run_eq_ok_iff_foldlM.mp (parse_eq_ok_iff.mp he').1
      -- The two runs go through their steps side by side, with one duration all the way.
      have hsteps := Catalog.forall₂_steps mode text
        (h.mp (fun _ _ halike hlength => And.intro halike hlength) hlengthens)
      exact foldlM_forall₂ (V := fun state state' => state'.2 = state.2) hsteps
        (fun _ _ _ _ _ _ hstep => Step.duration_eq_of_rewrite hstep.1 hstep.2.1.kind hstep.2.2)
        rfl hrun hrun'
  · obtain ⟨⟨tally, passes⟩, htrace, rfl⟩ := exists_of_map_eq_ok ht
    obtain ⟨⟨tally', passes'⟩, htrace', rfl⟩ := exists_of_map_eq_ok ht'
    obtain ⟨rfl, -⟩ := Catalog.passes_eq_of_trace htrace
    obtain ⟨rfl, -⟩ := Catalog.passes_eq_of_trace htrace'
    dsimp only
    rw [List.map_map, List.map_map]
    exact map_eq_map_of_forall₂ (h.imp fun _ _ hrule => hrule.status_account_eq)

/-- With "today" for the moment itself, the English catalog takes the same out of a text, two years
later and by another clock too. -/
theorem removal_from_block : ∃ c' e e',
    List.Forall₂ Rule.FindsAlike English.catalogRead.rules c'.rules ∧
      (⟨English.catalogRead, .all⟩ : Parser).parse English.halfPastFour
        "block today for 2 hours" = .ok e ∧
      (⟨c', .all⟩ : Parser).parse (.at ⟨⟨1423715400, 0⟩, 3600⟩) "block today for 2 hours" = .ok e' ∧
      e'.spans = e.spans ∧ e'.text = e.text ∧ e'.duration = e.duration ∧
      e.time = ⟨⟨1360627200, 0⟩, 0⟩ ∧ e'.time = ⟨⟨1423715400, 0⟩, 3600⟩ := by
  let todayNow : Rule :=
    { English.todayRule with meaning := .time fun context _ _ => .ok context.now }
  let c' : Catalog := ⟨[English.yesterdayRule, English.tomorrowRule, todayNow, English.atTimeRule,
    English.durationRule, English.dateRule, English.inOffsetRule, English.timezoneRule]⟩
  have halike : List.Forall₂ Rule.FindsAlike English.catalogRead.rules c'.rules :=
    .cons (.refl _) (.cons (.refl _) (.cons ⟨rfl, rfl, rfl, rfl⟩ (.cons (.refl _)
      (.cons (.refl _) (.cons (.refl _) (.cons (.refl _) (.cons (.refl _) .nil)))))))
  -- Neither of the two meanings is one for durations.
  have htoday : English.todayRule.LengthensAlike "block today for 2 hours" todayNow := by
    intro f f' hf
    cases hf
  have hlengthens : List.Forall₂ (Rule.LengthensAlike "block today for 2 hours")
      English.catalogRead.rules c'.rules :=
    .cons (.refl _ _) (.cons (.refl _ _) (.cons htoday (.cons (.refl _ _)
      (.cons (.refl _ _) (.cons (.refl _ _) (.cons (.refl _ _) (.cons (.refl _ _) .nil)))))))
  have htime : ((⟨English.catalogRead, .all⟩ : Parser).parse English.halfPastFour
      "block today for 2 hours").map (·.time) = .ok ⟨⟨1360627200, 0⟩, 0⟩ := by
    decide +kernel
  have htime' : ((⟨c', .all⟩ : Parser).parse (.at ⟨⟨1423715400, 0⟩, 3600⟩)
      "block today for 2 hours").map (·.time) = .ok ⟨⟨1423715400, 0⟩, 3600⟩ := by
    decide +kernel
  obtain ⟨e, he, hat⟩ := exists_of_map_eq_ok htime
  obtain ⟨e', he', hat'⟩ := exists_of_map_eq_ok htime'
  obtain ⟨hspans, htext, hduration⟩ := (removal_ignores_meaning halike English.halfPastFour
    (.at ⟨⟨1423715400, 0⟩, 3600⟩) .all "block today for 2 hours").1 e e' he he'
  exact ⟨c', e, e', halike, he, he', hspans, htext, hduration hlengthens, hat, hat'⟩

end Parser

end Timephrase
