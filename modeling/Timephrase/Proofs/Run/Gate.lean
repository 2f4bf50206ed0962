import Mathlib.Data.List.Basic
import Timephrase.Parser
import Timephrase.Proofs.Run.Sequence

/-!
# Rules without their gates

A rule asks for features of a text and is passed over where they are missing.  That makes no
difference if the rule has no matches there anyway.

## Main definitions

* `Rule.ungated`, `Catalog.ungated`: rules that ask for no features
* `Rule.pass`: what a run makes of one rule

## Main results

* `Rule.pass_ungated`: a rule without matches is passed over in any case
* `Rule.exists_run_eq_error`: a rule fails if each of its matches does
* `Catalog.run_ungated_eq_iff`: when the first rule whose gate matters makes a difference
-/

namespace Timephrase

variable {context : Context} {mode : MatchMode} {text : String}

theorem MatchMode.exists_select_eq_cons {α : Type} {ms : List α} (h : ms ≠ []) :
    ∃ m rest, mode.select ms = m :: rest ∧ m ∈ ms := by
  obtain ⟨m, ms, rfl⟩ := List.exists_cons_of_ne_nil h
  cases mode with
  | all => exact ⟨m, ms, rfl, List.mem_cons_self⟩
  | first => exact ⟨m, [], rfl, List.mem_cons_self⟩

namespace Rule

/-- A rule that asks for no features. -/
def ungated (rule : Rule) : Rule := { rule with features := .none }

/-- One rule over a text, unless it is passed over. -/
def pass (rule : Rule) (context : Context) (mode : MatchMode) (text : String) (tally : Tally) :
    Except Failure Tally :=
  match rule.skip? (Features.scan text) with
  | some _ => .ok tally
  | none => rule.run context mode text tally

theorem run_of_findAll_eq_nil {rule : Rule} (h : rule.pattern.findAll text = []) (tally : Tally) :
    rule.run context mode text tally = .ok tally := by
  have hnone : rule.matchesIn mode text = [] := by
    rw [matchesIn, h]
    cases mode <;> rfl
  rw [run, hnone]
  rfl

theorem pass_of_includes {rule : Rule} (henabled : rule.enabled = true)
    (h : (Features.scan text).includes rule.features = true) :
    rule.pass context mode text = rule.run context mode text := by
  funext tally
  rw [pass, skip?, henabled, h]
  rfl

theorem pass_of_not_includes {rule : Rule}
    (h : (Features.scan text).includes rule.features = false) (tally : Tally) :
    rule.pass context mode text tally = .ok tally := by
  rw [pass, skip?, h]
  cases rule.enabled <;> rfl

/-- A rule in use that asks for no features is never passed over. -/
theorem pass_ungated_eq_run {rule : Rule} (henabled : rule.enabled = true) :
    rule.ungated.pass context mode text = rule.run context mode text :=
  pass_of_includes henabled (Features.includes_none _)

/-- **A gate makes no difference** where a rule has no matches. -/
theorem pass_ungated {rule : Rule} (henabled : rule.enabled = true)
    (h : (Features.scan text).includes rule.features = false → rule.pattern.findAll text = []) :
    rule.ungated.pass context mode text = rule.pass context mode text := by
  rw [pass_ungated_eq_run henabled]
  -- With the gate open both are runs of the rule; with it shut there is nothing to run.
  cases hincludes : (Features.scan text).includes rule.features with
  | true => rw [pass_of_includes henabled hincludes]
  | false =>
    funext tally
    rw [run_of_findAll_eq_nil (h hincludes), pass_of_not_includes hincludes]

/-- **A rule fails if each of its matches does.** -/
theorem exists_run_eq_error {rule : Rule} {P : Failure → Prop} (h : rule.pattern.findAll text ≠ [])
    (hfails : ∀ m ∈ rule.pattern.findAll text, ∀ tally,
      ∃ failure, P failure ∧ Tally.apply context text rule tally m = .error failure)
    (tally : Tally) : ∃ failure, P failure ∧ rule.run context mode text tally = .error failure := by
  obtain ⟨m, rest, hselect, hm⟩ := mode.exists_select_eq_cons h
  obtain ⟨failure, hP, hfailure⟩ := hfails m hm tally
  refine ⟨failure, hP, ?_⟩
  rw [run, matchesIn, hselect, List.foldlM_cons, hfailure]
  rfl

/-- A rule fails as one of its matches does. -/
theorem failure_of_pass {rule : Rule} {P : Failure → Prop}
    (h : ∀ m tally failure, Tally.apply context text rule tally m = .error failure → P failure)
    {tally : Tally} {failure : Failure}
    (hpass : rule.pass context mode text tally = .error failure) : P failure := by
  rw [pass] at hpass
  split at hpass
  · cases hpass
  · obtain ⟨before, m, after, tally', -, -, hm⟩ := foldlM_eq_error_iff.mp hpass
    exact h m tally' failure hm

end Rule

namespace Catalog

/-- A catalog whose rules ask for no features. -/
def ungated (c : Catalog) : Catalog := ⟨c.rules.map Rule.ungated⟩

variable {c : Catalog}

theorem run_eq_foldlM_pass (c : Catalog) (context : Context) (mode : MatchMode) (text : String) :
    c.run context mode text =
      c.rules.foldlM (fun tally rule => rule.pass context mode text tally) (.start context) := rfl

/-- A run takes the first rules, and then the others with what those have left. -/
theorem run_eq_take_bind (c : Catalog) (place : Nat) :
    c.run context mode text = (⟨c.rules.take place⟩ : Catalog).run context mode text >>=
      (c.rules.drop place).foldlM fun tally rule => rule.pass context mode text tally := by
  rw [run_eq_foldlM_pass, run_eq_foldlM_pass, ← List.foldlM_append, List.take_append_drop]

/-- A run takes the rules before one, then this one, and then those after it. -/
theorem run_eq_take_bind_pass {place : Nat} {rule : Rule} (hrule : c.rules[place]? = some rule) :
    c.run context mode text = (⟨c.rules.take place⟩ : Catalog).run context mode text >>=
      fun tally => rule.pass context mode text tally >>=
        (c.rules.drop (place + 1)).foldlM fun tally rule => rule.pass context mode text tally := by
  have hdrop : c.rules.drop place = rule :: c.rules.drop (place + 1) := by
    obtain ⟨hlt, rfl⟩ := List.getElem?_eq_some_iff.mp hrule
    exact List.drop_eq_getElem_cons hlt
  rw [run_eq_take_bind c place, hdrop]
  rfl

/-- A run that succeeds does so up to each of its rules. -/
theorem exists_run_take_eq_ok {place place' : Nat} (hle : place ≤ place') {tally : Tally}
    (h : (⟨c.rules.take place'⟩ : Catalog).run context mode text = .ok tally) :
    ∃ tally', (⟨c.rules.take place⟩ : Catalog).run context mode text = .ok tally' := by
  rw [run_eq_take_bind _ place, List.take_take, Nat.min_eq_left hle] at h
  obtain ⟨tally', hrun, -⟩ := exists_of_bind_eq_ok h
  exact ⟨tally', hrun⟩

/-- Rules whose gates make no difference are run alike without them. -/
theorem foldlM_ungated {rules : List Rule} (h : ∀ rule ∈ rules,
    rule.ungated.pass context mode text = rule.pass context mode text) (tally : Tally) :
    (rules.map Rule.ungated).foldlM (fun tally rule => rule.pass context mode text tally) tally =
      rules.foldlM (fun tally rule => rule.pass context mode text tally) tally := by
  induction rules generalizing tally with
  | nil => rfl
  | cons rule rules ih =>
    rw [List.map_cons, List.foldlM_cons, List.foldlM_cons, h rule List.mem_cons_self]
    cases rule.pass context mode text tally with
    | error failure => rfl
    | ok next => exact ih (fun rule hrule => h rule (List.mem_cons_of_mem _ hrule)) next

/-- Where no gate makes a difference, all together make none. -/
theorem run_ungated (h : ∀ rule ∈ c.rules,
    rule.ungated.pass context mode text = rule.pass context mode text) :
    c.ungated.run context mode text = c.run context mode text :=
  foldlM_ungated h _

/-- The failures of rules that only fail in some ways are of these ways. -/
theorem foldlM_pass_ne_error {rules : List Rule} {P : Failure → Prop}
    (h : ∀ rule ∈ rules, ∀ tally failure,
      rule.pass context mode text tally = .error failure → ¬ P failure)
    {failure : Failure} (hfailure : P failure) (tally : Tally) :
    rules.foldlM (fun tally rule => rule.pass context mode text tally) tally ≠ .error failure := by
  induction rules generalizing tally with
  | nil => exact nofun
  | cons rule rules ih =>
    rw [List.foldlM_cons]
    cases hpass : rule.pass context mode text tally with
    | error failure' =>
      intro heq
      obtain rfl : failure' = failure := Except.error.inj heq
      exact h rule List.mem_cons_self tally failure' hpass hfailure
    | ok next => exact ih (fun rule hrule => h rule (List.mem_cons_of_mem _ hrule)) next

/-- **The first rule whose gate matters** makes a difference just if the rules before it succeed: it
fails without its gate, in a way in which no later rule fails. -/
theorem run_ungated_eq_iff {place : Nat} {rule : Rule} {P : Failure → Prop}
    (hrule : c.rules[place]? = some rule)
    (hbefore : ∀ rule ∈ c.rules.take place,
      rule.ungated.pass context mode text = rule.pass context mode text)
    (hgated : (Features.scan text).includes rule.features = false)
    (hfails : ∀ tally, ∃ failure, P failure ∧
      rule.ungated.pass context mode text tally = .error failure)
    (hafter : ∀ rule ∈ c.rules.drop (place + 1), ∀ tally failure,
      rule.pass context mode text tally = .error failure → ¬ P failure) :
    c.ungated.run context mode text = c.run context mode text ↔
      ¬ ∃ tally, (⟨c.rules.take place⟩ : Catalog).run context mode text = .ok tally := by
  -- Both runs start with the rules before this one, whose gates make no difference.
  have htake : (⟨c.ungated.rules.take place⟩ : Catalog).run context mode text =
      (⟨c.rules.take place⟩ : Catalog).run context mode text := by
    rw [← run_ungated hbefore, ungated, ungated, List.map_take]
  have hungated : c.ungated.rules[place]? = some rule.ungated := by
    rw [ungated, List.getElem?_map, hrule, Option.map_some]
  rw [run_eq_take_bind_pass hungated, run_eq_take_bind_pass hrule, htake]
  -- If the rules before fail, both runs fail alike. Otherwise one run fails here, as no later rule
  -- fails in the other.
  cases (⟨c.rules.take place⟩ : Catalog).run context mode text with
  | error failure =>
    constructor
    · rintro - ⟨tally, h⟩
      cases h
    · exact fun _ => rfl
  | ok tally =>
    obtain ⟨failure, hP, hfailure⟩ := hfails tally
    constructor
    · intro heq
      -- With its gate the rule is passed over, and the later rules come next.
      change rule.ungated.pass context mode text tally >>= _ =
        rule.pass context mode text tally >>= _ at heq
      rw [hfailure, Rule.pass_of_not_includes hgated] at heq
      exact absurd heq.symm (foldlM_pass_ne_error hafter hP tally)
    · intro hnone
      exact absurd ⟨tally, rfl⟩ hnone

end Catalog

namespace Parser

/-- Two runs are the same just if the parses are. -/
theorem parse_eq_iff {c c' : Catalog} :
    (⟨c, mode⟩ : Parser).parse context text = (⟨c', mode⟩ : Parser).parse context text ↔
      c.run context mode text = c'.run context mode text := by
  constructor
  · intro h
    simp only [parse] at h
    cases hrun : c.run context mode text with
    | error failure =>
      cases hrun' : c'.run context mode text with
      | error failure' =>
        rw [hrun, hrun'] at h
        cases h
        rfl
      | ok tally =>
        rw [hrun, hrun'] at h
        cases h
    | ok tally =>
      cases hrun' : c'.run context mode text with
      | error failure =>
        rw [hrun, hrun'] at h
        cases h
      | ok tally' =>
        rw [hrun, hrun'] at h
        have hextraction := Except.ok.inj h
        -- The rest of the text follows from the spans and is not needed.
        obtain ⟨htime, hduration, -, hspans⟩ := Extraction.mk.inj hextraction
        obtain ⟨_, _, _⟩ := tally
        obtain ⟨_, _, _⟩ := tally'
        simp_all
  · intro h
    rw [parse, parse, h]

end Parser

end Timephrase
