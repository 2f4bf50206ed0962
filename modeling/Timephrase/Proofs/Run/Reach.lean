import Mathlib.Data.List.Induction
import Timephrase.Parser
import Timephrase.Proofs.Run.Calls
import Timephrase.Proofs.Run.Sequence

/-!
# What a run comes to

A run comes to a step when the steps before it have succeeded, with the time and the duration that
they have left.  What holds at the start and is kept by every step holds wherever a run comes to.

## Main definitions

* `Catalog.Reaches`: a run comes to a step after some others
* `Step.captures`: what a step hands over to the meaning of its rule

## Main results

* `Catalog.Reaches.invariant`: what every step keeps
* `Parser.parse_of_steps`: what a parse answers
* `Parser.parse_eq_error_iff`: a parse fails where it comes to a step that fails
-/

namespace Timephrase

variable {context : Context} {mode : MatchMode} {text : String}

/-- What a step hands over to the meaning of its rule. -/
def Step.captures (step : Step) (text : String) : Captures :=
  .ofMatch step.1.name step.1.pattern text step.2

/-- A step of a rule for times changes the time. -/
theorem Step.rewrite_of_time {rule : Rule} {m : Pattern.Match} {t t' : Moment} {d : Duration}
    {f : Context → Moment → Captures → Except Failure Moment} (hmeaning : rule.meaning = .time f)
    (h : f context t (.ofMatch rule.name rule.pattern text m) = .ok t') :
    Step.rewrite context text (t, d) (rule, m) = .ok (t', d) := by
  simp only [Step.rewrite, hmeaning, h]
  rfl

/-- A loop goes on from where its first step comes to. -/
theorem foldlM_cons_of_ok {ε σ α : Type} {f : σ → α → Except ε σ} {a : α} {as : List α} {s s' : σ}
    (h : f s a = .ok s') : (a :: as).foldlM f s = as.foldlM f s' := by
  rw [List.foldlM_cons, h]
  rfl

/-- What every step of a loop keeps holds of its result, if it holds at the start.  It may speak of the
steps that have been made. -/
theorem foldlM_invariant {ε σ α : Type} {f : σ → α → Except ε σ} {P : List α → σ → Prop}
    {as : List α} {s s' : σ} (hstart : P [] s)
    (hstep : ∀ before a s s', a ∈ as → P before s → f s a = .ok s' → P (before ++ [a]) s')
    (h : as.foldlM f s = .ok s') : P as s' := by
  -- On the steps that have been made, from the last of them back.
  induction as using List.reverseRecOn generalizing s' with
  | nil =>
    cases h
    exact hstart
  | append_singleton as last ih =>
    rw [List.foldlM_append] at h
    obtain ⟨middle, hmiddle, hlast⟩ := exists_of_bind_eq_ok h
    rw [List.foldlM_cons] at hlast
    obtain ⟨after, hafter, hnil⟩ := exists_of_bind_eq_ok hlast
    cases hnil
    refine hstep as last middle s' (List.mem_append_right _ List.mem_cons_self) ?_ hafter
    exact ih (fun before a s s' hmem => hstep before a s s' (List.mem_append_left _ hmem)) hmiddle

namespace Catalog

variable {c : Catalog} {before : List Step} {step : Step} {state : Moment × Duration}

/-- A run comes to a step after the steps before it, which have left a time and a duration. -/
def Reaches (c : Catalog) (context : Context) (mode : MatchMode) (text : String)
    (before : List Step) (step : Step) (state : Moment × Duration) : Prop :=
  ∃ after, c.steps mode text = before ++ step :: after ∧
    before.foldlM (Step.rewrite context text) (context.today, .zero) = .ok state

theorem Reaches.mem_steps (h : c.Reaches context mode text before step state) :
    step ∈ c.steps mode text := by
  obtain ⟨after, hsteps, -⟩ := h
  rw [hsteps]
  exact List.mem_append_right _ List.mem_cons_self

/-- A step is a match that is found, of a rule of the catalog. -/
theorem mem_of_mem_steps (h : step ∈ c.steps mode text) :
    step.1 ∈ c.rules ∧ step.2 ∈ step.1.pattern.findAll text := by
  obtain ⟨rule, hrule, hfound⟩ := List.mem_flatMap.mp h
  obtain ⟨found, hmem, rfl⟩ := List.mem_map.mp hfound
  exact ⟨(List.mem_filter.mp hrule).1, Rule.mem_findAll_of_mem_matchesIn hmem⟩

/-- What every step keeps holds of what a run answers. -/
theorem invariant_of_run {P : Moment × Duration → Prop} {tally : Tally}
    (hstart : P (context.today, .zero))
    (hstep : ∀ step state state', step ∈ c.steps mode text → P state →
      step.rewrite context text state = .ok state' → P state')
    (h : c.run context mode text = .ok tally) : P (tally.time, tally.duration) := by
  rw [run_eq_foldlM] at h
  obtain ⟨state, hstate, rfl⟩ := exists_of_map_eq_ok h
  exact foldlM_invariant (P := fun _ state => P state) hstart
    (fun _ step state state' => hstep step state state') hstate

/-! ### Rule by rule -/

variable {rule : Rule} {rules : List Rule} {m : Pattern.Match}

/-- A rule without a match in a text gives no steps. -/
theorem steps_cons_of_findAll_eq_nil (h : rule.pattern.findAll text = []) :
    (⟨rule :: rules⟩ : Catalog).steps mode text = (⟨rules⟩ : Catalog).steps mode text := by
  have hnone : rule.matchesIn mode text = [] := by
    rw [Rule.matchesIn, h]
    cases mode with
    | all => rfl
    | first => rfl
  rw [steps, steps, List.filter_cons]
  split
  · rw [List.flatMap_cons, hnone]
    rfl
  · rfl

/-- A rule that is due and has a single match in a text gives it as a step, whichever matches
count. -/
theorem steps_cons_of_findAll_eq_singleton (hdue : rule.isDue text = true)
    (h : rule.pattern.findAll text = [m]) :
    (⟨rule :: rules⟩ : Catalog).steps mode text =
      (rule, m) :: (⟨rules⟩ : Catalog).steps mode text := by
  have hone : rule.matchesIn mode text = [m] := by
    rw [Rule.matchesIn, h]
    cases mode with
    | all => rfl
    | first => rfl
  rw [steps, steps, List.filter_cons_of_pos (p := fun rule : Rule => rule.isDue text) hdue,
    List.flatMap_cons, hone]
  rfl

end Catalog

/-- A parse whose steps succeed answers what they come to. -/
theorem Parser.parse_of_steps {p : Parser} {steps : List Step} {state : Moment × Duration}
    (hsteps : p.catalog.steps p.mode text = steps)
    (h : steps.foldlM (Step.rewrite context text) (context.today, .zero) = .ok state) :
    p.parse context text = .ok ⟨state.1, state.2,
      Residual.residual text (steps.map (·.2.span)), steps.map (·.2.span)⟩ := by
  rw [parse, Catalog.run_eq_foldlM, hsteps, h]
  rfl

/-- **A parse fails where it comes to a step that fails**, as that step does. -/
theorem Parser.parse_eq_error_iff {c : Catalog} {failure : Failure} :
    (⟨c, mode⟩ : Parser).parse context text = .error failure ↔
      ∃ before step state, c.Reaches context mode text before step state ∧
        step.rewrite context text state = .error failure := by
  rw [parse, map_eq_error_iff, Catalog.run_eq_error_iff]
  constructor
  · rintro ⟨before, step, after, state, hsteps, hbefore, hfails⟩
    exact ⟨before, step, state, ⟨after, hsteps, hbefore⟩, hfails⟩
  · rintro ⟨before, step, state, ⟨after, hsteps, hbefore⟩, hfails⟩
    exact ⟨before, step, after, state, hsteps, hbefore, hfails⟩

end Timephrase
