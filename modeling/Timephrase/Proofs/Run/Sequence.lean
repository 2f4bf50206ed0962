import Timephrase.Proofs.Pattern.Finding
import Timephrase.Proofs.Result
import Timephrase.Run.Calls

/-!
# A run is one sequence of steps

A run goes through the rules, and within each rule through its matches.  It comes to the same as one
loop over all matches of the rules that are not passed over, and stops where the first meaning
fails.

## Main definitions

* `Catalog.steps`: the matches that count, each with its rule, in one list
* `Step.rewrite`: what the meaning of a rule makes of the time and the duration at a match
* `Catalog.FirstFailure`: the first step whose meaning fails
* `Catalog.walk`: the loops of a run, whatever is done at a match
* `Catalog.observe`: a run that notes each step before its meaning is asked

## Main results

* `Catalog.walk_eq_foldlM`: the two loops are one
* `Catalog.run_is_sequence`: what a run answers, and which meanings it asks
-/

namespace Timephrase

/-- A rule and one of its matches. -/
abbrev Step := Rule × Pattern.Match

/-- The time and the duration after a step.  The meaning of a rule for times is given the time and
makes a new one, that of a rule for durations the duration. -/
def Step.rewrite (context : Context) (text : String) (state : Moment × Duration) (step : Step) :
    Except Failure (Moment × Duration) :=
  let captures := Captures.ofMatch step.1.name step.1.pattern text step.2
  match step.1.meaning with
  | .time f => (f context state.1 captures).map fun time => (time, state.2)
  | .duration f => (f state.2 captures).map fun duration => (state.1, duration)

/-- Whether a rule is in use and a text has its features. -/
def Rule.isDue (rule : Rule) (text : String) : Bool :=
  rule.enabled && (Features.scan text).includes rule.features

theorem Rule.skip?_eq_none_iff {rule : Rule} {text : String} :
    rule.skip? (Features.scan text) = none ↔ rule.isDue text = true := by
  simp only [skip?, isDue]
  cases rule.enabled <;> cases (Features.scan text).includes rule.features <;> simp

namespace Catalog

/-- The matches that count of the rules that are due, each with its rule: rule by rule, and from
left to right in the text. -/
def steps (c : Catalog) (mode : MatchMode) (text : String) : List Step :=
  (c.rules.filter (·.isDue text)).flatMap fun rule =>
    (rule.matchesIn mode text).map fun found => (rule, found)

/-- The steps up to some point succeed and the next one fails. -/
def FirstFailure (c : Catalog) (context : Context) (mode : MatchMode) (text : String)
    (before : List Step) (step : Step) (failure : Failure) : Prop :=
  ∃ after state, c.steps mode text = before ++ step :: after ∧
    before.foldlM (Step.rewrite context text) (context.today, .zero) = .ok state ∧
    step.rewrite context text state = .error failure

/-! ## The loops of a run -/

section Walk

variable {M : Type → Type} [Monad M]

/-- The loops of a run over rules and matches, with what is done at a match left open. -/
def walk (c : Catalog) (mode : MatchMode) (text : String)
    (act : Rule → Tally → Pattern.Match → M Tally) (start : Tally) : M Tally :=
  let there := Features.scan text
  c.rules.foldlM
    (fun tally rule =>
      match rule.skip? there with
      | some _ => pure tally
      | none => (rule.matchesIn mode text).foldlM (act rule) tally)
    start

/-- A run is its loops with the meanings applied. -/
theorem run_eq_walk (c : Catalog) (context : Context) (mode : MatchMode) (text : String) :
    c.run context mode text =
      c.walk mode text (fun rule => Tally.apply context text rule) (.start context) := rfl

/-- **The two loops of a run are one** over the matches of the rules that are due. -/
theorem walk_eq_foldlM [LawfulMonad M] (c : Catalog) (mode : MatchMode) (text : String)
    (act : Rule → Tally → Pattern.Match → M Tally) (start : Tally) :
    c.walk mode text act start =
      (c.steps mode text).foldlM (fun tally step => act step.1 tally step.2) start := by
  rw [walk, steps]
  induction c.rules generalizing start with
  | nil => rfl
  | cons rule rules ih =>
    rw [List.foldlM_cons]
    cases hskip : rule.skip? (Features.scan text) with
    | some skip =>
      -- The rule is passed over and gives no steps.
      have hdue : ¬ rule.isDue text = true := by
        rw [← Rule.skip?_eq_none_iff, hskip]
        exact nofun
      rw [List.filter_cons_of_neg (p := fun rule : Rule => rule.isDue text) hdue, ← ih]
      exact pure_bind _ _
    | none =>
      -- The matches of the rule are the first steps; the loop over the other rules goes on from the
      -- tally that they leave, whatever it is.
      rw [List.filter_cons_of_pos (p := fun rule : Rule => rule.isDue text)
        (Rule.skip?_eq_none_iff.mp hskip), List.flatMap_cons, List.foldlM_append, List.foldlM_map]
      exact bind_congr ih

end Walk

end Catalog

/-! ## Steps one after another -/

section Steps

variable {ε σ α : Type} {f : σ → α → Except ε σ}

/-- A loop that fails does so at one of its steps, up to which it succeeds. -/
theorem exists_step_of_foldlM_eq_error {as : List α} {s : σ} {e : ε}
    (h : as.foldlM f s = .error e) :
    ∃ before a after s', as = before ++ a :: after ∧ before.foldlM f s = .ok s' ∧
      f s' a = .error e := by
  -- On the list: either its head is the step that fails, or the loop goes on from a later state.
  induction as generalizing s with
  | nil => cases h
  | cons a as ih =>
    rw [List.foldlM_cons] at h
    cases ha : f s a with
    | error e' =>
      rw [ha] at h
      obtain rfl : e' = e := Except.error.inj h
      exact ⟨[], a, as, s, rfl, rfl, ha⟩
    | ok s₁ =>
      rw [ha] at h
      obtain ⟨before, b, after, s', rfl, hbefore, hb⟩ := ih h
      refine ⟨a :: before, b, after, s', rfl, ?_, hb⟩
      rw [List.foldlM_cons, ha]
      exact hbefore

/-- A loop fails where the first of its steps does. -/
theorem foldlM_eq_error_iff {as : List α} {s : σ} {e : ε} :
    as.foldlM f s = .error e ↔
      ∃ before a after s', as = before ++ a :: after ∧ before.foldlM f s = .ok s' ∧
        f s' a = .error e := by
  constructor
  · exact exists_step_of_foldlM_eq_error
  · rintro ⟨before, a, after, s', rfl, hbefore, ha⟩
    rw [List.foldlM_append, hbefore]
    change (a :: after).foldlM f s' = .error e
    rw [List.foldlM_cons, ha]
    rfl

/-- Two loops over steps that go together in pairs keep what each pair of steps keeps between the two
states. -/
theorem foldlM_forall₂ {τ β : Type} {g : τ → β → Except ε τ} {R : α → β → Prop} {V : σ → τ → Prop}
    {as : List α} {bs : List β} (hpairs : List.Forall₂ R as bs)
    (hstep : ∀ a b s t s' t', R a b → V s t → f s a = .ok s' → g t b = .ok t' → V s' t')
    {s s' : σ} {t t' : τ} (hstart : V s t) (hs : as.foldlM f s = .ok s')
    (ht : bs.foldlM g t = .ok t') : V s' t' := by
  induction hpairs generalizing s t with
  | nil =>
    cases hs
    cases ht
    exact hstart
  | cons hpair _ ih =>
    rw [List.foldlM_cons] at hs ht
    obtain ⟨s₁, hs₁, hs⟩ := exists_of_bind_eq_ok hs
    obtain ⟨t₁, ht₁, ht⟩ := exists_of_bind_eq_ok ht
    exact ih (hstep _ _ _ _ _ _ hpair hstart hs₁ ht₁) hs ht

end Steps

namespace Step

variable {context : Context} {text : String} {tally : Tally}

/-- A match is added to a tally by rewriting the time and the duration and recording its span. -/
theorem apply_eq_rewrite (context : Context) (text : String) (tally : Tally) (step : Step) :
    tally.apply context text step.1 step.2 =
      (step.rewrite context text (tally.time, tally.duration)).map fun state =>
        ⟨state.1, state.2, tally.spans ++ [step.2.span]⟩ := by
  rw [Tally.apply, rewrite]
  cases step.1.meaning with
  | time f =>
    dsimp only
    cases f context tally.time (.ofMatch step.1.name step.1.pattern text step.2) with
    | error failure => rfl
    | ok time => rfl
  | duration f =>
    dsimp only
    cases f tally.duration (.ofMatch step.1.name step.1.pattern text step.2) with
    | error failure => rfl
    | ok duration => rfl

/-- What a list of steps makes of a tally. -/
theorem foldlM_apply_eq (steps : List Step) (tally : Tally) :
    steps.foldlM (fun tally step => tally.apply context text step.1 step.2) tally =
      (steps.foldlM (rewrite context text) (tally.time, tally.duration)).map fun state =>
        ⟨state.1, state.2, tally.spans ++ steps.map (·.2.span)⟩ := by
  induction steps generalizing tally with
  | nil => simp [pure, Except.pure, Except.map]
  | cons step steps ih =>
    rw [List.foldlM_cons, List.foldlM_cons, apply_eq_rewrite]
    cases step.rewrite context text (tally.time, tally.duration) with
    | error failure => rfl
    | ok state =>
      refine (ih _).trans ?_
      simp only [List.append_assoc, List.map_cons, List.singleton_append]
      rfl

/-! ## Noting the steps -/

/-- A step that is noted before the meaning of its rule is asked. -/
def note (context : Context) (text : String) (rule : Rule) (tally : Tally) (found : Pattern.Match) :
    ExceptT Failure (StateM (List Step)) Tally :=
  ExceptT.mk fun noted => (tally.apply context text rule found, noted ++ [(rule, found)])

section Note

variable {α β : Type} {x : ExceptT Failure (StateM (List Step)) α}
  {f : α → ExceptT Failure (StateM (List Step)) β} {noted noted' : List Step}

theorem run_bind_of_ok {a : α} (h : x.run.run noted = (.ok a, noted')) :
    (x >>= f).run.run noted = (f a).run.run noted' := by
  have h : StateT.run x.run noted = (pure (.ok a, noted') : Id _) := h
  rw [ExceptT.run_bind, StateT.run_bind, h, pure_bind]

theorem run_bind_of_error {failure : Failure} (h : x.run.run noted = (.error failure, noted')) :
    (x >>= f).run.run noted = (.error failure, noted') := by
  have h : StateT.run x.run noted = (pure (.error failure, noted') : Id _) := h
  rw [ExceptT.run_bind, StateT.run_bind, h, pure_bind]
  rfl

end Note

/-- Steps that succeed are all noted. -/
theorem note_of_ok {steps : List Step} {after : Tally} (noted : List Step)
    (h : steps.foldlM (fun tally step => tally.apply context text step.1 step.2) tally =
      .ok after) :
    (steps.foldlM (fun tally step => note context text step.1 tally step.2) tally).run.run noted =
      (.ok after, noted ++ steps) := by
  induction steps generalizing tally noted with
  | nil =>
    cases h
    rw [List.append_nil]
    rfl
  | cons step steps ih =>
    rw [List.foldlM_cons] at h
    obtain ⟨next, hstep, h⟩ := exists_of_bind_eq_ok h
    have hnote : (note context text step.1 tally step.2).run.run noted =
        (.ok next, noted ++ [step]) := by
      rw [← hstep]
      rfl
    rw [List.foldlM_cons, run_bind_of_ok hnote, ih _ h, List.append_assoc]
    rfl

/-- After a step that fails nothing more is noted. -/
theorem note_of_error {before : List Step} {step : Step} {after : List Step} {reached : Tally}
    {failure : Failure}
    (h : before.foldlM (fun tally step => tally.apply context text step.1 step.2) tally =
      .ok reached)
    (hstep : reached.apply context text step.1 step.2 = .error failure) :
    ((before ++ step :: after).foldlM (fun tally step => note context text step.1 tally step.2)
        tally).run.run [] =
      (.error failure, before ++ [step]) := by
  have hnote : (note context text step.1 reached step.2).run.run before =
      (.error failure, before ++ [step]) := by
    rw [← hstep]
    rfl
  -- The steps before are all noted, then the one that fails; the loop never gets to those after it.
  rw [List.foldlM_append, run_bind_of_ok (note_of_ok [] h), List.nil_append, List.foldlM_cons,
    run_bind_of_error hnote]

end Step

namespace Catalog

/-- A run that notes each step before the meaning of its rule is asked. -/
def observe (c : Catalog) (context : Context) (mode : MatchMode) (text : String) :
    Except Failure Tally × List Step :=
  (c.walk mode text (Step.note context text) (.start context)).run.run []

variable {c : Catalog} {context : Context} {mode : MatchMode} {text : String}

theorem run_eq_foldlM (c : Catalog) (context : Context) (mode : MatchMode) (text : String) :
    c.run context mode text =
      ((c.steps mode text).foldlM (Step.rewrite context text) (context.today, .zero)).map
        fun state => ⟨state.1, state.2, (c.steps mode text).map (·.2.span)⟩ := by
  rw [run_eq_walk, walk_eq_foldlM, Step.foldlM_apply_eq]
  rfl

theorem run_eq_error_iff {failure : Failure} :
    c.run context mode text = .error failure ↔
      ∃ before step, c.FirstFailure context mode text before step failure := by
  -- The spans are put to a result and leave a failure as it is.
  rw [run_eq_foldlM, map_eq_error_iff, foldlM_eq_error_iff]
  rfl

/-- The steps that a run takes are all of them if it succeeds, and otherwise those up to the first
that fails. -/
theorem observe_of_ok {tally : Tally} (h : c.run context mode text = .ok tally) :
    c.observe context mode text = (.ok tally, c.steps mode text) := by
  rw [run_eq_walk, walk_eq_foldlM] at h
  rw [observe, walk_eq_foldlM]
  exact Step.note_of_ok [] h

theorem observe_of_firstFailure {before : List Step} {step : Step} {failure : Failure}
    (h : c.FirstFailure context mode text before step failure) :
    c.observe context mode text = (.error failure, before ++ [step]) := by
  obtain ⟨after, state, hsteps, hbefore, hstep⟩ := h
  rw [observe, walk_eq_foldlM, hsteps]
  have hreached : before.foldlM (fun (tally : Tally) step => tally.apply context text step.1 step.2)
      (.start context) = .ok ⟨state.1, state.2, before.map (·.2.span)⟩ := by
    have hstart : before.foldlM (Step.rewrite context text)
        ((Tally.start context).time, (Tally.start context).duration) = .ok state := hbefore
    rw [Step.foldlM_apply_eq, hstart]
    rfl
  refine Step.note_of_error hreached ?_
  rw [Step.apply_eq_rewrite, hstep]
  rfl

/-- **A run is one sequence of steps.**  The matches of each rule do not overlap and come from left
to right.  The answer of a run is what the steps, one after another, make of the start of today and of
no duration, with the spans of all steps; or it is the failure of the first step that fails.  Until
then the meanings are asked in the order of the steps, and after it none is. -/
theorem run_is_sequence (c : Catalog) (context : Context) (mode : MatchMode) (text : String) :
    (∀ rule ∈ c.rules, (rule.pattern.findAll text).Pairwise fun m m' =>
      m.span.start < m'.span.start ∧ m.span.stop ≤ m'.span.start) ∧
    c.run context mode text =
      ((c.steps mode text).foldlM (Step.rewrite context text) (context.today, .zero)).map
        (fun state => ⟨state.1, state.2, (c.steps mode text).map (·.2.span)⟩) ∧
    ((∃ tally, c.run context mode text = .ok tally) ↔
      ¬ ∃ before step failure, c.FirstFailure context mode text before step failure) ∧
    (∀ failure, c.run context mode text = .error failure ↔
      ∃ before step, c.FirstFailure context mode text before step failure) ∧
    (c.observe context mode text).1 = c.run context mode text ∧
    (∀ tally, c.run context mode text = .ok tally →
      (c.observe context mode text).2 = c.steps mode text) ∧
    ∀ before step failure, c.FirstFailure context mode text before step failure →
      (c.observe context mode text).2 = before ++ [step] := by
  refine ⟨fun rule _ => Pattern.pairwise_findAll rule.pattern text,
    run_eq_foldlM c context mode text, ?_, fun failure => run_eq_error_iff, ?_, ?_, ?_⟩
  -- A run succeeds, or it has a first step that fails.
  · constructor
    · rintro ⟨tally, htally⟩ ⟨before, step, failure, h⟩
      have herror := run_eq_error_iff.mpr ⟨before, step, h⟩
      rw [htally] at herror
      cases herror
    · intro hnone
      cases hrun : c.run context mode text with
      | ok tally => exact ⟨tally, rfl⟩
      | error failure =>
        obtain ⟨before, step, h⟩ := run_eq_error_iff.mp hrun
        exact absurd ⟨before, step, failure, h⟩ hnone
  · cases hrun : c.run context mode text with
    | ok tally => rw [observe_of_ok hrun]
    | error failure =>
      obtain ⟨before, step, h⟩ := run_eq_error_iff.mp hrun
      rw [observe_of_firstFailure h]
  · intro tally h
    rw [observe_of_ok h]
  · intro before step failure h
    rw [observe_of_firstFailure h]

end Catalog

end Timephrase
