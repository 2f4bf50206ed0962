import Timephrase.Run.Calls

/-!
# Which calls a run makes

## Main results

* `Catalog.mem_calls_iff`: a call is made for each match that counts of each rule that is not passed
  over
-/

namespace Timephrase

/-- The matches of a rule that count are among those that are found. -/
theorem Rule.mem_findAll_of_mem_matchesIn {rule : Rule} {mode : MatchMode} {text : String}
    {found : Pattern.Match} (h : found ∈ rule.matchesIn mode text) :
    found ∈ rule.pattern.findAll text := by
  cases mode with
  | all => exact h
  | first => exact List.mem_of_mem_take h

namespace Catalog

variable {mode : MatchMode} {text : String} {there : Features} {call : Call}

theorem mem_callsFrom_iff {place : Nat} {rules : List Rule} :
    call ∈ callsFrom mode text there place rules ↔
      ∃ i, call.place = place + i ∧ rules[i]? = some call.rule ∧
        call.rule.skip? there = none ∧ call.found ∈ call.rule.matchesIn mode text := by
  induction rules generalizing place with
  | nil => simp [callsFrom]
  | cons rule rules ih =>
    simp only [callsFrom, List.mem_append, ih]
    -- A call is one of the first rule, if that is due, or one of the rules after it.
    constructor
    · rintro (h | ⟨i, hplace, h⟩)
      · cases hskip : rule.skip? there with
        | some skip =>
          rw [hskip] at h
          cases h
        | none =>
          rw [hskip] at h
          obtain ⟨found, hfound, rfl⟩ := List.mem_map.mp h
          exact ⟨0, rfl, rfl, hskip, hfound⟩
      · exact ⟨i + 1, by omega, h⟩
    · rintro ⟨i, hplace, hrule, hskip, hfound⟩
      cases i with
      | zero =>
        obtain ⟨place', rule', found⟩ := call
        obtain rfl : place' = place := hplace
        obtain rfl : rule = rule' := Option.some.inj hrule
        refine Or.inl ?_
        rw [hskip]
        exact List.mem_map.mpr ⟨found, hfound, rfl⟩
      | succ i => exact Or.inr ⟨i, by omega, hrule, hskip, hfound⟩

/-- **A call is made for each match that counts** of each rule that is not passed over. -/
theorem mem_calls_iff {c : Catalog} :
    call ∈ c.calls mode text ↔
      c.rules[call.place]? = some call.rule ∧ call.rule.skip? (Features.scan text) = none ∧
        call.found ∈ call.rule.matchesIn mode text := by
  rw [calls, mem_callsFrom_iff]
  constructor
  · rintro ⟨i, hplace, h⟩
    rw [Nat.zero_add] at hplace
    exact hplace ▸ h
  · intro h
    exact ⟨call.place, (Nat.zero_add _).symm, h⟩

/-- The match of a call is one of those found. -/
theorem mem_findAll_of_mem_calls {c : Catalog} (h : call ∈ c.calls mode text) :
    call.found ∈ call.rule.pattern.findAll text := by
  obtain ⟨-, -, h⟩ := mem_calls_iff.mp h
  exact Rule.mem_findAll_of_mem_matchesIn h

end Catalog

end Timephrase
