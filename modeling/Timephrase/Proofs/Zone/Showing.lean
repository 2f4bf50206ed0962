import Mathlib.Data.List.Nodup
import Mathlib.Data.List.Pairwise
import Timephrase.Proofs.Calendar.Range
import Timephrase.Zone.Code

/-!
# When the clocks of a zone show a local time

The clocks of a zone show a local time at each instant whose offset, put to it, gives that time.
There may be no such instant, and there may be two.  The search goes through the stretches between
the changes of offset from the first to the last, and what it finds is the first of them.

## Main definitions

* `Zone.Ordered`, `Zone.OffsetsWithinDay`: what holds of the zones of the tables
* `Zone.Shows`, `Zone.FirstShows`: a moment at which the clocks show a local time, and the first
* `Zone.Skips`: there is none

## Main results

* `Zone.exists_firstShows`: of the moments at which a local time is shown one is the first
* `Zone.resolve?_eq_some_iff`, `Zone.resolve?_eq_none_iff`: the search finds the first moment, if
  there is one and it is supported
* `Zone.ordered_of_mem_all`, `Zone.offsetAt_within_day`: the tables
-/

namespace Timephrase

namespace Zone

variable {shown instant offset found : Int} {since : Option Int} {changes : List ZoneChange}

/-! ## The search -/

theorem all_since_iff :
    since.all (· + offset ≤ shown) = true ↔ ∀ start ∈ since, start ≤ shown - offset := by
  simp only [Option.all_eq_true, decide_eq_true_eq, Option.mem_def]
  exact forall₂_congr fun start _ => by omega

/-- What the search finds is the offset in force at the instant that it gives. -/
theorem offsetFrom_of_showingFrom
    (hsince : ∀ start ∈ since, ∀ change ∈ changes, start < change.instant)
    (hordered : changes.Pairwise fun change change' => change.instant < change'.instant)
    (h : showingFrom shown since offset changes = some found) :
    (∀ start ∈ since, start ≤ shown - found) ∧
      offsetFrom (shown - found) offset changes = found := by
  -- On the changes: the time is shown before the first of them, or the search starts again from it.
  induction changes generalizing since offset with
  | nil =>
    rw [showingFrom] at h
    split at h
    · next hall =>
      obtain rfl : offset = found := Option.some.inj h
      exact ⟨all_since_iff.mp hall, rfl⟩
    · cases h
  | cons change changes ih =>
    obtain ⟨hfirst, hrest⟩ := List.pairwise_cons.mp hordered
    rw [showingFrom] at h
    split at h
    · next hhere =>
      obtain ⟨hall, hlt⟩ := Bool.and_eq_true_iff.mp hhere
      have hbefore : shown < change.instant + offset := of_decide_eq_true hlt
      obtain rfl : offset = found := Option.some.inj h
      exact ⟨all_since_iff.mp hall, if_pos (by omega)⟩
    · obtain ⟨hstart, hforce⟩ := ih
        (fun start hstart => Option.some.inj hstart ▸ hfirst) hrest h
      have hafter : change.instant ≤ shown - found := hstart _ rfl
      refine ⟨fun start hmem => ?_, ?_⟩
      · have hlt := hsince start hmem change List.mem_cons_self
        omega
      · rw [offsetFrom, if_neg (by omega)]
        exact hforce

/-- The search finds an offset if the clocks show the time at some instant, and one that gives no
later instant. -/
theorem exists_showingFrom (hsince : ∀ start ∈ since, start ≤ instant)
    (h : instant + offsetFrom instant offset changes = shown) :
    ∃ found, showingFrom shown since offset changes = some found ∧ shown - found ≤ instant := by
  induction changes generalizing since offset with
  | nil =>
    have hshown : instant + offset = shown := h
    refine ⟨offset, ?_, by omega⟩
    rw [showingFrom, if_pos]
    exact all_since_iff.mpr fun start hstart => by
      have hle := hsince start hstart
      omega
  | cons change changes ih =>
    rw [showingFrom]
    split
    · next hhere =>
      -- The clocks show it before the change, be the instant before it or after it.
      obtain ⟨-, hlt⟩ := Bool.and_eq_true_iff.mp hhere
      have hbefore : shown < change.instant + offset := of_decide_eq_true hlt
      refine ⟨offset, rfl, ?_⟩
      rw [offsetFrom] at h
      split at h <;> omega
    · next hnot =>
      rw [offsetFrom] at h
      split at h
      · next hbefore =>
        refine absurd (Bool.and_eq_true_iff.mpr ⟨?_, decide_eq_true (by omega)⟩) hnot
        exact all_since_iff.mpr fun start hstart => by
          have hle := hsince start hstart
          omega
      · next hafter =>
        exact ih (fun start hstart => by
          obtain rfl := Option.some.inj hstart
          omega) h

/-! ## Zones -/

/-- The changes of a zone come one after another. -/
def Ordered (z : Zone) : Prop :=
  z.changes.IsChain fun change change' => change.instant < change'.instant

instance (z : Zone) : Decidable z.Ordered := inferInstanceAs (Decidable (List.IsChain _ _))

/-- The clocks of a zone show a local time at a moment, which has the offset in force. -/
structure Shows (z : Zone) (t : LocalTime) (m : Moment) : Prop where
  shown : m.localTime = t
  inForce : m.offset = z.offsetAt m.utc.seconds

/-- The clocks of a zone show a local time at a moment, and at no earlier one. -/
structure FirstShows (z : Zone) (t : LocalTime) (m : Moment) : Prop extends z.Shows t m where
  first : ∀ m', z.Shows t m' → m.utc.seconds ≤ m'.utc.seconds

/-- The clocks of a zone never show a local time. -/
def Skips (z : Zone) (t : LocalTime) : Prop := ∀ m, ¬ z.Shows t m

variable {z : Zone} {t : LocalTime} {m m' : Moment}

/-- A moment is settled by what its clock shows and by its instant. -/
theorem Shows.eq_of_seconds (h : z.Shows t m) (h' : z.Shows t m')
    (hseconds : m.utc.seconds = m'.utc.seconds) : m = m' := by
  have hoffset : m.offset = m'.offset := by
    rw [h.inForce, h'.inForce, hseconds]
  rw [← m.ofLocal_localTime, ← m'.ofLocal_localTime, h.shown, h'.shown, hoffset]

theorem FirstShows.unique (h : z.FirstShows t m) (h' : z.FirstShows t m') : m = m' :=
  h.toShows.eq_of_seconds h'.toShows
    (Int.le_antisymm (h.first m' h'.toShows) (h'.first m h.toShows))

/-- The search finds an offset for every local time that the clocks show. -/
theorem exists_offsetShowing? (h : z.Shows t m) :
    ∃ offset, z.offsetShowing? t.seconds = some offset ∧ t.seconds - offset ≤ m.utc.seconds := by
  refine exists_showingFrom nofun ?_
  have hshown : m.utc.seconds + m.offset = t.seconds := congrArg LocalTime.seconds h.shown
  rw [← hshown, h.inForce]
  rfl

/-- **The search finds the first moment** at which the clocks show a local time. -/
theorem firstShows_of_offsetShowing? (hz : z.Ordered)
    (h : z.offsetShowing? t.seconds = some offset) : z.FirstShows t (.ofLocal t offset) := by
  have hpairwise : z.changes.Pairwise fun change change' => change.instant < change'.instant :=
    List.isChain_iff_pairwise.mp hz
  have hsince : ∀ start ∈ (none : Option Int), ∀ change ∈ z.changes, start < change.instant := nofun
  obtain ⟨-, hforce⟩ := offsetFrom_of_showingFrom hsince hpairwise h
  refine ⟨⟨Moment.localTime_ofLocal t offset, ?_⟩, fun m' hm' => ?_⟩
  · exact hforce.symm
  · obtain ⟨offset', hfound, hle⟩ := exists_offsetShowing? hm'
    obtain rfl : offset' = offset := Option.some.inj (hfound.symm.trans h)
    exact hle

/-- Clocks that show a local time first show it at some moment. -/
theorem exists_firstShows (hz : z.Ordered) (h : z.Shows t m) : ∃ first, z.FirstShows t first := by
  obtain ⟨offset, hoffset, -⟩ := exists_offsetShowing? h
  exact ⟨_, firstShows_of_offsetShowing? hz hoffset⟩

/-- **What is resolved** is the first moment at which the clocks show a local time, if it is
supported. -/
theorem resolve?_eq_some_iff (hz : z.Ordered) :
    z.resolve? t = some m ↔ z.FirstShows t m ∧ m.Supported := by
  rw [resolve?, Option.bind_eq_some_iff]
  constructor
  · rintro ⟨offset, hoffset, h⟩
    obtain ⟨rfl, hm⟩ := Moment.ofLocal?_eq_some_iff.mp h
    exact ⟨firstShows_of_offsetShowing? hz hoffset, hm⟩
  · rintro ⟨hfirst, hm⟩
    obtain ⟨offset, hoffset, -⟩ := exists_offsetShowing? hfirst.toShows
    obtain rfl := hfirst.unique (firstShows_of_offsetShowing? hz hoffset)
    exact ⟨offset, hoffset, Moment.ofLocal?_eq_some_iff.mpr ⟨rfl, hm⟩⟩

/-- **Nothing is resolved** if the clocks never show a local time, and also if they first show it at
a moment that is not supported. -/
theorem resolve?_eq_none_iff (hz : z.Ordered) :
    z.resolve? t = none ↔ z.Skips t ∨ ∃ m, z.FirstShows t m ∧ ¬ m.Supported := by
  rw [Option.eq_none_iff_forall_ne_some]
  constructor
  · intro hnone
    cases hoffset : z.offsetShowing? t.seconds with
    | none =>
      refine Or.inl fun m hm => ?_
      obtain ⟨offset, hfound, -⟩ := exists_offsetShowing? hm
      rw [hoffset] at hfound
      cases hfound
    | some offset =>
      have hfirst := firstShows_of_offsetShowing? hz hoffset
      exact Or.inr ⟨_, hfirst, fun hm => hnone _ ((resolve?_eq_some_iff hz).mpr ⟨hfirst, hm⟩)⟩
  · rintro (hskips | ⟨m', hfirst', hm'⟩) m hm
    · exact hskips m ((resolve?_eq_some_iff hz).mp hm).1.toShows
    · obtain ⟨hfirst, hsupported⟩ := (resolve?_eq_some_iff hz).mp hm
      exact hm' (hfirst'.unique hfirst ▸ hsupported)

/-! ## The tables -/

/-- A zone of the tables is known by its name. -/
theorem eq_of_name_eq {z z' : Zone} (h : z ∈ all) (h' : z' ∈ all) (hname : z.name = z'.name) :
    z = z' := by
  have hnodup : (all.map Zone.name).Nodup := by decide +kernel
  exact List.inj_on_of_nodup_map hnodup h h' hname

theorem ordered_of_mem_all : ∀ z ∈ all, z.Ordered := by
  decide +kernel

/-- The offsets of a zone are less than a day. -/
def OffsetsWithinDay (z : Zone) : Prop :=
  ∀ offset ∈ z.first :: z.changes.map (·.offset), -86400 < offset ∧ offset < 86400

instance (z : Zone) : Decidable z.OffsetsWithinDay :=
  inferInstanceAs (Decidable (∀ offset ∈ _, _))

theorem offsetsWithinDay_of_mem_all : ∀ z ∈ all, z.OffsetsWithinDay := by
  decide +kernel

theorem offsetFrom_mem (instant offset : Int) (changes : List ZoneChange) :
    offsetFrom instant offset changes ∈ offset :: changes.map (·.offset) := by
  induction changes generalizing offset with
  | nil => exact List.mem_cons_self
  | cons change changes ih =>
    rw [offsetFrom]
    split
    · exact List.mem_cons_self
    · exact List.mem_cons_of_mem _ (ih change.offset)

/-- **The clocks of a zone of the tables** are ahead of universal time, or behind it, by less than a
day. -/
theorem offsetAt_within_day (hz : z ∈ all) (instant : Int) :
    -86400 < z.offsetAt instant ∧ z.offsetAt instant < 86400 :=
  offsetsWithinDay_of_mem_all z hz _ (offsetFrom_mem instant z.first z.changes)

end Zone

end Timephrase
