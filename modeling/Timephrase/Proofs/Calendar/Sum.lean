import Timephrase.Calendar.Shift
import Timephrase.Proofs.Number.Sign
import Mathlib.Algebra.BigOperators.Group.List.Basic
import Mathlib.Algebra.Ring.Int.Defs

/-!
# Durations together

Scaled lengths of units are not negative, as amounts are written without a minus sign.  A sum of
such lengths is in range just if it is not too large, and so are then all sums on the way to it.

## Main definitions

* `Duration.total`: the nanoseconds of some durations together

## Main results

* `Duration.nonneg_of_scaled?`: scaled lengths are not negative
* `Duration.add?_of_nonneg`: sums of durations that are not negative
-/

namespace Timephrase.Duration

variable {d e unit : Duration} {ds ds' : List Duration} {x : Binary64}

/-- The nanoseconds of some durations together. -/
def total (ds : List Duration) : Int := (ds.map nanos).sum

@[simp] theorem total_nil : total [] = 0 := rfl

@[simp] theorem total_cons (d : Duration) (ds : List Duration) :
    total (d :: ds) = d.nanos + total ds := List.sum_cons

theorem total_of_perm (h : ds.Perm ds') : total ds = total ds' := (h.map nanos).sum_eq

theorem total_nonneg (h : ∀ d ∈ ds, 0 ≤ d.nanos) : 0 ≤ total ds := by
  induction ds with
  | nil => exact Int.le_refl 0
  | cons d ds ih =>
    have hhead := h d List.mem_cons_self
    have hrest := ih fun d hd => h d (List.mem_cons_of_mem _ hd)
    rw [total_cons]
    omega

/-- **A scaled length is not negative**, if the amount has no minus sign. -/
theorem nonneg_of_scaled? (hx : x.IsUnsigned) (hunit : 0 ≤ unit.nanos)
    (h : scaled? x unit = some d) : 0 ≤ d.nanos := by
  simp only [scaled?, Option.bind_eq_bind, Option.bind_eq_some_iff] at h
  obtain ⟨nanos, hnanos, product, hproduct, hd⟩ := h
  have hword : nanos = unit.nanos := by
    rw [word?] at hnanos
    split at hnanos
    · exact (Option.some.inj hnanos).symm
    · cases hnanos
  have hnonneg : 0 ≤ product :=
    (hx.mul (Binary64.isUnsigned_ofInt (hword ▸ hunit))).nonneg_of_truncated? hproduct
  split at hd
  · obtain rfl := Option.some.inj hd
    exact hnonneg
  · cases hd

/-- Durations that are not negative have a sum unless it is too large. -/
theorem add?_of_nonneg (hd : 0 ≤ d.nanos) (he : 0 ≤ e.nanos) :
    d.add? e = if d.nanos + e.nanos ≤ limit then some ⟨d.nanos + e.nanos⟩ else none := by
  have hrange : (⟨d.nanos + e.nanos⟩ : Duration).InRange ↔ d.nanos + e.nanos ≤ limit := by
    simp only [InRange, limit]
    omega
  rw [add?, checked?]
  exact if_congr hrange rfl rfl

end Timephrase.Duration
