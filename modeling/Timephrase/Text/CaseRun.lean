/-!
# Runs of a case mapping

Case mappings send whole runs of characters, or every other character of a run, to runs of the same
shape.  A table of runs holds a mapping in a few entries.

## Main definitions

* `CaseRun`: the run
* `CaseRun.map`: the mapping that a table holds
* `CaseRun.images`, `CaseRun.preimages`: where a range of code points goes, and what goes there
-/

namespace Timephrase

/-- The code points from `first` to `last` in steps of `step`, which go to the code points from
`target` on in the same steps. -/
structure CaseRun where
  first : Nat
  last : Nat
  step : Nat
  target : Nat

namespace CaseRun

/-- Where a code point of the run goes. -/
def image? (r : CaseRun) (n : Nat) : Option Nat :=
  if r.first ≤ n ∧ n ≤ r.last ∧ (n - r.first) % r.step = 0 then some (r.target + (n - r.first))
  else none

/-- The code point that a table sends `n` to: `n` itself if no run has it. -/
def map (table : List CaseRun) (n : Nat) : Nat := (table.findSome? (·.image? n)).getD n

/-- How far the members of the run are from its first one, as ranges, for those that stand from `lo`
to `hi` if the first one stands at `start`. -/
def distances (r : CaseRun) (start lo hi : Nat) : List (Nat × Nat) :=
  let least := (lo - start + r.step - 1) / r.step * r.step
  let greatest := min (hi - start) (r.last - r.first)
  if hi < start ∨ greatest < least then []
  else if r.step = 1 then [(least, greatest)]
  else
    (List.range ((greatest - least) / r.step + 1)).map fun i =>
      (least + i * r.step, least + i * r.step)

/-- Where the members of the run from `lo` to `hi` go. -/
def images (r : CaseRun) (lo hi : Nat) : List (Nat × Nat) :=
  (r.distances r.first lo hi).map fun (least, greatest) => (r.target + least, r.target + greatest)

/-- The members of the run that go to a code point from `lo` to `hi`. -/
def preimages (r : CaseRun) (lo hi : Nat) : List (Nat × Nat) :=
  (r.distances r.target lo hi).map fun (least, greatest) => (r.first + least, r.first + greatest)

end CaseRun

end Timephrase
