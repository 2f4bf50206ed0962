import Timephrase.Proofs.Captures
import Timephrase.Proofs.English.Catalog
import Timephrase.Proofs.Number.Decimal
import Timephrase.Proofs.Pattern.Need
import Timephrase.Proofs.Text.Kind

/-!
# Amounts of digits and points

The pattern of an amount takes digits and points in any order, so that an amount may be written
without any digit, or with more than one point.  Such an amount is no number, and the meaning of the
phrase fails.

## Main results

* `English.exists_amount_of_mem_findAll`: what the amount of a phrase is captured as
* `English.amount_eq_error`: amounts that are no number
* `English.amount_eq_error_of_noDigits`: in a text without digits the amount of a phrase is no
  number
-/

namespace Timephrase.English

open Pattern Pattern.Node

theorem isDigit_or_eq_of_mem_amountSet {ch : Char} (h : amountSet.mem ch = true) :
    ch.isDigit = true ∨ ch = '.' := by
  have hdot : '.'.toNat = 46 := rfl
  rw [Ascii.isDigit_iff, ← Char.toNat_inj]
  simp only [CharSet.mem, amountSet, Ranges.contains, List.any_cons, List.any_nil, Bool.or_false,
    Bool.or_eq_true, Bool.and_eq_true, decide_eq_true_eq] at h
  omega

/-! ## The amount of a phrase -/

variable {source word : String} {units : List Node} {text : String} {m : Match}

/-- The pattern of a word, an amount and a unit. -/
def lengthPattern (source word : String) (units : List Node) : Pattern :=
  ⟨source, lengthNode word units, [("amount", 1), ("unit", 2)]⟩

theorem indices_units : ∀ node ∈ fixedUnits ++ longUnits, node.indices = [] := by
  decide

theorem indices_fixedUnits : ∀ node ∈ fixedUnits, node.indices = [] :=
  fun node hnode => indices_units node (List.mem_append_left _ hnode)

/-- **The amount of a phrase** is captured as the digits and points that are written. -/
theorem exists_amount_of_mem_findAll (rule : String) (hunits : ∀ node ∈ units, node.indices = [])
    (h : m ∈ (lengthPattern source word units).findAll text) :
    ∃ written, written ≠ "" ∧ (∀ ch ∈ written.toList, ch.isDigit = true ∨ ch = '.') ∧
      (∀ ch ∈ written.toList, ch ∈ text.toList) ∧
      (Captures.ofMatch rule (lengthPattern source word units) text m).get? "amount" =
        some written := by
  obtain ⟨u, v, ht, hm⟩ := exists_place_of_mem_findAll h
  obtain ⟨d, hd, -⟩ := way_of_matchAt? hm
  have hparts : (lengthPattern source word units).node =
      ofItems (([edge] ++ letters word ++ [.set blankSet]) ++
        .group 1 (.run amountSet 1 none true) ::
          [optionalSet blankSet, .group 2 (ofBranches units), edge]) := by
    rw [List.append_assoc]
    rfl
  -- The first group is recorded once, since the units have none.
  have hafter : 1 ∉ [optionalSet blankSet, .group 2 (ofBranches units), edge].flatMap indices := by
    have hnone : units.flatMap indices = [] := List.flatMap_eq_nil_iff.mpr hunits
    simp [indices, optionalSet, edge, indices_ofBranches, hnone]
  rw [hparts] at hd
  obtain ⟨e, e', hs, ks, ls, hbefore, ⟨w, hmem, hlen, -, hw, -⟩, -, hlookup⟩ :=
    (way_ofItems.mp hd).lookup_group hafter
  obtain ⟨w₀, hw₀⟩ := hbefore.exists_reads
  have hv : v = w₀ ++ (w ++ e'.rest) := by
    have hv : v = w₀ ++ e.rest := hw₀.rest_eq
    rw [hv, hw.rest_eq]
  have htext : text.toList = (u ++ w₀) ++ w ++ e'.rest := by
    rw [ht, hv]
    simp
  have hchars : ∀ ch ∈ w, ch.isDigit = true ∨ ch = '.' := fun ch hch =>
    isDigit_or_eq_of_mem_amountSet (hmem ch hch)
  refine ⟨String.ofList w, fun hempty => ?_, ?_, ?_, ?_⟩
  · rw [String.ofList_injective (hempty.trans String.ofList_nil.symm)] at hlen
    cases hlen
  · rwa [String.toList_ofList]
  · rw [String.toList_ofList, htext]
    exact fun ch hch => List.mem_append_left _ (List.mem_append_right _ hch)
  · have hgroup : m.group? 1 = some ⟨e.offset, e'.offset⟩ := hlookup
    have hname : (lengthPattern source word units).names.lookup "amount" = some 1 := rfl
    rw [Captures.get?_ofMatch hname, hgroup, ← Lowercase.lowercase_digits hchars]
    exact Captures.slice_of_reads ht hw₀ hw

/-- Digits and points that write no number are no amount. -/
theorem amount_eq_error {c : Captures} {written : String} (hget : c.get? "amount" = some written)
    (hne : written ≠ "") (hchars : ∀ ch ∈ written.toList, ch.isDigit = true ∨ ch = '.')
    (hnone : ∀ q, ¬Decimal.Writes written q) :
    amount c = .error (.capture c.rule "amount" written (.number .invalidFloat)) := by
  rw [amount]
  exact Captures.require_of_get?_of_error hget hne (Decimal.float_eq_error hchars hnone)

/-- **In a text without digits the amount of a phrase is no number.** -/
theorem amount_eq_error_of_noDigits (rule : String) (hunits : ∀ node ∈ units, node.indices = [])
    (hdigits : ∀ ch ∈ text.toList, ch.isDigit = false)
    (h : m ∈ (lengthPattern source word units).findAll text) :
    ∃ value, amount (.ofMatch rule (lengthPattern source word units) text m) =
      .error (.capture rule "amount" value (.number .invalidFloat)) := by
  obtain ⟨written, hne, hchars, hmem, hget⟩ := exists_amount_of_mem_findAll rule hunits h
  refine ⟨written, amount_eq_error hget hne hchars fun q hwrites => ?_⟩
  obtain ⟨⟨ch, hch, hdigit⟩, -⟩ := (Decimal.exists_writes_iff hchars).mp ⟨q, hwrites⟩
  rw [hdigits ch (hmem ch hch)] at hdigit
  cases hdigit

end Timephrase.English
