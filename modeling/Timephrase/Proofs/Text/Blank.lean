import Mathlib.Data.List.Chain
import Mathlib.Data.List.DropRight
import Timephrase.Text.Blank

/-!
# Putting blanks in order

Making every run of blanks one space and taking the blanks off the ends changes nothing but blanks.

## Main results

* `Blank.filter_ordered`: the characters that are not blank stay as they are
* `Blank.ordered_ordered`: blanks that are in order stay as they are
* `Blank.map_ordered`: characters may be changed before or after
-/

namespace Timephrase.Blank

variable {cs : List Char} {c : Char}

/-! ## What stays -/

theorem filter_dropWhile (cs : List Char) :
    (cs.dropWhile isBlank).filter (!isBlank ·) = cs.filter (!isBlank ·) := by
  induction cs with
  | nil => rfl
  | cons c cs ih =>
    cases hc : isBlank c with
    | true => simp [hc, ih]
    | false => simp [hc]

theorem filter_trimChars (cs : List Char) :
    (trimChars cs).filter (!isBlank ·) = cs.filter (!isBlank ·) := by
  rw [trimChars, List.filter_reverse, filter_dropWhile, ← List.filter_reverse, List.reverse_reverse,
    filter_dropWhile]

theorem filter_collapse (cs : List Char) :
    (collapse cs).filter (!isBlank ·) = cs.filter (!isBlank ·) := by
  induction cs with
  | nil => rfl
  | cons c cs ih =>
    rw [collapse]
    split
    · next hc =>
      -- The space that stands for a run is as blank as the run.
      split
      · simp [hc, ih]
      · simp [hc, ih, isBlank_space]
    · next hc => simp [hc, ih]

/-- The only blank left is the space. -/
theorem eq_space_of_mem_collapse (h : c ∈ collapse cs) (hc : isBlank c = true) : c = ' ' := by
  induction cs with
  | nil => cases h
  | cons d cs ih =>
    rw [collapse] at h
    split at h
    · split at h
      · exact ih h
      · rcases List.mem_cons.mp h with rfl | h
        · rfl
        · exact ih h
    · next hd =>
      rcases List.mem_cons.mp h with rfl | h
      · exact absurd hc hd
      · exact ih h

theorem mem_of_mem_trimChars (h : c ∈ trimChars cs) : c ∈ cs := by
  rw [trimChars, List.mem_reverse] at h
  have hfront := List.mem_reverse.mp ((List.dropWhile_sublist _).subset h)
  exact (List.dropWhile_sublist _).subset hfront

/-- **Of a text with its blanks in order** all but the spaces are the characters that were not blank
before. -/
theorem filter_ordered (cs : List Char) :
    (trimChars (collapse cs)).filter (· ≠ ' ') = cs.filter (!isBlank ·) := by
  rw [← filter_collapse cs, ← filter_trimChars (collapse cs)]
  refine List.filter_congr fun c hc => ?_
  have hspace := eq_space_of_mem_collapse (mem_of_mem_trimChars hc)
  cases hblank : isBlank c with
  | true => simp [hspace hblank]
  | false =>
    have hne : c ≠ ' ' := by
      rintro rfl
      rw [isBlank_space] at hblank
      cases hblank
    simp [hne]

/-! ## Blanks that are in order -/

theorem any_head?_collapse (cs : List Char) :
    (collapse cs).head?.any isBlank = cs.head?.any isBlank := by
  induction cs with
  | nil => rfl
  | cons c cs ih =>
    rw [collapse]
    split
    · next hc =>
      split
      · next hnext => simp [ih, hnext, hc]
      · simp [hc, isBlank_space]
    · rfl

/-- Of two characters in a row that are left, one is not blank. -/
theorem isChain_collapse (cs : List Char) :
    (collapse cs).IsChain fun c d => isBlank c = true → isBlank d = false := by
  induction cs with
  | nil => exact List.IsChain.nil
  | cons c cs ih =>
    have hhead := any_head?_collapse cs
    rw [collapse]
    split
    · split
      · exact ih
      · next hnext =>
        rw [Bool.not_eq_true] at hnext
        refine List.isChain_cons.mpr ⟨fun d hd _ => ?_, ih⟩
        rw [hnext, Option.mem_def.mp hd] at hhead
        exact hhead
    · next hc => exact List.isChain_cons.mpr ⟨fun _ _ hblank => absurd hblank hc, ih⟩

theorem collapse_of_isChain
    (h : cs.IsChain fun c d => isBlank c = true → isBlank d = false)
    (hspace : ∀ c ∈ cs, isBlank c = true → c = ' ') : collapse cs = cs := by
  induction cs with
  | nil => rfl
  | cons c cs ih =>
    obtain ⟨hnext, h⟩ := List.isChain_cons.mp h
    obtain ⟨hc, hspace⟩ := List.forall_mem_cons.mp hspace
    rw [collapse, ih h hspace]
    split
    · next hblank =>
      have hhead : cs.head?.any isBlank = false := by
        cases cs with
        | nil => rfl
        | cons d cs => exact hnext d rfl hblank
      rw [hhead, if_neg Bool.false_ne_true, hc hblank]
    · rfl

/-- Trimming takes blanks off the start and then characters off the end. -/
theorem exists_trimChars_append (cs : List Char) :
    ∃ more, cs.dropWhile isBlank = trimChars cs ++ more := by
  obtain ⟨more, hmore⟩ := List.dropWhile_suffix isBlank (l := (cs.dropWhile isBlank).reverse)
  refine ⟨more.reverse, ?_⟩
  rw [trimChars, ← List.reverse_append, hmore, List.reverse_reverse]

theorem dropWhile_trimChars (cs : List Char) :
    (trimChars cs).dropWhile isBlank = trimChars cs := by
  cases htrim : trimChars cs with
  | nil => rfl
  | cons c rest =>
    obtain ⟨more, hmore⟩ := exists_trimChars_append cs
    have hfirst := List.head?_dropWhile_not isBlank cs
    rw [hmore, htrim] at hfirst
    have hc : isBlank c = false := hfirst
    rw [List.dropWhile_cons, hc, if_neg Bool.false_ne_true]

theorem isChain_trimChars {R : Char → Char → Prop} (h : cs.IsChain R) :
    (trimChars cs).IsChain R := by
  have hfront := h.suffix (List.dropWhile_suffix isBlank)
  have hback := (List.isChain_reverse.mpr hfront).suffix (List.dropWhile_suffix isBlank)
  exact List.isChain_reverse.mpr hback

theorem trimChars_trimChars (cs : List Char) : trimChars (trimChars cs) = trimChars cs := by
  rw [trimChars, dropWhile_trimChars, trimChars, List.reverse_reverse, List.dropWhile_idempotent]

/-- **Blanks that are in order stay as they are.** -/
theorem ordered_ordered (cs : List Char) :
    trimChars (collapse (trimChars (collapse cs))) = trimChars (collapse cs) := by
  have hcollapse : collapse (trimChars (collapse cs)) = trimChars (collapse cs) :=
    collapse_of_isChain (isChain_trimChars (isChain_collapse cs))
      fun _ hc => eq_space_of_mem_collapse (mem_of_mem_trimChars hc)
  rw [hcollapse, trimChars_trimChars]

/-! ## What may change -/

variable {f : Char → Char}

theorem map_collapse (hf : ∀ c, isBlank (f c) = isBlank c) (hspace : f ' ' = ' ')
    (cs : List Char) : (collapse cs).map f = collapse (cs.map f) := by
  induction cs with
  | nil => rfl
  | cons c cs ih =>
    have hhead : ((cs.map f).head?.any isBlank) = cs.head?.any isBlank := by
      cases cs with
      | nil => rfl
      | cons d cs => exact hf d
    rw [List.map_cons, collapse, collapse, hf c, hhead]
    split
    · split
      · exact ih
      · rw [List.map_cons, hspace, ih]
    · rw [List.map_cons, ih]

theorem map_dropWhile (hf : ∀ c, isBlank (f c) = isBlank c) (cs : List Char) :
    (cs.dropWhile isBlank).map f = (cs.map f).dropWhile isBlank := by
  rw [List.dropWhile_map]
  congr
  funext c
  exact (hf c).symm

/-- **Characters may be changed before or after blanks are put in order**, if blanks stay blanks and
the space a space. -/
theorem map_ordered (hf : ∀ c, isBlank (f c) = isBlank c) (hspace : f ' ' = ' ')
    (cs : List Char) :
    (trimChars (collapse cs)).map f = trimChars (collapse (cs.map f)) := by
  rw [← map_collapse hf hspace, trimChars, trimChars, List.map_reverse, map_dropWhile hf,
    List.map_reverse, map_dropWhile hf]

end Timephrase.Blank
