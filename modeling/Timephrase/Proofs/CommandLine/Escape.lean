import Timephrase.Proofs.CommandLine.Plain
import Timephrase.Proofs.CommandLine.Run

/-!
# Colors only decorate

A painted text is the text with escape sequences around it.  Whatever is put together from painted
pieces is therefore what the bare pieces make, with escape sequences put in, and taking these out
again gives that back, as long as it has no escape character of its own.

## Main definitions

* `withoutSequences`: a text without its escape sequences
* `Decorates`: a text is another one with escape sequences put in

## Main results

* `Decorates.withoutSequences_eq`: taking out the sequences undoes a decoration
* `Report.decorates_traced`: a report decorates the one without colors
* `Report.plain_traced`, `Report.not_plain_traced`: only with colors a report has escape characters
-/

namespace Timephrase.CommandLine

/-! ## Escape sequences -/

/-- The characters after an escape sequence at the front, if there is one: the escape character, a
bracket, digits and the letter `m`. -/
def afterSequence? : List Char → Option (List Char)
  | '\x1b' :: '[' :: cs =>
    match cs.takeWhile Char.isDigit, cs.dropWhile Char.isDigit with
    | _ :: _, 'm' :: rest => some rest
    | _, _ => none
  | _ => none

theorem length_of_afterSequence? {cs rest : List Char} (h : afterSequence? cs = some rest) :
    rest.length < cs.length := by
  rw [afterSequence?.eq_def] at h
  split at h
  · next cs =>
    split at h
    · next hdigits hafter =>
      cases h
      have hle := (List.dropWhile_sublist Char.isDigit (l := cs)).length_le
      rw [hafter] at hle
      simp only [List.length_cons] at hle ⊢
      omega
    · cases h
  · cases h

/-- Some characters without the escape sequences among them. -/
def removeSequences (cs : List Char) : List Char :=
  match cs with
  | [] => []
  | c :: cs =>
    match h : afterSequence? (c :: cs) with
    | some rest =>
      have := length_of_afterSequence? h
      removeSequences rest
    | none => c :: removeSequences cs
termination_by cs.length
decreasing_by
  · exact this
  · exact Nat.lt_succ_self _

/-- A text without its escape sequences. -/
def withoutSequences (text : String) : String := String.ofList (removeSequences text.toList)

theorem removeSequences_of_some {cs rest : List Char} (h : afterSequence? cs = some rest) :
    removeSequences cs = removeSequences rest := by
  cases cs with
  | nil => cases h
  | cons c cs =>
    rw [removeSequences]
    split
    · next rest' hsome =>
      obtain rfl : rest' = rest := Option.some.inj (hsome.symm.trans h)
      rfl
    · next hnone => cases hnone.symm.trans h

theorem removeSequences_of_none {c : Char} {cs : List Char} (h : afterSequence? (c :: cs) = none) :
    removeSequences (c :: cs) = c :: removeSequences cs := by
  rw [removeSequences]
  split
  · next hsome => cases hsome.symm.trans h
  · rfl

/-- A sequence of digits is taken out. -/
theorem removeSequences_escape {code : String} (hne : code.toList ≠ [])
    (hdigits : code.toList.all Char.isDigit = true) (rest : List Char) :
    removeSequences ((Palette.escape code).toList ++ rest) = removeSequences rest := by
  have hescape : (Palette.escape code).toList ++ rest =
      '\x1b' :: '[' :: (code.toList ++ 'm' :: rest) := by
    rw [Palette.escape, String.toList_append, String.toList_append, List.append_assoc,
      List.append_assoc]
    rfl
  have hafter : afterSequence? ('\x1b' :: '[' :: (code.toList ++ 'm' :: rest)) = some rest := by
    rw [List.all_eq_true] at hdigits
    rw [afterSequence?, List.takeWhile_append_of_pos hdigits, List.dropWhile_append_of_pos hdigits]
    obtain ⟨d, ds, hcode⟩ := List.exists_cons_of_ne_nil hne
    rw [hcode]
    rfl
  rw [hescape, removeSequences_of_some hafter]

/-- Characters that are no escapes are kept. -/
theorem removeSequences_append {text : String} (h : Plain text) (rest : List Char) :
    removeSequences (text.toList ++ rest) = text.toList ++ removeSequences rest := by
  have hkept : ∀ cs : List Char, '\x1b' ∉ cs →
      removeSequences (cs ++ rest) = cs ++ removeSequences rest := by
    intro cs hcs
    induction cs with
    | nil => rfl
    | cons c cs ih =>
      obtain ⟨hc, hcs⟩ := not_or.mp (mt List.mem_cons.mpr hcs)
      have hnone : afterSequence? (c :: (cs ++ rest)) = none := by
        rw [afterSequence?.eq_def]
        split
        · next heq => exact absurd (List.cons.inj heq).1.symm hc
        · rfl
      rw [List.cons_append, removeSequences_of_none hnone, ih hcs, List.cons_append]
  exact hkept _ h.escape_not_mem

/-! ## Decorations -/

/-- A text is another one with escape sequences put in. -/
inductive Decorates : String → String → Prop
  | refl (text : String) : Decorates text text
  | append {s t s' t' : String} (h : Decorates s t) (h' : Decorates s' t') :
      Decorates (s ++ s') (t ++ t')
  | escape {code : String} (hne : code.toList ≠ [])
      (hdigits : code.toList.all Char.isDigit = true) : Decorates (Palette.escape code) ""

namespace Decorates

variable {s t : String}

theorem removeSequences_eq (h : Decorates s t) (ht : Plain t) (rest : List Char) :
    removeSequences (s.toList ++ rest) = t.toList ++ removeSequences rest := by
  induction h generalizing rest with
  | refl text => exact removeSequences_append ht rest
  | @append s t s' t' _ _ ih ih' =>
    obtain ⟨ht, ht'⟩ := plain_append_iff.mp ht
    rw [String.toList_append, List.append_assoc, ih ht, ih' ht', String.toList_append,
      List.append_assoc]
  | escape hne hdigits => exact removeSequences_escape hne hdigits rest

/-- **Taking out the sequences undoes a decoration** of a text without escape characters. -/
theorem withoutSequences_eq (h : Decorates s t) (ht : Plain t) : withoutSequences s = t := by
  have hremove := h.removeSequences_eq ht []
  rw [List.append_nil, removeSequences, List.append_nil] at hremove
  rw [withoutSequences, hremove, String.ofList_toList]

/-- Painting a text puts escape sequences around it. -/
theorem paint (p : Palette) (style : Style) (h : Decorates s t) :
    Decorates (p.paint style s) ((⟨false⟩ : Palette).paint style t) := by
  rw [Palette.paint_disabled, Palette.paint]
  split
  · have hcode : Decorates (Palette.escape style.code) "" := by
      cases style with
      | _ => exact .escape (by decide) (by decide)
    have hreset : Decorates (Palette.escape "0") "" := .escape (by decide) (by decide)
    have hpainted := (hcode.append h).append hreset
    rwa [String.append_empty, String.empty_append] at hpainted
  · exact h

theorem painted (p : Palette) (style : Style) (text : String) :
    Decorates (p.paint style text) ((⟨false⟩ : Palette).paint style text) :=
  (refl text).paint p style

theorem lines {ls ls' : List String} (h : List.Forall₂ Decorates ls ls') :
    Decorates (Report.lines ls) (Report.lines ls') := by
  induction h with
  | nil => exact .refl _
  | @cons l l' ls ls' hl _ ih =>
    have hcons : ∀ l ls, Report.lines (l :: ls) = l ++ "\n" ++ Report.lines ls := fun l ls => by
      rw [Report.lines, List.map_cons, String.join_cons]
      rfl
    rw [hcons, hcons]
    exact (hl.append (.refl _)).append ih

end Decorates

/-! ## Reports -/

namespace Report

open Decorates

variable (p : Palette) (timing : Timing) (input : String)

/-- A line with a label is decorated if what follows the label is. -/
theorem decorates_labelled (label : String) {s t : String} (h : Decorates s t) :
    Decorates ("  " ++ p.paint .dim label ++ " " ++ s)
      ("  " ++ (⟨false⟩ : Palette).paint .dim label ++ " " ++ t) :=
  (((refl _).append (painted p ..)).append (.refl _)).append h

theorem decorates_opening (context : Context) :
    List.Forall₂ Decorates (opening p context input) (opening ⟨false⟩ context input) := by
  have hheading := (painted p .cyan ("⚙  Parsing: \"" ++ input ++ "\"")).paint p .bold
  have hreference := decorates_labelled p "reference:" (painted p .gray context.now.rfc3339)
  exact .cons (.refl _) (.cons hheading (.cons hreference (.cons (.refl _)
    (.cons (painted p ..) .nil))))

theorem decorates_status (what : PassStatus) :
    Decorates (status p what) (status ⟨false⟩ what) := by
  cases what with
  | _ => exact painted p ..

theorem decorates_spanLine (s : Span) :
    Decorates (spanLine p input s) (spanLine ⟨false⟩ input s) :=
  (((refl _).append (painted p ..)).append (.refl _)).append (painted p ..)

theorem decorates_ruleLine (elapsed : String) (pass : Pass) :
    Decorates (ruleLine p elapsed pass) (ruleLine ⟨false⟩ elapsed pass) :=
  (((((((refl _).append (painted p ..)).append (.refl _)).append (painted p ..)).append
    (.refl _)).append (decorates_status p _)).append (.refl _)).append (painted p ..)

theorem decorates_passesLines (place : Nat) (passes : List Pass) :
    List.Forall₂ Decorates (passesLines p input timing place passes)
      (passesLines ⟨false⟩ input timing place passes) := by
  induction passes generalizing place with
  | nil => exact .nil
  | cons pass passes ih =>
    refine List.rel_append (.cons (decorates_ruleLine p _ pass) ?_) (ih (place + 1))
    rw [List.forall₂_map_left_iff, List.forall₂_map_right_iff, List.forall₂_same]
    exact fun s _ => decorates_spanLine p input s

theorem decorates_textLine (text : String) :
    Decorates (textLine p text) (textLine ⟨false⟩ text) := by
  rw [textLine, textLine]
  split
  · exact decorates_labelled p _ (painted p ..)
  · exact ((((refl _).append (painted p ..)).append (.refl _)).append (.refl _)).append (.refl _)

theorem decorates_appliedLine (names : List String) :
    Decorates (appliedLine p names) (appliedLine ⟨false⟩ names) := by
  have hnames : Decorates
      (if names = [] then p.paint .dim "none" else p.paint .blue (" → ".intercalate names))
      (if names = [] then (⟨false⟩ : Palette).paint .dim "none"
        else (⟨false⟩ : Palette).paint .blue (" → ".intercalate names)) := by
    split
    · exact painted p ..
    · exact painted p ..
  exact decorates_labelled p _ hnames

theorem decorates_closing (result : Extraction) (applied : List String) :
    List.Forall₂ Decorates (closing p timing result applied)
      (closing ⟨false⟩ timing result applied) := by
  have htime := decorates_labelled p "time:    "
    ((painted p .green result.time.rfc3339).paint p .bold)
  have hduration := decorates_labelled p "duration:" (painted p .green result.duration.text)
  have helapsed := (((((refl "  Total: ").append (painted p .green timing.total)).append
    (.refl "  │  Rules: ")).append (painted p .cyan timing.rules)).append
    (.refl "  │  Reduce: ")).append (painted p .dim timing.reduce)
  exact .cons (.refl _) (.cons (painted p ..) (.cons htime (.cons hduration
    (.cons (decorates_textLine p _) (.cons (decorates_appliedLine p _) (.cons (.refl _)
    (.cons (painted p ..) (.cons helapsed (.cons (.refl _) .nil)))))))))

/-- **A report decorates the one without colors**, line by line. -/
theorem decorates_traced (t : TracedExtraction) :
    Decorates (traced p timing input t) (traced ⟨false⟩ timing input t) :=
  .lines (List.rel_append (List.rel_append (decorates_opening p input t.context)
    (decorates_passesLines p timing input 0 t.passes))
    (decorates_closing p timing t.result t.appliedRules))

end Report

/-! ## Reports without colors -/

/-- Elapsed times are written without escape characters. -/
structure Timing.IsPlain (timing : Timing) : Prop where
  total : Plain timing.total
  rules : Plain timing.rules
  reduce : Plain timing.reduce
  pass (place : Nat) : Plain (timing.pass place)

namespace Report

theorem plain_lines_iff {ls : List String} : Plain (lines ls) ↔ ∀ l ∈ ls, Plain l := by
  rw [lines, plain_join_iff, List.forall_mem_map]
  exact forall₂_congr fun l _ => ⟨fun h => (plain_append_iff.mp h).1, fun h => h.append (by decide)⟩

theorem plain_span (s : Span) : Plain (span s) :=
  ((plain_repr _).append (by decide)).append (plain_repr _)

/-- **The plain result** has no escape character if the text that is left has none. -/
theorem plain_plain {e : Extraction} (h : Plain e.text) : Plain (plain e) := by
  have hspans : Plain (", ".intercalate (e.spans.map span)) := by
    refine .intercalate (by decide) fun text htext => ?_
    obtain ⟨s, -, rfl⟩ := List.mem_map.mp htext
    exact plain_span s
  refine plain_lines_iff.mpr ?_
  simp only [List.mem_cons, List.not_mem_nil, or_false, forall_eq_or_imp, forall_eq]
  simp only [plain_append_iff, e.time.plain_rfc3339, e.duration.plain_text, h, hspans, and_true]
  decide

section

variable {timing : Timing} {input : String} {t : TracedExtraction}

theorem plain_padded (width : Nat) {text : String} (h : Plain text) :
    Plain (padded width text) := by
  refine h.append (.of_ofList fun hc => ?_)
  cases List.eq_of_mem_replicate hc

theorem plain_status (what : PassStatus) : Plain (status ⟨false⟩ what) := by
  cases what with
  | applied n =>
    simp only [status, Palette.paint_disabled, plain_append_iff, plain_repr n, and_true]
    decide
  | _ => decide

theorem plain_ruleLine {elapsed : String} (helapsed : Plain elapsed) {pass : Pass}
    (h : Plain pass.rule) : Plain (ruleLine ⟨false⟩ elapsed pass) := by
  have hkind : Plain (kind pass.kind) := by
    cases pass.kind with
    | _ => decide
  simp only [ruleLine, Palette.paint_disabled, plain_append_iff, plain_padded 10 h,
    plain_padded 8 hkind, plain_status, helapsed, and_true]
  decide

theorem plain_spanLine (h : Plain input) (s : Span) : Plain (spanLine ⟨false⟩ input s) := by
  have hpiece : Plain ((Utf8.slice? input s.start s.stop).getD "") := by
    cases hslice : Utf8.slice? input s.start s.stop with
    | none => exact (by decide : Plain "")
    | some piece => exact Utf8.plain_slice? h hslice
  simp only [spanLine, Palette.paint_disabled, plain_append_iff, plain_span s, hpiece, and_true]
  decide

theorem plain_passesLines (htiming : timing.IsPlain) (hinput : Plain input) (place : Nat)
    {passes : List Pass} (h : ∀ pass ∈ passes, Plain pass.rule) :
    ∀ l ∈ passesLines ⟨false⟩ input timing place passes, Plain l := by
  induction passes generalizing place with
  | nil => nofun
  | cons pass passes ih =>
    rw [List.forall_mem_cons] at h
    intro l hl
    rcases List.mem_append.mp hl with hl | hl
    · rcases List.mem_cons.mp hl with rfl | hl
      · exact plain_ruleLine (htiming.pass place) h.1
      · obtain ⟨s, -, rfl⟩ := List.mem_map.mp hl
        exact plain_spanLine hinput s
    · exact ih (place + 1) h.2 l hl

theorem plain_opening (hinput : Plain input) (context : Context) :
    ∀ l ∈ opening ⟨false⟩ context input, Plain l := by
  simp only [opening, Palette.paint_disabled, List.mem_cons, List.not_mem_nil, or_false,
    forall_eq_or_imp, forall_eq, plain_append_iff, hinput, context.now.plain_rfc3339, and_true]
  decide

theorem plain_textLine {text : String} (h : Plain text) : Plain (textLine ⟨false⟩ text) := by
  rw [textLine]
  split
  · decide
  · simp only [Palette.paint_disabled, plain_append_iff, h, and_true]
    decide

theorem plain_appliedLine {names : List String} (h : ∀ name ∈ names, Plain name) :
    Plain (appliedLine ⟨false⟩ names) := by
  have hnames : Plain (" → ".intercalate names) := .intercalate (by decide) h
  rw [appliedLine]
  split
  · decide
  · simp only [Palette.paint_disabled, plain_append_iff, hnames, and_true]
    decide

theorem plain_closing (htiming : timing.IsPlain) {result : Extraction} (htext : Plain result.text)
    {applied : List String} (hrules : ∀ rule ∈ applied, Plain rule) :
    ∀ l ∈ closing ⟨false⟩ timing result applied, Plain l := by
  simp only [closing, Palette.paint_disabled, List.mem_cons, List.not_mem_nil, or_false,
    forall_eq_or_imp, forall_eq, plain_append_iff, result.time.plain_rfc3339,
    result.duration.plain_text, plain_textLine htext, plain_appliedLine hrules, htiming.total,
    htiming.rules, htiming.reduce, and_true, true_and]
  decide

/-- **A report without colors** has no escape character if the text, what is left of it, the names
of the rules and the elapsed times have none. -/
theorem plain_traced (htiming : timing.IsPlain) (hinput : Plain input)
    (htext : Plain t.result.text) (hrules : ∀ pass ∈ t.passes, Plain pass.rule) :
    Plain (traced ⟨false⟩ timing input t) := by
  have happlied : ∀ rule ∈ t.appliedRules, Plain rule := by
    intro rule hrule
    obtain ⟨pass, hpass, rfl⟩ := List.mem_map.mp hrule
    exact hrules pass (List.mem_of_mem_filter hpass)
  refine plain_lines_iff.mpr fun l hl => ?_
  rcases List.mem_append.mp hl with hl | hl
  · rcases List.mem_append.mp hl with hl | hl
    · exact plain_opening hinput t.context l hl
    · exact plain_passesLines htiming hinput 0 hrules l hl
  · exact plain_closing htiming htext happlied l hl

end

/-- A report with colors does have escape characters. -/
theorem not_plain_traced (timing : Timing) (input : String) (t : TracedExtraction) :
    ¬Plain (traced ⟨true⟩ timing input t) := by
  intro h
  have hheading := plain_lines_iff.mp h _ (List.mem_cons_of_mem _ List.mem_cons_self)
  obtain ⟨hpainted, -⟩ := plain_append_iff.mp hheading
  obtain ⟨hbold, -⟩ := plain_append_iff.mp hpainted
  exact absurd hbold (by decide)

end Report

end Timephrase.CommandLine
