import Timephrase.Proofs.English.Failing
import Timephrase.Proofs.English.Gating
import Timephrase.Proofs.Pattern.Group

/-!
# Words for units

The patterns of the rules with an amount choose among words for units, and the meanings tell the
unit from the first letters of what was captured.  The two agree but for one letter: in any case, an
`s` of a pattern is the long `ſ` as well, which is a small letter already and starts no word for a
unit.

## Main definitions

* `English.UnitsUnderstood`: what a rule makes of the units that its pattern chooses among
* `English.NeverAbout`: results that are no failure to make sense of a group

## Main results

* `English.lower_of_mem_letterSet`: the small letter of a letter in any case
* `English.ofUnit?_of_readsAt`: the unit of a word is that of the alternative that reads it
* `English.unit_understood_unless_long_s`: the units of the two rules, and of a parse
-/

namespace Timephrase.English

open Pattern Pattern.Node

variable {u v w before : List Char} {a ch : Char} {nodes : List Node}

/-! ## Small letters -/

/-- **A letter in any case** is one of ASCII, or the long `ſ`, or the sign for the kelvin. -/
theorem mem_letterSet_iff : (letterSet a).mem ch = true ↔
    (asciiLetterSet a).mem ch = true ∨ (a = 's' ∧ ch = 'ſ') ∨ (a = 'k' ∧ ch = '\u212A') := by
  have hchar : ∀ d : Char, (d.toNat ≤ ch.toNat ∧ ch.toNat ≤ d.toNat) ↔ ch = d := fun d => by
    rw [← Char.toNat_inj]
    omega
  have hlong := hchar 'ſ'
  have hkelvin := hchar '\u212A'
  simp only [CharSet.mem, letterSet, asciiLetterSet, Ranges.contains, List.any_cons, List.any_nil,
    Bool.or_false, Bool.or_eq_true, Bool.and_eq_true, decide_eq_true_eq, or_assoc]
  refine or_congr_right (or_congr_right ?_)
  by_cases hs : a = 's'
  · subst hs
    simpa using hlong
  · by_cases hk : a = 'k'
    · subst hk
      simpa using hkelvin
    · simp [hs, hk]

section Letter

variable (ha : a.isLower = true) (h : (letterSet a).mem ch = true) (hlong : ch ≠ 'ſ')

include ha h hlong

/-- **The small letter of a letter in any case**, unless the letter is the long `ſ`. -/
theorem lower_of_mem_letterSet : Lowercase.lower ch = a := by
  rcases mem_letterSet_iff.mp h with h | ⟨-, rfl⟩ | ⟨rfl, rfl⟩
  · have hascii : ch.toNat < 128 := by
      have hlow := Ascii.isLower_iff.mp ha
      have hcases := Ascii.toLower_cases ch
      rw [toLower_of_mem_asciiLetterSet ha h] at hcases
      rcases hcases with rfl | h
      · omega
      · omega
    rw [Lowercase.lower, if_pos hascii, toLower_of_mem_asciiLetterSet ha h]
  · exact absurd rfl hlong
  · decide

theorem lowerAfter_of_mem_letterSet :
    Lowercase.lowerAfter before (ch :: w) = a :: Lowercase.lowerAfter (ch :: before) w := by
  have hlower := lower_of_mem_letterSet ha h hlong
  -- The two letters that have no small letter of their own are none of ASCII.
  have hsigma : ch ≠ '\u03A3' := by
    rintro rfl
    rw [← hlower] at ha
    exact absurd ha (by decide)
  have hdotted : ch ≠ '\u0130' := by
    rintro rfl
    rw [← hlower] at ha
    exact absurd ha (by decide)
  rw [Lowercase.lowerAfter, if_neg hsigma, if_neg hdotted, hlower]
  rfl

end Letter

/-- The long `ſ` is a small letter. -/
theorem lowerAfter_long :
    Lowercase.lowerAfter before ('ſ' :: w) = 'ſ' :: Lowercase.lowerAfter ('ſ' :: before) w := by
  have hlower : Lowercase.lower 'ſ' = 'ſ' := by decide
  rw [Lowercase.lowerAfter, if_neg (by decide), if_neg (by decide), hlower]
  rfl

/-! ## Words that start with a letter -/

/-- A row that starts with a letter reads the letter first. -/
theorem exists_of_readsAt_letter (h : (ofItems (letter a :: nodes)).ReadsAt u w v) :
    ∃ ch w', w = ch :: w' ∧ (letterSet a).mem ch = true ∧
      (ofItems nodes).ReadsAt (u ++ [ch]) w' v := by
  obtain ⟨gs, h⟩ := h
  obtain ⟨e, hs, ks, ⟨ch, hch, hread, -⟩, hrow, -⟩ := way_ofItems.mp h
  obtain ⟨w', hw'⟩ := hrow.exists_reads
  have hall : w ++ v = [ch] ++ w' ++ v := (hread.trans hw').rest_eq
  obtain rfl : w = ch :: w' := List.append_cancel_right hall
  have he : e = .between (u ++ [ch]) (w' ++ v) := by
    rw [hread.eq_between, hw'.rest_eq]
    rfl
  refine ⟨ch, w', rfl, hch, ks, way_ofItems.mpr ?_⟩
  rw [← he, List.append_assoc]
  exact hrow

/-- What may be left out is left out or read. -/
theorem readsAt_optional (h : (optional nodes).ReadsAt u w v) :
    w = [] ∨ (ofItems nodes).ReadsAt u w v := by
  obtain ⟨gs, h⟩ := h
  rcases way_optional.mp h with ⟨heq, -⟩ | h
  · have hrest : [] ++ v = w ++ v := congrArg Cursor.rest heq
    exact Or.inl (List.append_cancel_right hrest).symm
  · exact Or.inr ⟨gs, h⟩

/-- A word that starts with a letter in any case starts with its small letter in small letters,
unless the letter is the long `ſ`. -/
theorem lowercase_of_readsAt_letter (ha : a.isLower = true)
    (h : (ofItems (letter a :: nodes)).ReadsAt u w v) :
    ∃ ch w', w = ch :: w' ∧ (ofItems nodes).ReadsAt (u ++ [ch]) w' v ∧ (ch = 'ſ' → a = 's') ∧
      Lowercase.lowercase (String.ofList w) =
        String.ofList ((if ch = 'ſ' then 'ſ' else a) :: Lowercase.lowerAfter [ch] w') := by
  obtain ⟨ch, w', rfl, hch, hrest⟩ := exists_of_readsAt_letter h
  refine ⟨ch, w', rfl, hrest, ?_, ?_⟩
  · rintro rfl
    rcases mem_letterSet_iff.mp hch with hascii | ⟨hs, -⟩ | ⟨-, hk⟩
    · have hlower := toLower_of_mem_asciiLetterSet ha hascii
      rw [← hlower] at ha
      exact absurd ha (by decide)
    · exact hs
    · exact absurd hk (by decide)
  · rw [Lowercase.lowercase, String.toList_ofList]
    split
    · next hlong => rw [hlong, lowerAfter_long]
    · next hlong => rw [lowerAfter_of_mem_letterSet ha hch hlong]

/-! ## The unit of a word -/

/-- The unit of a word, where the first letter alone tells it. -/
theorem ofUnit?_of_letter {grain : Grain} (ha : a.isLower = true)
    (hgrain : ∀ rest, Grain.ofUnit? (String.ofList (a :: rest)) = some grain)
    (h : (ofItems (letter a :: nodes)).ReadsAt u w v) :
    Grain.ofUnit? (Lowercase.lowercase (String.ofList w)) =
        (if w.head? = some 'ſ' then none else some grain) ∧
      (w.head? = some 'ſ' → grain = .second) := by
  obtain ⟨ch, w', rfl, -, hs, hlower⟩ := lowercase_of_readsAt_letter ha h
  rw [hlower]
  simp only [List.head?_cons, Option.some.injEq]
  split
  · next hlong =>
    obtain rfl := hs hlong
    refine ⟨by simp [Grain.ofUnit?], fun _ => ?_⟩
    exact (Option.some.inj (hgrain [])).symm
  · next hlong => exact ⟨hgrain _, fun heq => absurd heq hlong⟩

/-- The unit of a word in `m`, which another letter tells. -/
theorem ofUnit?_of_m {grain : Grain} (h : (ofItems (letter 'm' :: nodes)).ReadsAt u w v)
    (hgrain : ∀ ch w', (ofItems nodes).ReadsAt (u ++ [ch]) w' v →
      Grain.ofUnit? (String.ofList ('m' :: Lowercase.lowerAfter [ch] w')) = some grain) :
    Grain.ofUnit? (Lowercase.lowercase (String.ofList w)) =
        (if w.head? = some 'ſ' then none else some grain) ∧
      (w.head? = some 'ſ' → grain = .second) := by
  obtain ⟨ch, w', rfl, hrest, hs, hlower⟩ := lowercase_of_readsAt_letter (by decide) h
  have hlong : ch ≠ 'ſ' := fun heq => absurd (hs heq) (by decide)
  rw [hlower]
  simp only [List.head?_cons, Option.some.injEq, if_neg hlong]
  exact ⟨hgrain ch w' hrest, fun heq => absurd heq hlong⟩

/-- The second letter of a word, in small letters. -/
theorem lowerAfter_of_readsAt_letter (ha : a.isLower = true) (hs : a ≠ 's')
    (h : (ofItems (letter a :: nodes)).ReadsAt u w v) :
    ∃ rest, Lowercase.lowerAfter before w = a :: rest := by
  obtain ⟨ch, w', rfl, hch, -⟩ := exists_of_readsAt_letter h
  obtain ⟨_, _, heq, -, hlong, -⟩ := lowercase_of_readsAt_letter ha h
  obtain ⟨rfl, rfl⟩ := List.cons.inj heq
  exact ⟨_, lowerAfter_of_mem_letterSet ha hch fun heq => hs (hlong heq)⟩

/-- The words for units, each alternative of the patterns with its unit. -/
def unitWords (units : List Node) : List (Node × Grain) := units.zip Grain.all

/-- **The unit of a word is that of the alternative that reads it**, unless the word starts with the
long `ſ`.  Then it is a word for seconds, and no unit is told from it. -/
theorem ofUnit?_of_readsAt {alternative : Node × Grain}
    (h : alternative ∈ unitWords (fixedUnits ++ longUnits))
    (hread : alternative.1.ReadsAt u w v) :
    Grain.ofUnit? (Lowercase.lowercase (String.ofList w)) =
        (if w.head? = some 'ſ' then none else some alternative.2) ∧
      (w.head? = some 'ſ' → alternative.2 = .second) := by
  have hall : alternative ∈ [_, _, _, _, _, _, _] := h
  simp only [List.mem_cons, List.not_mem_nil, or_false] at hall
  -- From seconds to years; only the words in `m` are not told apart by their first letters.
  rcases hall with rfl | rfl | rfl | rfl | rfl | rfl | rfl
  · exact ofUnit?_of_letter (a := 's') (by decide) (fun _ => by simp [Grain.ofUnit?]) hread
  -- A word for minutes is the letter alone, or goes on with another one than that for months.
  · refine ofUnit?_of_m hread fun ch w' hrest => ?_
    rcases readsAt_optional hrest with rfl | hrest
    · simp [Grain.ofUnit?, Lowercase.lowerAfter]
    · obtain ⟨rest, hrest⟩ := lowerAfter_of_readsAt_letter (a := 'i') (by decide) (by decide) hrest
      rw [hrest]
      simp [Grain.ofUnit?]
  · exact ofUnit?_of_letter (a := 'h') (by decide) (fun _ => by simp [Grain.ofUnit?]) hread
  · exact ofUnit?_of_letter (a := 'd') (by decide) (fun _ => by simp [Grain.ofUnit?]) hread
  · exact ofUnit?_of_letter (a := 'w') (by decide) (fun _ => by simp [Grain.ofUnit?]) hread
  · refine ofUnit?_of_m hread fun ch w' hrest => ?_
    obtain ⟨rest, hrest⟩ := lowerAfter_of_readsAt_letter (a := 'o') (by decide) (by decide) hrest
    rw [hrest]
    simp [Grain.ofUnit?]
  · exact ofUnit?_of_letter (a := 'y') (by decide) (fun _ => by simp [Grain.ofUnit?]) hread

/-! ## The units of the rules -/

/-- What a rule makes of the words in a text that its pattern chooses among.  The unit of a match is
captured as a word that one of them reads, in small letters.  Of every one that reads it the unit is
understood, unless the word starts with the long `ſ`.  Then it is a word for seconds, and the rule
fails to make sense of it. -/
def UnitsUnderstood (rule : Rule) (units : List Node) (text : String) : Prop :=
  ∀ m ∈ rule.pattern.findAll text, ∃ u w v, text.toList = u ++ w ++ v ∧
    (Captures.ofMatch rule.name rule.pattern text m).get? "unit" =
      some (Lowercase.lowercase (String.ofList w)) ∧
    (∃ alternative ∈ unitWords units, alternative.1.ReadsAt u w v) ∧
    ∀ alternative ∈ unitWords units, alternative.1.ReadsAt u w v →
      if w.head? = some 'ſ' then
        alternative.2 = .second ∧ unit (.ofMatch rule.name rule.pattern text m) =
          .error (.capture rule.name "unit" (Lowercase.lowercase (String.ofList w)) .unknownUnit)
      else unit (.ofMatch rule.name rule.pattern text m) = .ok alternative.2

/-- The unit of a phrase by what is captured for it. -/
theorem unit_of_get? {c : Captures} {value : String} (h : c.get? "unit" = some value) :
    unit c = match Grain.ofUnit? value with
      | some grain => .ok grain
      | none => .error (.capture c.rule "unit" value .unknownUnit) := by
  have htext := Captures.text_of_get? h
  have hfailure : c.failure "unit" .unknownUnit = .capture c.rule "unit" value .unknownUnit := by
    rw [Captures.failure, htext]
  cases hgrain : Grain.ofUnit? value with
  | some grain => simp only [unit, htext, hgrain]
  | none => simp only [unit, htext, hgrain, hfailure]

theorem unitsUnderstood_of_bodies {rule : Rule} {units : List Node} {text : String}
    (hname : rule.pattern.names.lookup "unit" = some 2)
    (hbody : rule.pattern.node.bodies 2 = [ofBranches units])
    (hrecords : rule.pattern.node.records 2 = true) (hlength : units.length ≤ Grain.all.length)
    (hwords : ∀ word ∈ unitWords units, word ∈ unitWords (fixedUnits ++ longUnits)) :
    UnitsUnderstood rule units text := by
  intro m hm
  obtain ⟨u, w, v, ht, hread, hget⟩ :=
    Captures.exists_readsAt_of_records rule.name hm hname hbody hrecords
  obtain ⟨node, hnode, hreads⟩ := readsAt_ofBranches.mp hread
  -- No word is lost when the units are paired with the grains.
  have hfirst : (unitWords units).map Prod.fst = units := List.map_fst_zip hlength
  rw [← hfirst] at hnode
  obtain ⟨alternative, halternative, rfl⟩ := List.mem_map.mp hnode
  refine ⟨u, w, v, ht, hget, ⟨alternative, halternative, hreads⟩, fun word hword hreads => ?_⟩
  obtain ⟨hunit, hlong⟩ := ofUnit?_of_readsAt (hwords word hword) hreads
  rw [unit_of_get? hget, hunit]
  split
  · next hhead => exact ⟨hlong hhead, rfl⟩
  · rfl

theorem unitsUnderstood_duration (text : String) :
    UnitsUnderstood durationRule fixedUnits text := by
  refine unitsUnderstood_of_bodies rfl rfl rfl (by decide) fun word hword => ?_
  exact List.mem_append_left (longUnits.zip [.week, .month, .year]) hword

theorem unitsUnderstood_inOffset (text : String) :
    UnitsUnderstood inOffsetRule (fixedUnits ++ longUnits) text :=
  unitsUnderstood_of_bodies rfl rfl rfl (by decide) fun _ hword => hword

/-- **A unit in ASCII is understood** as that of a word of the rule, since it does not start with
the long `ſ`. -/
theorem UnitsUnderstood.exists_word_of_ascii {rule : Rule} {units : List Node} {text : String}
    {m : Match} (h : UnitsUnderstood rule units text) (hm : m ∈ rule.pattern.findAll text)
    (hascii : ∀ ch ∈ ((Captures.ofMatch rule.name rule.pattern text m).text "unit").toList,
      ch.toNat < 128) :
    ∃ word ∈ unitWords units, unit (.ofMatch rule.name rule.pattern text m) = .ok word.2 := by
  obtain ⟨u, w, v, -, hget, ⟨word, hword, hreads⟩, hall⟩ := h m hm
  have hunit := hall word hword hreads
  rw [Captures.text_of_get? hget] at hascii
  split at hunit
  · next hhead =>
    -- The long letter stays in small letters, and is none of ASCII.
    obtain ⟨w, rfl⟩ := List.head?_eq_some_iff.mp hhead
    rw [Lowercase.lowercase, String.toList_ofList, String.toList_ofList, lowerAfter_long] at hascii
    exact absurd (hascii 'ſ' List.mem_cons_self) (by decide)
  · exact ⟨word, hword, hunit⟩

theorem UnitsUnderstood.exists_unit_of_ascii {rule : Rule} {units : List Node} {text : String}
    {m : Match} (h : UnitsUnderstood rule units text) (hm : m ∈ rule.pattern.findAll text)
    (hascii : ∀ ch ∈ ((Captures.ofMatch rule.name rule.pattern text m).text "unit").toList,
      ch.toNat < 128) :
    ∃ grain, unit (.ofMatch rule.name rule.pattern text m) = .ok grain := by
  obtain ⟨word, -, hunit⟩ := h.exists_word_of_ascii hm hascii
  exact ⟨word.2, hunit⟩

/-- A failure to make sense of a unit is about a word that starts with the long `ſ`. -/
theorem UnitsUnderstood.head?_of_error {rule : Rule} {units : List Node} {text name value : String}
    {fault : CaptureFault} {m : Match} (h : UnitsUnderstood rule units text)
    (hm : m ∈ rule.pattern.findAll text)
    (hfails : unit (.ofMatch rule.name rule.pattern text m) =
      .error (.capture name "unit" value fault)) :
    name = rule.name ∧ fault = .unknownUnit ∧ value.toList.head? = some 'ſ' ∧
      'ſ' ∈ text.toList := by
  obtain ⟨u, w, v, ht, hget, ⟨word, hword, hreads⟩, hall⟩ := h m hm
  have hunit := hall word hword hreads
  split at hunit
  · next hhead =>
    rw [hunit.2] at hfails
    obtain ⟨rfl, -, rfl, rfl⟩ := Failure.capture.inj (Except.error.inj hfails)
    obtain ⟨w, rfl⟩ : ∃ w', w = 'ſ' :: w' := by
      cases w with
      | nil => cases hhead
      | cons ch w => exact ⟨w, congrArg (· :: w) (Option.some.inj hhead)⟩
    refine ⟨rfl, rfl, ?_, ?_⟩
    · rw [Lowercase.lowercase, String.toList_ofList, String.toList_ofList, lowerAfter_long]
      rfl
    · rw [ht]
      exact List.mem_append_left _ (List.mem_append_right _ List.mem_cons_self)
  · rw [hunit] at hfails
    cases hfails

/-! ## The units of a parse -/

/-- A result that is no failure to make sense of a group. -/
def NeverAbout {α : Type} (group : String) (x : Except Failure α) : Prop :=
  ∀ name value fault, x ≠ .error (.capture name group value fault)

namespace NeverAbout

variable {α β : Type} {group : String} {x : Except Failure α} {c : Captures}

theorem ok (a : α) : NeverAbout group (.ok a : Except Failure α) := nofun

theorem bind {f : α → Except Failure β} (hx : NeverAbout group x)
    (hf : ∀ a, NeverAbout group (f a)) : NeverAbout group (x >>= f) := by
  intro name value fault h
  rcases exists_of_bind_eq_error h with h | ⟨a, -, h⟩
  · exact hx name value fault h
  · exact hf a name value fault h

theorem failure {name : String} (hne : name ≠ group) (fault : CaptureFault) :
    NeverAbout group (.error (c.failure name fault) : Except Failure α) := by
  intro _ _ _ h
  exact hne (Failure.capture.inj (Except.error.inj h)).2.1

theorem read? (reader : String → Except NumberFault α) {name : String} (hne : name ≠ group) :
    NeverAbout group (c.read? reader name) := by
  intro _ _ _ h
  obtain ⟨_, _, hfailure⟩ := Captures.rule_of_read? h
  exact hne (Failure.capture.inj hfailure).2.1.symm

theorem require (reader : String → Except NumberFault α) {name : String} (hne : name ≠ group) :
    NeverAbout group (c.require reader name) := by
  refine (read? reader hne).bind fun a? => ?_
  cases a? with
  | some a => exact .ok a
  | none =>
    intro _ _ _ h
    exact hne (Failure.capture.inj (Except.error.inj h)).2.1

theorem inRange (a? : Option α) : NeverAbout group (inRange c a?) := by
  cases a? with
  | some a => exact .ok a
  | none => nofun

end NeverAbout

variable {context : Context} {mode : MatchMode} {text name value : String} {fault : CaptureFault}
  {state : Moment × Duration} {step : Step} {c : Captures}

/-- A failure of a length of time is about its unit just if the unit fails. -/
theorem unit_of_lengthAdded {d : Duration}
    (h : lengthAdded d c = .error (.capture name "unit" value fault)) :
    unit c = .error (.capture name "unit" value fault) := by
  rcases exists_of_bind_eq_error h with h | ⟨amount, -, h⟩
  · exact absurd h (NeverAbout.require _ (by decide) _ _ _)
  · rcases exists_of_bind_eq_error h with h | ⟨grain, -, h⟩
    · exact h
    · exact absurd h (NeverAbout.inRange _ _ _ _)

/-- A failure of a shift is about its unit just if the unit fails. -/
theorem unit_of_shifted {t : Moment}
    (h : shifted t c = .error (.capture name "unit" value fault)) :
    unit c = .error (.capture name "unit" value fault) := by
  rcases exists_of_bind_eq_error h with h | ⟨amount, -, h⟩
  · exact absurd h (NeverAbout.require _ (by decide) _ _ _)
  · rcases exists_of_bind_eq_error h with h | ⟨grain, -, h⟩
    · exact h
    · split at h
      · exact absurd h (NeverAbout.failure (by decide) _ _ _ _)
      · exact absurd h (NeverAbout.inRange _ _ _ _)

/-- The rules without an amount have no unit to fail about. -/
theorem neverAbout_timeOfDay (t : Moment) : NeverAbout "unit" (timeOfDay t c) :=
  (NeverAbout.require _ (by decide)).bind fun _ =>
    (NeverAbout.read? _ (by decide)).bind fun _ => NeverAbout.inRange _

theorem neverAbout_calendarDate (t : Moment) : NeverAbout "unit" (calendarDate t c) := by
  rw [calendarDate_eq]
  refine .bind ?_ fun _ => .bind ?_ fun _ =>
    (NeverAbout.read? _ (by decide)).bind fun _ => NeverAbout.inRange _
  · rw [writtenMonth]
    cases month? (c.text "month") with
    | some month => exact .ok month
    | none => exact .failure (by decide) _
  · refine (NeverAbout.read? _ (by decide)).bind fun after? => ?_
    cases after? with
    | some day => exact .ok day
    | none => exact (NeverAbout.read? _ (by decide)).bind fun _ => .ok _

theorem neverAbout_inZone (t : Moment) : NeverAbout "unit" (inZone t c) := by
  refine .bind (fun _ _ _ h => ?_) fun zone => ?_
  · rw [ZoneCode.lookup] at h
    split at h
    · cases h
    · split at h
      · cases h
      · cases h
  · cases zone.resolve? t.localTime with
    | some moment => exact .ok moment
    | none => nofun

/-- **A step that fails to make sense of a unit** is one of a rule with an amount, and the unit
starts with the long `ſ`. -/
theorem head?_of_rewrite_eq_error (hstep : step.1 ∈ catalogRead.rules)
    (hm : step.2 ∈ step.1.pattern.findAll text)
    (h : step.rewrite context text state = .error (.capture name "unit" value fault)) :
    (name = "duration" ∨ name = "in offset") ∧ fault = .unknownUnit ∧
      value.toList.head? = some 'ſ' ∧ 'ſ' ∈ text.toList := by
  obtain ⟨rule, m⟩ := step
  rcases mem_rules_iff.mp hstep with rfl | rfl | rfl | rfl | rfl | rfl | rfl | rfl
  · exact absurd (map_eq_error_iff.mp h) (NeverAbout.inRange _ _ _ _)
  · exact absurd (map_eq_error_iff.mp h) (NeverAbout.inRange _ _ _ _)
  · cases h
  · exact absurd (map_eq_error_iff.mp h) (neverAbout_timeOfDay _ _ _ _)
  · obtain ⟨hname, hrest⟩ := (unitsUnderstood_duration text).head?_of_error hm
      (unit_of_lengthAdded (map_eq_error_iff.mp h))
    exact ⟨Or.inl hname, hrest⟩
  · exact absurd (map_eq_error_iff.mp h) (neverAbout_calendarDate _ _ _ _)
  · obtain ⟨hname, hrest⟩ :=
      (unitsUnderstood_inOffset text).head?_of_error hm (unit_of_shifted (map_eq_error_iff.mp h))
    exact ⟨Or.inr hname, hrest⟩
  · exact absurd (map_eq_error_iff.mp h) (neverAbout_inZone _ _ _ _)

/-- **Every unit is understood unless it starts with the long `ſ`.**  The rule for lengths of time
chooses among seconds, minutes, hours and days, and the one for shifts among weeks, months and years
as well.  For every match in a text the unit is that of the alternative which reads its word.  Only
a word for seconds that starts with the long `ſ` is read and not understood.  So a parse of the text
fails to make sense of a unit only if the text has this letter. -/
theorem unit_understood_unless_long_s (text : String) :
    (∃ rule, duration = .ok rule ∧ UnitsUnderstood rule fixedUnits text) ∧
    (∃ rule, inOffset = .ok rule ∧ UnitsUnderstood rule (fixedUnits ++ longUnits) text) ∧
    ∃ c, catalog = .ok c ∧ ∀ mode context name value fault,
      (⟨c, mode⟩ : Parser).parse context text = .error (.capture name "unit" value fault) →
        (name = "duration" ∨ name = "in offset") ∧ fault = .unknownUnit ∧
          value.toList.head? = some 'ſ' ∧ 'ſ' ∈ text.toList := by
  refine ⟨⟨_, duration_eq, unitsUnderstood_duration text⟩,
    ⟨_, inOffset_eq, unitsUnderstood_inOffset text⟩,
    _, catalog_eq, fun mode context name value fault h => ?_⟩
  obtain ⟨before, step, state, hreaches, hfails⟩ := Parser.parse_eq_error_iff.mp h
  obtain ⟨hrule, hm⟩ := Catalog.mem_of_mem_steps hreaches.mem_steps
  exact head?_of_rewrite_eq_error hrule hm hfails

/-- Five seconds by the long `ſ`: the pattern finds the phrase by its word for seconds, and the
parse fails. -/
theorem unit_of_long_s :
    (∃ rule m, duration = .ok rule ∧ m ∈ rule.pattern.findAll "for 5 ſ" ∧
      ∃ word ∈ unitWords fixedUnits, ∃ u w v, word.1.ReadsAt u w v ∧ word.2 = .second ∧
        unit (.ofMatch rule.name rule.pattern "for 5 ſ" m) = .error
          (.capture "duration" "unit" (Lowercase.lowercase (String.ofList w)) .unknownUnit)) ∧
    ∃ c, catalog = .ok c ∧ (⟨c, .all⟩ : Parser).parse halfPastFour "for 5 ſ" =
      .error (.capture "duration" "unit" "ſ" .unknownUnit) ∧ 'ſ' ∈ "for 5 ſ".toList := by
  obtain ⟨⟨rule, hrule, hunits⟩, -, c, hc, hparse⟩ := unit_understood_unless_long_s "for 5 ſ"
  obtain rfl : durationRule = rule := Except.ok.inj (duration_eq.symm.trans hrule)
  obtain rfl := catalogRead_eq hc
  have hm : ⟨⟨0, 8⟩, [(2, ⟨6, 8⟩), (1, ⟨4, 5⟩)]⟩ ∈ durationRule.pattern.findAll "for 5 ſ" := by
    decide +kernel
  have hunit : (unit (.ofMatch "duration" durationRule.pattern "for 5 ſ"
      ⟨⟨0, 8⟩, [(2, ⟨6, 8⟩), (1, ⟨4, 5⟩)]⟩)).isOk = false := by decide +kernel
  have hfails : (⟨catalogRead, .all⟩ : Parser).parse halfPastFour "for 5 ſ" =
      .error (.capture "duration" "unit" "ſ" .unknownUnit) := by decide +kernel
  obtain ⟨-, -, -, hlong⟩ := hparse _ _ _ _ _ hfails
  refine ⟨⟨durationRule, _, hrule, hm, ?_⟩, catalogRead, hc, hfails, hlong⟩
  obtain ⟨u, w, v, -, -, ⟨word, hword, hreads⟩, hall⟩ := hunits _ hm
  have hword' := hall word hword hreads
  split at hword'
  · exact ⟨word, hword, u, w, v, hreads, hword'⟩
  · rw [show durationRule.name = "duration" from rfl] at hword'
    rw [hword'] at hunit
    cases hunit

end Timephrase.English
