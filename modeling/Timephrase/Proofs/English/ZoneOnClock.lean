import Timephrase.Proofs.English.Catalog
import Timephrase.Proofs.English.ClockFound
import Timephrase.Proofs.Pattern.Need
import Timephrase.Proofs.Run.Trace

/-!
# Zones and the times of day that they follow

The rule for zones reads a time of day before the code of a zone, and the rule for times of day is
to have read the same one.  It has if a blank stands before the code.  If the code follows directly,
no time of day ends there, and the zone is laid on whatever time there was.

## Main definitions

* `English.Covers`: a span holds the characters of a stretch of a text, but for blanks
* `English.BlankBefore`: a blank stands before a position of a text

## Main results

* `English.zone_on_clock_iff`: a recorded zone has its time of day just if a blank stands before the
  code
-/

namespace Timephrase.English

open Pattern Pattern.Node Pattern.Cursor

/-- A span holds the characters of a text between two positions, but for blanks. -/
def Covers (text : String) (s : Span) (start stop : Nat) : Prop :=
  ∀ u ch v, text.toList = u ++ ch :: v → start ≤ Utf8.size u → Utf8.size u < stop →
    Blank.isBlank ch = false → s.start ≤ Utf8.size u ∧ Utf8.size (u ++ [ch]) ≤ s.stop

/-- A blank stands directly before a position of a text. -/
def BlankBefore (text : String) (position : Nat) : Prop :=
  ∃ u ch v, text.toList = u ++ ch :: v ∧ Utf8.size (u ++ [ch]) = position ∧ Blank.isBlank ch = true

variable {text : String} {m : Match} {u v : List Char}

/-! ## Codes -/

theorem isZoneStart_of_code : ∀ code ∈ ZoneCode.ordered, isZoneStart code.toList = true := by
  decide

theorem isZoneStart_append {w : List Char} (h : isZoneStart w = true) :
    isZoneStart (w ++ v) = true := by
  match w, h with
  | _ :: _ :: _, h => exact h

/-- What stands for itself reads itself. -/
theorem reads_of_exactly {word : String} {c d : Cursor} {gs : List (Nat × Span)}
    (h : (exactly word).Way c d gs) : c.Reads word.toList d := by
  have hrow : ∀ cs : List Char, ∀ {c : Cursor} {gs : List (Nat × Span)},
      Row (cs.map fun c => .set ⟨.single c.toNat, false⟩) c d gs → c.Reads cs d := by
    intro cs
    induction cs with
    | nil =>
      rintro c gs ⟨rfl, -⟩
      exact .refl _
    | cons a cs ih =>
      rintro c gs ⟨e, hs, ks, ⟨ch, hch, hread, -⟩, hrest, -⟩
      have hbounds := (Ranges.contains_range _ _ _).mp hch
      obtain rfl : ch = a := Char.toNat_inj.mp (by omega)
      exact hread.trans (ih hrest)
  exact hrow word.toList (way_ofItems.mp h)

/-- **What the pattern for zones reads** is a time of day, with a blank after it or none, and a
code, which is its group. -/
theorem exists_code_of_timezone {c d : Cursor} {gs : List (Nat × Span)}
    (h : timezoneNode.Way c d gs) :
    (Look.word .boundary false).HoldsAt c ∧
      ∃ (k : Clock) (gap : List Char) (e e' : Cursor), ∃ code ∈ ZoneCode.ordered, IsGap gap ∧
        c.Reads (k.word ++ gap) e ∧ e.Reads code.toList e' ∧
        gs.lookup 1 = some ⟨e.offset, e'.offset⟩ := by
  have hrow : Row (clockNodes ++ .group 1 (ofBranches (ZoneCode.ordered.map exactly)) :: [edge])
      c d gs := way_ofItems.mp h
  obtain ⟨e, e', hs, ks, ls, hclock, hcode, -, hgroup⟩ := hrow.lookup_group (by decide)
  obtain ⟨hstart, k, gap, hgap, hread⟩ := exists_clock_of_zone hclock
  obtain ⟨node, hnode, hway⟩ := way_ofBranches.mp hcode
  obtain ⟨code, hmem, rfl⟩ := List.mem_map.mp hnode
  exact ⟨hstart, k, gap, e, e', code, hmem, hgap, hread, reads_of_exactly hway, hgroup⟩

/-- The time of day is known from what comes after it, which starts as a code does. -/
theorem exists_clock_of_timezone {c d : Cursor} {gs : List (Nat × Span)}
    (h : timezoneNode.Way c d gs) :
    (Look.word .boundary false).HoldsAt c ∧
      ∃ (k : Clock) (gap : List Char) (e : Cursor) (stop : Nat), IsGap gap ∧
        c.Reads (k.word ++ gap) e ∧ isZoneStart e.rest = true ∧
        gs.lookup 1 = some ⟨e.offset, stop⟩ := by
  obtain ⟨hstart, k, gap, e, e', code, hmem, hgap, hread, hcode, hgroup⟩ :=
    exists_code_of_timezone h
  have hzone : isZoneStart e.rest = true := by
    rw [hcode.rest_eq]
    exact isZoneStart_append (isZoneStart_of_code code hmem)
  exact ⟨hstart, k, gap, e, e'.offset, hgap, hread, hzone, hgroup⟩

/-! ## Blanks before a code -/

/-- A blank stands before a position if the text up to there ends with one. -/
theorem blankBefore_iff {w : List Char} {ch : Char} (ht : text.toList = w ++ [ch] ++ v) :
    BlankBefore text (Utf8.size (w ++ [ch])) ↔ Blank.isBlank ch = true := by
  constructor
  · rintro ⟨u, ch', v', ht', hsize, hblank⟩
    have hparts : (u ++ [ch']) ++ v' = w ++ [ch] ++ v := by
      rw [← ht, ht']
      simp
    have heq := Utf8.eq_of_append_eq_append hparts hsize
    obtain ⟨-, hch⟩ := List.append_inj' heq rfl
    obtain rfl : ch' = ch := List.singleton_inj.mp hch
    exact hblank
  · intro hblank
    exact ⟨w, ch, v, by simpa using ht, rfl, hblank⟩

/-- Before the code of a zone stands a blank just if one was read after the time of day, or as a
part of it that no half of the day follows. -/
theorem blankBefore_code_iff {k : Clock} {gap : List Char} (hgap : IsGap gap)
    (ht : text.toList = u ++ (k.word ++ gap) ++ v) :
    BlankBefore text (Utf8.size (u ++ (k.word ++ gap))) ↔
      gap ≠ [] ∨ k.half = [] ∧ k.gap ≠ [] := by
  -- What stands before the code is the second blank, the end of the time of day, or the blank in
  -- it.
  cases hgap with
  | @blank b hb =>
    rw [← List.append_assoc] at ht ⊢
    rw [blankBefore_iff ht]
    exact iff_of_true hb (Or.inl (by simp))
  | none =>
    rw [List.append_nil] at ht ⊢
    by_cases hlast : k.half ≠ [] ∨ k.gap = []
    · obtain ⟨w, ch, hw, hch⟩ := k.exists_last_isWord hlast
      rw [hw, ← List.append_assoc] at ht ⊢
      rw [blankBefore_iff ht]
      refine iff_of_false (fun hblank => ?_) ?_
      · rw [Word.isWord_of_isBlank hblank] at hch
        cases hch
      · rintro (hne | ⟨hhalf, hgap⟩)
        · exact hne rfl
        · exact hlast.elim (· hhalf) hgap
    · rw [not_or, not_not] at hlast
      obtain ⟨hhalf, hne⟩ := hlast
      obtain ⟨b, hb, hgap⟩ := k.isGap.exists_of_ne_nil hne
      have hw : k.word = (k.lead ++ (k.hour ++ k.minute)) ++ [b] := by
        rw [Clock.word, Clock.signs, hhalf, hgap]
        simp
      rw [hw, ← List.append_assoc] at ht ⊢
      rw [blankBefore_iff ht]
      exact iff_of_true hb (Or.inr ⟨hhalf, hne⟩)

/-! ## Times of day that are found -/

/-- A match of the pattern for times of day reads a time of day up to the edge of a word. -/
theorem exists_clock_of_mem_findAll (h : m ∈ atTimeRule.pattern.findAll text) :
    ∃ (u v : List Char) (k : Clock) (d : Cursor), text.toList = u ++ v ∧
      m.span = ⟨Utf8.size u, d.offset⟩ ∧ (between u v).Reads k.word d ∧
      (Look.word .boundary false).HoldsAt d := by
  obtain ⟨u, v, ht, hm⟩ := exists_place_of_mem_findAll h
  obtain ⟨d, hway, hspan⟩ := way_of_matchAt? hm
  obtain ⟨-, hstop, k, hread⟩ := exists_clock_of_atTime hway
  exact ⟨u, v, k, d, ht, hspan, hread, hstop⟩

/-- No match of the pattern for times of day reaches past a place where one starts. -/
theorem not_overlapped {k : Clock} (ht : text.toList = u ++ (k.word ++ v)) :
    ¬ ∃ m ∈ atTimeRule.pattern.findAll text,
      m.span.start < Utf8.size u ∧ Utf8.size u < m.span.stop := by
  rintro ⟨m, hm, hstart, hstop⟩
  obtain ⟨u', v', k', d, ht', hspan, hread, -⟩ := exists_clock_of_mem_findAll hm
  rw [hspan] at hstart hstop
  obtain ⟨w, rfl, hv'⟩ := Utf8.exists_of_append_eq_append (ht'.symm.trans ht) (Nat.le_of_lt hstart)
  have hrest : k'.word ++ d.rest = w ++ k.a :: k.t :: (k.blank :: (k.signs ++ k.half) ++ v) := by
    rw [← hread.rest_eq]
    exact hv'
  have hne : w ≠ [] := by
    rintro rfl
    simp at hstart
  -- The match would have the word "at" that starts here among its characters.
  have hlt : w.length < k'.word.length := by
    by_contra hle
    obtain ⟨t, rfl⟩ : k'.word <+: w := List.prefix_of_prefix_length_le
      ⟨d.rest, rfl⟩ (hrest ▸ List.prefix_append w _) (Nat.le_of_not_lt hle)
    have hoffset := hread.offset_eq
    simp only [between, Utf8.size_append] at hoffset hstop
    omega
  have hnot := Clock.not_at_inside hrest hne hlt k.a_mem
  rw [k.t_mem] at hnot
  cases hnot

/-- **The time of day before a zone is found if a blank stands before the code**. -/
theorem exists_covers {k : Clock} {gap : List Char} (hgap : IsGap gap)
    (ht : text.toList = u ++ (k.word ++ gap ++ v))
    (hedge : (Look.word .boundary false).HoldsAt (between u (k.word ++ gap ++ v)))
    (hblank : gap ≠ [] ∨ k.half = [] ∧ k.gap ≠ []) :
    ∃ m ∈ atTimeRule.pattern.findAll text, m.span.start = Utf8.size u ∧
      Covers text m.span (Utf8.size u) (Utf8.size (u ++ (k.word ++ gap))) := by
  obtain ⟨stem, blanks, m, hword, hblanks, hm, hstop⟩ := k.exists_match hgap hblank hedge
  have hstart : m.span.start = Utf8.size u := start_of_matchAt? hm
  have hne : m.span.start < m.span.stop := by
    obtain ⟨d, hway, hspan⟩ := way_of_matchAt? hm
    obtain ⟨-, -, k', hread⟩ := exists_clock_of_atTime hway
    rw [hspan]
    exact hread.offset_lt (by simp [Clock.word, Clock.lead])
  -- The preferred match is found, since no other one is in its way.
  have hfound : m ∈ atTimeRule.pattern.findAll text := by
    refine (mem_findAll_or_overlapped ht hm hne).resolve_right ?_
    rw [List.append_assoc] at ht
    exact not_overlapped ht
  refine ⟨m, hfound, hstart, fun u' ch v' ht' hle hlt hch => ⟨hstart ▸ hle, ?_⟩⟩
  refine Nat.le_trans ?_ hstop
  have hparts : u' ++ ch :: v' = (u ++ stem) ++ (blanks ++ v) := by
    rw [← ht', ht, hword]
    simp
  have hbefore : Utf8.size u' < Utf8.size (u ++ stem) := by
    by_contra hge
    obtain ⟨w, rfl, hrest⟩ :=
      Utf8.exists_of_append_eq_append hparts.symm (Nat.le_of_not_lt hge)
    have hsize : Utf8.size w < Utf8.size blanks := by
      rw [hword] at hlt
      simp only [Utf8.size_append] at hlt
      omega
    -- What comes after the match is blank, and the character is not.
    obtain ⟨w', rfl⟩ := Utf8.exists_of_append_cons_eq_append hrest.symm hsize
    have hmem : blankSet.mem ch = true := hblanks ch (by simp)
    rw [Blank.isBlank] at hch
    exact absurd hmem (Bool.eq_false_iff.mp hch)
  obtain ⟨w, hstem⟩ := Utf8.exists_of_append_cons_eq_append hparts hbefore
  rw [hstem, List.append_cons u' ch w, Utf8.size_append (u' ++ [ch]) w]
  exact Nat.le_add_right _ _

/-- **No time of day ends where a code follows directly**, so that none holds what stands before. -/
theorem not_covers {k : Clock} (ht : text.toList = u ++ (k.word ++ v))
    (hlast : k.half ≠ [] ∨ k.gap = []) (hzone : isZoneStart v = true)
    (h : m ∈ atTimeRule.pattern.findAll text) (hstart : m.span.start = Utf8.size u) :
    ¬ Covers text m.span (Utf8.size u) (Utf8.size (u ++ k.word)) := by
  intro hcovers
  obtain ⟨u', v', k', d, ht', hspan, hread', hstop⟩ := exists_clock_of_mem_findAll h
  rw [hspan] at hstart
  -- Both times of day start at the same place.
  obtain rfl : u' = u := Utf8.eq_of_append_eq_append (ht'.symm.trans ht) hstart
  obtain rfl : v' = k.word ++ v := List.append_cancel_left (ht'.symm.trans ht)
  have hlt : d.offset < Utf8.size (u' ++ k.word) :=
    Clock.stop_lt_of_zoneStart (reads_between u' k.word v) hlast hzone hread' hstop
  -- The last character before the code is not blank, and would have to be held.
  obtain ⟨w, ch, hw, hch⟩ := k.exists_last_isWord hlast
  have hnot : Blank.isBlank ch = false := by
    by_contra hblank
    rw [Word.isWord_of_isBlank (Bool.not_eq_false _ ▸ hblank)] at hch
    cases hch
  have hpos := Utf8.size_pos (List.cons_ne_nil ch [])
  have hheld := (hcovers (u' ++ w) ch v (by simp [ht, hw]) (by simp [Utf8.size_append])
    (by rw [hw]; simp only [Utf8.size_append]; omega) hnot).2
  rw [hw, ← List.append_assoc] at hlt
  rw [hspan] at hheld
  exact absurd hheld (Nat.not_le_of_lt hlt)

/-- **A zone has its time of day** just if a blank stands before the code. -/
theorem exists_covers_iff (h : m ∈ timezoneRule.pattern.findAll text) :
    ∃ code, m.group? 1 = some code ∧
      ((∃ m' ∈ atTimeRule.pattern.findAll text, m'.span.start = m.span.start ∧
          Covers text m'.span m.span.start code.start) ↔ BlankBefore text code.start) := by
  obtain ⟨u, v, ht, hm⟩ := exists_place_of_mem_findAll h
  obtain ⟨d, hway, hspan⟩ := way_of_matchAt? hm
  obtain ⟨hedge, k, gap, e, stop, hgap, hread, hzone, hgroup⟩ := exists_clock_of_timezone hway
  have hv : v = k.word ++ gap ++ e.rest := hread.rest_eq
  subst hv
  have hstart : m.span.start = Utf8.size u := start_of_matchAt? hm
  have hcode : e.offset = Utf8.size (u ++ (k.word ++ gap)) := by
    rw [hread.offset_eq, Utf8.size_append u]
    rfl
  refine ⟨⟨e.offset, stop⟩, hgroup, ?_⟩
  rw [hstart, hcode, blankBefore_code_iff hgap (by rw [ht, List.append_assoc u])]
  constructor
  · rintro ⟨m', hm', hstart', hcovers⟩
    -- With no blank, the code follows a digit or the half of the day directly.
    by_contra hblank
    obtain ⟨hnil, hhalf⟩ := not_or.mp hblank
    obtain rfl : gap = [] := not_not.mp hnil
    rw [List.append_nil] at ht hcovers
    have hlast : k.half ≠ [] ∨ k.gap = [] := by
      by_cases hnil : k.half = []
      · exact Or.inr (not_not.mp fun hne => hhalf ⟨hnil, hne⟩)
      · exact Or.inl hnil
    exact not_covers ht hlast hzone hm' hstart' hcovers
  · exact exists_covers hgap ht hedge

/-! ## In a run -/

/-- Where zones are looked for, so are times of day. -/
theorem skip?_atTimeRule {there : Features} (h : timezoneRule.skip? there = none) :
    atTimeRule.skip? there = none := by
  obtain ⟨digits, monthish, uppercase⟩ := there
  cases digits with
  | false => cases h
  | true => rfl

/-- Where zones are looked for, the spans recorded for times of day are those of all matches. -/
theorem mem_spans_atTime_iff {context : Context} {tally : Tally} {passes : List Pass} {s : Span}
    (h : catalogRead.trace context .all text = .ok (tally, passes))
    (hskip : timezoneRule.skip? (Features.scan text) = none) :
    (∃ times ∈ passes, times.rule = "at time" ∧ s ∈ times.spans) ↔
      ∃ m ∈ atTimeRule.pattern.findAll text, m.span = s := by
  rw [Catalog.mem_spans_iff_of_trace h]
  constructor
  · rintro ⟨call, hcall, hname, rfl⟩
    have hrule : call.rule = atTimeRule :=
      eq_of_name_eq (List.mem_of_getElem? (Catalog.mem_calls_iff.mp hcall).1)
        (by simp [catalogRead]) hname
    have hfound := Catalog.mem_findAll_of_mem_calls hcall
    rw [hrule] at hfound
    exact ⟨call.found, hfound, rfl⟩
  · rintro ⟨m, hm, rfl⟩
    exact ⟨⟨3, atTimeRule, m⟩,
      Catalog.mem_calls_iff.mpr ⟨rfl, skip?_atTimeRule hskip, hm⟩, rfl, rfl⟩

/-- **A recorded zone has its time of day** among the recorded ones just if a blank stands before
its code: one that starts where it does and holds, but for blanks, all that comes before the code. -/
theorem zone_on_clock_iff (context : Context) (text : String) : ∃ c, catalog = .ok c ∧
    ∀ tally passes, c.trace context .all text = .ok (tally, passes) →
      ∀ zones ∈ passes, zones.rule = "timezone" → ∀ s ∈ zones.spans,
        ∃ call ∈ c.calls .all text, call.rule.name = "timezone" ∧ call.found.span = s ∧
          ∃ index code, call.rule.pattern.names.lookup "tz" = some index ∧
            call.found.group? index = some code ∧
            ((∃ times ∈ passes, times.rule = "at time" ∧ ∃ s' ∈ times.spans,
                s'.start = s.start ∧ Covers text s' s.start code.start) ↔
              BlankBefore text code.start) := by
  refine ⟨catalogRead, catalog_eq, fun tally passes h zones hzones hname s hs => ?_⟩
  obtain ⟨call, hcall, hcallName, rfl⟩ :=
    (Catalog.mem_spans_iff_of_trace h).mp ⟨zones, hzones, hname, hs⟩
  obtain ⟨hplace, hskip, -⟩ := Catalog.mem_calls_iff.mp hcall
  have hrule : call.rule = timezoneRule :=
    eq_of_name_eq (List.mem_of_getElem? hplace) (by simp [catalogRead]) hcallName
  have hfound := Catalog.mem_findAll_of_mem_calls hcall
  rw [hrule] at hskip hfound
  obtain ⟨code, hgroup, hiff⟩ := exists_covers_iff hfound
  refine ⟨call, hcall, hcallName, rfl, 1, code, by rw [hrule]; rfl, hgroup, ?_⟩
  rw [← hiff]
  constructor
  · rintro ⟨times, htimes, htimesName, s', hs', hstart, hcovers⟩
    obtain ⟨m, hm, rfl⟩ := (mem_spans_atTime_iff h hskip).mp ⟨times, htimes, htimesName, hs'⟩
    exact ⟨m, hm, hstart, hcovers⟩
  · rintro ⟨m, hm, hstart, hcovers⟩
    obtain ⟨times, htimes, htimesName, hs'⟩ := (mem_spans_atTime_iff h hskip).mpr ⟨m, hm, rfl⟩
    exact ⟨times, htimes, htimesName, m.span, hs', hstart, hcovers⟩

/-- In "at 3PST" the code follows the hour directly, and no time of day is recorded for the zone. -/
theorem zone_without_clock : ∃ c tally passes, catalog = .ok c ∧
    c.trace halfPastFour .all "at 3PST" = .ok (tally, passes) ∧
      ∃ zones ∈ passes, zones.rule = "timezone" ∧ ⟨0, 7⟩ ∈ zones.spans ∧
        ¬ ∃ times ∈ passes, times.rule = "at time" ∧ ∃ s' ∈ times.spans,
          s'.start = 0 ∧ Covers "at 3PST" s' 0 4 := by
  obtain ⟨c, hc, h⟩ := zone_on_clock_iff halfPastFour "at 3PST"
  obtain rfl := catalogRead_eq hc
  obtain ⟨tally, passes, htrace⟩ : ∃ tally passes,
      catalogRead.trace halfPastFour .all "at 3PST" = .ok (tally, passes) :=
    Catalog.exists_trace_of_isOk (by decide +kernel)
  have hcall : ⟨7, timezoneRule, ⟨⟨0, 7⟩, [(1, ⟨4, 7⟩)]⟩⟩ ∈ catalogRead.calls .all "at 3PST" :=
    Catalog.mem_calls_iff.mpr ⟨rfl, by decide +kernel, by decide +kernel⟩
  obtain ⟨zones, hzones, hname, hs⟩ :=
    (Catalog.mem_spans_iff_of_trace htrace).mpr ⟨_, hcall, rfl, rfl⟩
  refine ⟨catalogRead, tally, passes, hc, htrace, zones, hzones, hname, hs, ?_⟩
  obtain ⟨call, hcall', hname', -, index, code, hindex, hcode, hiff⟩ :=
    h _ _ htrace zones hzones hname _ hs
  have hrule : call.rule = timezoneRule :=
    eq_of_name_eq (List.mem_of_getElem? (Catalog.mem_calls_iff.mp hcall').1)
      (by simp [catalogRead]) hname'
  have hfound := Catalog.mem_findAll_of_mem_calls hcall'
  have hall : timezoneRule.pattern.findAll "at 3PST" = [⟨⟨0, 7⟩, [(1, ⟨4, 7⟩)]⟩] := by
    decide +kernel
  rw [hrule, hall] at hfound
  rw [hrule] at hindex
  obtain rfl : 1 = index := Option.some.inj hindex
  rw [List.mem_singleton.mp hfound] at hcode
  obtain rfl : ⟨4, 7⟩ = code := Option.some.inj hcode
  -- What stands before the code is a digit and no blank.
  have htext : "at 3PST".toList = ['a', 't', ' '] ++ ['3'] ++ ['P', 'S', 'T'] := by simp
  rw [hiff, ← show Utf8.size (['a', 't', ' '] ++ ['3']) = 4 from rfl, blankBefore_iff htext]
  decide

end Timephrase.English
