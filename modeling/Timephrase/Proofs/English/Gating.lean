import Timephrase.Proofs.English.Amount
import Timephrase.Proofs.English.Failing
import Timephrase.Proofs.Run.Gate

/-!
# Gates of the English catalog

The rules of the English catalog ask for features that their matches need, with one exception.  The
rules for lengths of time and for shifts ask for a digit, but their amounts may be written without
one.  In a text without digits such a phrase makes the run fail if the rule is not passed over.

## Main results

* `English.hasMonthStart_of_date`, `English.hasDigit_of_needs`, `English.hasUpper_of_timezone`: what
  the matches need
* `English.gating_matters_iff`: when the gates make a difference
-/

namespace Timephrase.English

open Pattern Pattern.Node

variable {context : Context} {mode : MatchMode} {text : String}

/-! ## Months -/

/-- A text in which the first letters of a month stand has them. -/
theorem hasMonthStart_append {u v w : List Char} (h : v.map Char.toLower ∈ Features.monthStarts) :
    Features.hasMonthStart (u ++ v ++ w) = true := by
  have hlength : v.length = 3 := by
    have hall : ∀ start ∈ Features.monthStarts, start.length = 3 := by decide
    rw [← hall _ h, List.length_map]
  induction u with
  | nil =>
    cases v with
    | nil => cases hlength
    | cons ch v =>
      have htake : (ch :: (v ++ w)).take 3 = ch :: v := by
        rw [← List.cons_append, ← hlength, List.take_left]
      rw [List.nil_append, List.cons_append, Features.hasMonthStart, htake,
        List.contains_iff_mem.mpr h, Bool.true_or]
  | cons ch u ih =>
    rw [List.cons_append, List.cons_append, Features.hasMonthStart, ih, Bool.or_true]

theorem toLower_of_mem_asciiLetterSet {c ch : Char} (hc : c.isLower = true)
    (h : (asciiLetterSet c).mem ch = true) : ch.toLower = c := by
  have hall : ∀ i < 26, (asciiLetterSet (.ofNat (97 + i))).ranges.list =
      [(65 + i, 65 + i), (97 + i, 97 + i)] ∧
        (Char.ofNat (65 + i)).toLower = .ofNat (97 + i) ∧
          (Char.ofNat (97 + i)).toLower = .ofNat (97 + i) := by
    decide
  obtain ⟨hlow, hhigh⟩ := Ascii.isLower_iff.mp hc
  -- The letter is the `i`-th one, and there are two characters in its set.
  obtain ⟨i, hi⟩ := Nat.exists_eq_add_of_le hlow
  obtain rfl : Char.ofNat (97 + i) = c := by
    rw [← Char.ofNat_toNat c]
    exact congrArg Char.ofNat hi.symm
  obtain ⟨hranges, hupper, hlower⟩ := hall i (by omega)
  rw [CharSet.mem, Ranges.contains, hranges] at h
  simp only [List.any_cons, List.any_nil, Bool.or_false, Bool.or_eq_true, Bool.and_eq_true,
    decide_eq_true_eq] at h
  rw [← Char.ofNat_toNat ch]
  rcases h with h | h
  · rw [show ch.toNat = 65 + i by omega]
    exact hupper
  · rw [show ch.toNat = 97 + i by omega]
    exact hlower

/-- The name of a month starts with its first letters. -/
theorem monthNodes_start : ∀ node ∈ monthNodes, ∃ start ∈ Features.monthStarts, ∃ nodes,
    (∀ c ∈ start, c.isLower = true) ∧
      node = ofItems (start.map (fun c => .set (asciiLetterSet c)) ++ nodes) := by
  have hlower : ∀ start ∈ Features.monthStarts, ∀ c ∈ start, c.isLower = true := by
    simp [Features.monthStarts]
  have hitems : ∀ node ∈ monthNodes, ofItems node.items = node ∧
      ∃ start ∈ Features.monthStarts,
        node.items.take 3 = start.map fun c => .set (asciiLetterSet c) := by
    decide
  intro node hnode
  obtain ⟨hnode, start, hstart, htake⟩ := hitems node hnode
  refine ⟨start, hstart, node.items.drop 3, hlower start hstart, ?_⟩
  rw [← htake, List.take_append_drop, hnode]

/-- Letters in a row read a word in some case. -/
theorem exists_of_row_asciiLetters {cs : List Char} {nodes : List Node} {c d : Cursor}
    {gs : List (Nat × Span)} (hcs : ∀ c ∈ cs, c.isLower = true)
    (h : Row (cs.map (fun c => .set (asciiLetterSet c)) ++ nodes) c d gs) :
    ∃ v w, v.map Char.toLower = cs ∧ c.Reads (v ++ w) d := by
  induction cs generalizing c gs with
  | nil =>
    obtain ⟨w, hw⟩ := h.exists_reads
    exact ⟨[], w, rfl, hw⟩
  | cons a cs ih =>
    obtain ⟨e, hs, ks, ⟨ch, hch, hread, -⟩, hrest, -⟩ := h
    obtain ⟨v, w, hv, hw⟩ := ih (fun c hc => hcs c (List.mem_cons_of_mem _ hc)) hrest
    refine ⟨ch :: v, w, ?_, hread.trans hw⟩
    rw [List.map_cons, hv, toLower_of_mem_asciiLetterSet (hcs a List.mem_cons_self) hch]

/-- **A text with a date has the first letters of a month.** -/
theorem hasMonthStart_of_date (h : dateRule.pattern.findAll text ≠ []) :
    Features.hasMonthStart text.toList = true := by
  obtain ⟨m, hm⟩ := List.exists_mem_of_ne_nil _ h
  obtain ⟨u, v, ht, hm⟩ := exists_place_of_mem_findAll hm
  obtain ⟨d, hd, -⟩ := way_of_matchAt? hm
  have hrow : Row ([asciiEdge, optional (asciiLetters "on" ++ [optionalSet asciiBlankSet]),
      optional [.group 1 (oneOrTwo asciiDigitSet), optionalSet asciiBlankSet]] ++
        .group 2 (ofBranches monthNodes) :: _) (.between u v) d m.groups := way_ofItems.mp hd
  -- Before the month stand what may be left out and the edge of a word, which say nothing about it.
  obtain ⟨e, hs, ks, hbefore, ⟨e', ks', ls, ⟨gs, hmonth, -⟩, hafter, -⟩, -⟩ := row_append.mp hrow
  obtain ⟨node, hnode, hway⟩ := way_ofBranches.mp hmonth
  obtain ⟨start, hstart, nodes, hlower, rfl⟩ := monthNodes_start node hnode
  obtain ⟨name, w, hname, hw⟩ := exists_of_row_asciiLetters hlower (way_ofItems.mp hway)
  obtain ⟨w₀, hw₀⟩ := hbefore.exists_reads
  have hv : v = w₀ ++ (name ++ w ++ e'.rest) := by
    have hv : v = w₀ ++ e.rest := hw₀.rest_eq
    rw [hv, hw.rest_eq]
  have htext : text.toList = (u ++ w₀) ++ name ++ (w ++ e'.rest) := by
    rw [ht, hv]
    simp
  rw [htext]
  exact hasMonthStart_append (hname ▸ hstart)

/-! ## Digits and capitals -/

/-- Whether a text has a digit. -/
def hasDigit (text : String) : Bool := text.toList.any Char.isDigit

theorem hasDigit_of_needs {p : Pattern} (hneeds : p.node.needs (CharSet.within 0x30 0x39) = true)
    (h : p.findAll text ≠ []) : hasDigit text = true := by
  obtain ⟨ch, hch, s, hs, hmem⟩ := exists_mem_of_needs hneeds h
  exact List.any_eq_true.mpr
    ⟨ch, hch, Ascii.isDigit_iff.mpr (CharSet.toNat_of_within hs hmem)⟩

theorem hasDigit_of_atTime (h : atTimeRule.pattern.findAll text ≠ []) : hasDigit text = true :=
  hasDigit_of_needs (by decide) h

theorem hasDigit_of_timezone (h : timezoneRule.pattern.findAll text ≠ []) :
    hasDigit text = true :=
  hasDigit_of_needs (by decide) h

theorem hasUpper_of_timezone (h : timezoneRule.pattern.findAll text ≠ []) :
    text.toList.any Char.isUpper = true := by
  have hneeds : timezoneRule.pattern.node.needs (CharSet.within 0x41 0x5A) = true := by decide
  obtain ⟨ch, hch, s, hs, hmem⟩ := exists_mem_of_needs hneeds h
  exact List.any_eq_true.mpr
    ⟨ch, hch, Ascii.isUpper_iff.mpr (CharSet.toNat_of_within hs hmem)⟩

/-! ## Rules whose gates make no difference -/

theorem includes_digits : (Features.scan text).includes { Features.none with digits := true } =
    hasDigit text := by
  simp [Features.includes, Features.none, Features.scan, hasDigit]

/-- A text in which a rule has a match has the features that the rule asks for, unless it is one of
the rules with an amount and the text has no digit. -/
theorem includes_of_findAll {rule : Rule} (hrule : rule ∈ catalogRead.rules)
    (hdigit : hasDigit text = true ∨ rule.name ≠ "duration" ∧ rule.name ≠ "in offset")
    (h : rule.pattern.findAll text ≠ []) :
    (Features.scan text).includes rule.features = true := by
  rcases mem_rules_iff.mp hrule with rfl | rfl | rfl | rfl | rfl | rfl | rfl | rfl
  · rfl
  · rfl
  · rfl
  · exact includes_digits.trans (hasDigit_of_atTime h)
  · rcases hdigit with hdigit | ⟨hname, -⟩
    · exact includes_digits.trans hdigit
    · exact absurd rfl hname
  · have hmonth := hasMonthStart_of_date h
    simp [Features.includes, dateRule, Features.none, Features.scan, hmonth]
  · rcases hdigit with hdigit | ⟨-, hname⟩
    · exact includes_digits.trans hdigit
    · exact absurd rfl hname
  · have hdigit : text.toList.any Char.isDigit = true := hasDigit_of_timezone h
    have hupper := hasUpper_of_timezone h
    simp [Features.includes, timezoneRule, Features.none, Features.scan, hdigit, hupper]

theorem enabled_of_mem_rules : ∀ rule ∈ catalogRead.rules, rule.enabled = true := by
  decide

/-- The gate of a rule makes no difference, unless it is one of the rules with an amount and has a
match in a text without digits. -/
theorem pass_ungated_of_mem_rules {rule : Rule} (hrule : rule ∈ catalogRead.rules)
    (hdigit : hasDigit text = true ∨ rule.pattern.findAll text = [] ∨
      rule.name ≠ "duration" ∧ rule.name ≠ "in offset") :
    rule.ungated.pass context mode text = rule.pass context mode text := by
  refine Rule.pass_ungated (enabled_of_mem_rules rule hrule) fun hincludes => ?_
  by_contra h
  have htrue : (Features.scan text).includes rule.features = true := by
    rcases hdigit with hdigit | hnone | hname
    · exact includes_of_findAll hrule (Or.inl hdigit) h
    · exact absurd hnone h
    · exact includes_of_findAll hrule (Or.inr hname) h
  rw [htrue] at hincludes
  cases hincludes

/-! ## Rules with an amount in a text without digits -/

theorem noDigit_of_hasDigit_eq_false (h : hasDigit text = false) :
    ∀ ch ∈ text.toList, ch.isDigit = false := by
  intro ch hch
  exact Bool.eq_false_iff.mpr (List.any_eq_false.mp h ch hch)

/-- A rule that cannot go on without its amount fails on its first match in a text without
digits. -/
theorem exists_pass_eq_error_of_amount {rule : Rule} {source word : String} {units : List Node}
    (hpattern : rule.pattern = lengthPattern source word units) (henabled : rule.enabled = true)
    (hunits : ∀ node ∈ units, node.indices = [])
    (happly : ∀ tally m failure, amount (.ofMatch rule.name rule.pattern text m) = .error failure →
      Tally.apply context text rule tally m = .error failure)
    (hdigit : hasDigit text = false) (h : rule.pattern.findAll text ≠ []) (tally : Tally) :
    ∃ failure, IsCaptureOf rule.name failure ∧
      rule.ungated.pass context mode text tally = .error failure := by
  rw [Rule.pass_ungated_eq_run henabled]
  refine Rule.exists_run_eq_error h (fun m hm tally => ?_) tally
  rw [hpattern] at hm
  obtain ⟨value, hvalue⟩ := amount_eq_error_of_noDigits rule.name hunits
    (noDigit_of_hasDigit_eq_false hdigit) hm
  refine ⟨_, ⟨"amount", value, .number .invalidFloat, rfl⟩, happly tally m _ ?_⟩
  rw [hpattern]
  exact hvalue

theorem duration_fails (hdigit : hasDigit text = false) (h : durationRule.pattern.findAll text ≠ [])
    (tally : Tally) : ∃ failure, IsCaptureOf "duration" failure ∧
      durationRule.ungated.pass context mode text tally = .error failure := by
  have hunits : ∀ node ∈ fixedUnits, node.indices = [] :=
    fun node hnode => indices_units node (List.mem_append_left _ hnode)
  refine exists_pass_eq_error_of_amount rfl rfl hunits (fun tally m failure hamount => ?_) hdigit h
    tally
  have hmeaning : lengthAdded tally.duration (.ofMatch "duration" durationRule.pattern text m) =
      .error failure := by
    rw [lengthAdded]
    exact congrArg (· >>= _) hamount
  exact congrArg (Except.map _) hmeaning

theorem inOffset_fails (hdigit : hasDigit text = false) (h : inOffsetRule.pattern.findAll text ≠ [])
    (tally : Tally) : ∃ failure, IsCaptureOf "in offset" failure ∧
      inOffsetRule.ungated.pass context mode text tally = .error failure := by
  refine exists_pass_eq_error_of_amount rfl rfl indices_units (fun tally m failure hamount => ?_)
    hdigit h tally
  have hmeaning : shifted tally.time (.ofMatch "in offset" inOffsetRule.pattern text m) =
      .error failure := by
    rw [shifted]
    exact congrArg (· >>= _) hamount
  exact congrArg (Except.map _) hmeaning

/-- The rule for dates does not fail as if it were another rule. -/
theorem not_isCaptureOf_of_date {name : String} (hname : name ≠ "date") {tally : Tally}
    {failure : Failure} (h : dateRule.pass context mode text tally = .error failure) :
    ¬ IsCaptureOf name failure := by
  have hdate : IsCaptureOf "date" failure ∨ failure = .outOfRange "date" := by
    refine Rule.failure_of_pass (P := fun failure => IsCaptureOf "date" failure ∨
      failure = .outOfRange "date") (fun m tally failure hm => ?_) h
    exact (failsAs_calendarDate tally.time).map failure hm
  rintro ⟨group, value, fault, rfl⟩
  rcases hdate with ⟨group', value', fault', heq⟩ | heq
  · exact hname (Failure.capture.inj heq).1
  · cases heq

/-! ## When the gates matter -/

/-- In a text without digits the rules that ask for one are passed over. -/
theorem pass_eq_ok_of_noDigit {rule : Rule} (hrule : rule.features.digits = true)
    (hdigit : hasDigit text = false) (tally : Tally) :
    rule.pass context mode text tally = .ok tally := by
  refine Rule.pass_of_not_includes ?_ tally
  have hnone : (Features.scan text).digits = false := hdigit
  rw [Features.includes, hrule, hnone]
  rfl

/-- The gate of the rule for lengths of time matters if it has a match in a text without digits and
the rules before it succeed. -/
theorem run_ungated_eq_iff_of_duration (hdigit : hasDigit text = false)
    (h : durationRule.pattern.findAll text ≠ []) :
    catalogRead.ungated.run context mode text = catalogRead.run context mode text ↔
      ¬ ∃ tally, (⟨catalogRead.rules.take 4⟩ : Catalog).run context mode text = .ok tally := by
  have hplace : catalogRead.rules[4]? = some durationRule := rfl
  refine Catalog.run_ungated_eq_iff hplace ?_ (includes_digits.trans hdigit)
    (duration_fails hdigit h) ?_
  · intro rule hrule
    refine pass_ungated_of_mem_rules (List.mem_of_mem_take hrule) (Or.inr (Or.inr ?_))
    have hnames : ∀ rule ∈ catalogRead.rules.take 4,
        rule.name ≠ "duration" ∧ rule.name ≠ "in offset" := by decide
    exact hnames rule hrule
  -- Of the later rules only the one for dates is not passed over.
  · intro rule hrule tally failure hpass
    have hrule : rule ∈ [dateRule, inOffsetRule, timezoneRule] := hrule
    simp only [List.mem_cons, List.not_mem_nil, or_false] at hrule
    rcases hrule with rfl | rfl | rfl
    · exact not_isCaptureOf_of_date (by decide) hpass
    · rw [pass_eq_ok_of_noDigit rfl hdigit] at hpass
      cases hpass
    · rw [pass_eq_ok_of_noDigit rfl hdigit] at hpass
      cases hpass

/-- The gate of the rule for shifts matters if it has a match in a text without digits, the rule for
lengths of time has none, and the rules before it succeed. -/
theorem run_ungated_eq_iff_of_inOffset (hdigit : hasDigit text = false)
    (hduration : durationRule.pattern.findAll text = [])
    (h : inOffsetRule.pattern.findAll text ≠ []) :
    catalogRead.ungated.run context mode text = catalogRead.run context mode text ↔
      ¬ ∃ tally, (⟨catalogRead.rules.take 6⟩ : Catalog).run context mode text = .ok tally := by
  have hplace : catalogRead.rules[6]? = some inOffsetRule := rfl
  refine Catalog.run_ungated_eq_iff hplace ?_ (includes_digits.trans hdigit)
    (inOffset_fails hdigit h) ?_
  · intro rule hrule
    refine pass_ungated_of_mem_rules (List.mem_of_mem_take hrule) (Or.inr ?_)
    have hrule : rule ∈
        [yesterdayRule, tomorrowRule, todayRule, atTimeRule, durationRule, dateRule] := hrule
    simp only [List.mem_cons, List.not_mem_nil, or_false] at hrule
    rcases hrule with rfl | rfl | rfl | rfl | rfl | rfl
    · exact Or.inr (by decide)
    · exact Or.inr (by decide)
    · exact Or.inr (by decide)
    · exact Or.inr (by decide)
    · exact Or.inl hduration
    · exact Or.inr (by decide)
  · intro rule hrule tally failure hpass
    obtain rfl : rule = timezoneRule := List.mem_singleton.mp hrule
    rw [pass_eq_ok_of_noDigit rfl hdigit] at hpass
    cases hpass

/-- The rules with an amount stand at the fifth and at the seventh place. -/
theorem place_of_amount {place : Nat} {rule : Rule} (h : catalogRead.rules[place]? = some rule)
    (hname : rule.name = "duration" ∨ rule.name = "in offset") :
    place = 4 ∧ rule = durationRule ∨ place = 6 ∧ rule = inOffsetRule := by
  have hnames : rule?.names[place]? = some rule.name := by
    have hmap : rule?.names = catalogRead.rules.map fun rule => rule.name := rfl
    rw [hmap, List.getElem?_map, h]
    rfl
  have hlt : place < 8 := (List.getElem?_eq_some_iff.mp h).1
  have hplaces : ∀ place < 8, (rule?.names[place]? = some "duration" → place = 4) ∧
      (rule?.names[place]? = some "in offset" → place = 6) := by
    decide
  rcases hname with hname | hname
  · rw [hname] at hnames
    obtain rfl := (hplaces place hlt).1 hnames
    exact Or.inl ⟨rfl, (Option.some.inj h).symm⟩
  · rw [hname] at hnames
    obtain rfl := (hplaces place hlt).2 hnames
    exact Or.inr ⟨rfl, (Option.some.inj h).symm⟩

/-- What is said of a rule with an amount that has a match is said of one of two. -/
theorem exists_amount_iff {P : Nat → Prop} :
    (∃ place rule, catalogRead.rules[place]? = some rule ∧
      (rule.name = "duration" ∨ rule.name = "in offset") ∧ rule.pattern.findAll text ≠ [] ∧
      P place) ↔
      durationRule.pattern.findAll text ≠ [] ∧ P 4 ∨
        inOffsetRule.pattern.findAll text ≠ [] ∧ P 6 := by
  constructor
  · rintro ⟨place, rule, hrule, hname, hmatch, h⟩
    rcases place_of_amount hrule hname with ⟨rfl, rfl⟩ | ⟨rfl, rfl⟩
    · exact Or.inl ⟨hmatch, h⟩
    · exact Or.inr ⟨hmatch, h⟩
  · rintro (⟨hmatch, h⟩ | ⟨hmatch, h⟩)
    · exact ⟨4, durationRule, rfl, Or.inl rfl, hmatch, h⟩
    · exact ⟨6, inOffsetRule, rfl, Or.inr rfl, hmatch, h⟩

/-- Without matches of the two rules with an amount no gate matters. -/
theorem run_ungated_of_no_amount (hduration : durationRule.pattern.findAll text = [])
    (hinOffset : inOffsetRule.pattern.findAll text = []) :
    catalogRead.ungated.run context mode text = catalogRead.run context mode text := by
  refine Catalog.run_ungated fun rule hrule => pass_ungated_of_mem_rules hrule (Or.inr ?_)
  by_cases hname : rule.name = "duration" ∨ rule.name = "in offset"
  · obtain ⟨place, hplace⟩ := List.getElem?_of_mem hrule
    rcases place_of_amount hplace hname with ⟨-, rfl⟩ | ⟨-, rfl⟩
    · exact Or.inl hduration
    · exact Or.inl hinOffset
  · exact Or.inr (not_or.mp hname)

/-- **The gates of the catalog make a difference** just if the text has no digit, one of the rules
with an amount has a match in it all the same, and no rule before that one fails. -/
theorem gating_matters_iff (context : Context) (mode : MatchMode) (text : String) :
    ∃ c, catalog = .ok c ∧
      ((⟨c, mode⟩ : Parser).parse context text = (⟨c.ungated, mode⟩ : Parser).parse context text ↔
        ¬ ((∀ ch ∈ text.toList, ch.isDigit = false) ∧ ∃ place rule, c.rules[place]? = some rule ∧
          (rule.name = "duration" ∨ rule.name = "in offset") ∧ rule.pattern.findAll text ≠ [] ∧
          ∃ tally, (⟨c.rules.take place⟩ : Catalog).run context mode text = .ok tally)) := by
  refine ⟨catalogRead, catalog_eq, ?_⟩
  rw [Parser.parse_eq_iff, eq_comm]
  cases hdigit : hasDigit text with
  | true =>
    refine iff_of_true (Catalog.run_ungated fun rule hrule =>
      pass_ungated_of_mem_rules hrule (Or.inl hdigit)) ?_
    rintro ⟨hnone, -⟩
    obtain ⟨ch, hch, hdigit⟩ := List.any_eq_true.mp hdigit
    rw [hnone ch hch] at hdigit
    cases hdigit
  | false =>
    rw [and_iff_right (noDigit_of_hasDigit_eq_false hdigit), exists_amount_iff]
    -- The first of the two rules that has a match decides.
    by_cases hduration : durationRule.pattern.findAll text = []
    · by_cases hinOffset : inOffsetRule.pattern.findAll text = []
      · refine iff_of_true (run_ungated_of_no_amount hduration hinOffset) ?_
        rintro (⟨hmatch, -⟩ | ⟨hmatch, -⟩)
        · exact hmatch hduration
        · exact hmatch hinOffset
      · rw [run_ungated_eq_iff_of_inOffset hdigit hduration hinOffset]
        refine not_congr ⟨fun h => Or.inr ⟨hinOffset, h⟩, ?_⟩
        rintro (⟨hmatch, -⟩ | ⟨-, h⟩)
        · exact absurd hduration hmatch
        · exact h
    · rw [run_ungated_eq_iff_of_duration hdigit hduration]
      refine not_congr ⟨fun h => Or.inl ⟨hduration, h⟩, ?_⟩
      rintro (⟨-, h⟩ | ⟨-, tally, h⟩)
      · exact h
      · exact Catalog.exists_run_take_eq_ok (by decide) h

/-- In "for . s" the point is an amount without a digit, so that the run fails if the rule for
lengths of time is not passed over. -/
theorem gates_matter_for_point : ∃ c, catalog = .ok c ∧
    (⟨c, .all⟩ : Parser).parse halfPastFour "for . s" ≠
      (⟨c.ungated, .all⟩ : Parser).parse halfPastFour "for . s" := by
  obtain ⟨c, hc, h⟩ := gating_matters_iff halfPastFour .all "for . s"
  obtain rfl := catalogRead_eq hc
  have hrun :
      ((⟨catalogRead.rules.take 4⟩ : Catalog).run halfPastFour .all "for . s").isOk = true := by
    decide
  refine ⟨catalogRead, hc, fun heq => h.mp heq ⟨?_, ?_⟩⟩
  · have hnone : hasDigit "for . s" = false := by decide
    exact noDigit_of_hasDigit_eq_false hnone
  · exact ⟨4, durationRule, rfl, Or.inl rfl, by decide, exists_of_isOk hrun⟩

end Timephrase.English
