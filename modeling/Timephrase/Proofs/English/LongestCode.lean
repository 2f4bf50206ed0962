import Timephrase.Proofs.English.Gating
import Timephrase.Proofs.English.ZoneCode
import Timephrase.Proofs.Pattern.Group
import Timephrase.Proofs.Pattern.Preference
import Timephrase.Proofs.Pattern.Yield

/-!
# The longest code of a zone

Some codes start with others: after `GMT` there may be hours to add, of one digit or of two.  The
pattern for zones tries longer codes first, and takes the first one that an edge of a word follows.
So it takes the longest code that stands there as a word of its own.

## Main definitions

* `English.EdgeAfter`: an edge of a word stands after some characters

## Main results

* `ZoneCode.pairwise_ordered`: longer codes are tried first
* `English.first_exactly_eq_some_iff`: characters that stand for themselves are read or fail
* `English.exists_longest_code`: the code that is found, and the codes that are not
* `English.zone_code_is_longest`: what is captured as a code, and how the rule for zones fails
-/

namespace Timephrase

/-! ## The order of the codes -/

namespace ZoneCode

variable {a b : String} {codes : List String}

theorem mem_insert_iff : b ∈ insert a codes ↔ b = a ∨ b ∈ codes := by
  induction codes with
  | nil => simp [insert]
  | cons c codes ih =>
    rw [insert]
    split
    · exact List.mem_cons
    · rw [List.mem_cons, ih, List.mem_cons, or_left_comm]

/-- Every code is tried. -/
theorem mem_ordered_iff : b ∈ ordered ↔ b ∈ ZoneCode.codes := by
  rw [ordered]
  induction ZoneCode.codes with
  | nil => rfl
  | cons c codes ih => rw [List.foldr_cons, mem_insert_iff, ih, List.mem_cons]

theorem length_le_of_precedes (h : precedes a b = true) : b.length ≤ a.length := by
  simp only [precedes, Bool.or_eq_true, Bool.and_eq_true, decide_eq_true_eq, beq_iff_eq] at h
  omega

theorem length_le_of_not_precedes (h : ¬ precedes a b = true) : a.length ≤ b.length := by
  simp only [precedes, Bool.or_eq_true, Bool.and_eq_true, decide_eq_true_eq, beq_iff_eq] at h
  omega

/-- A code that is put in its place stands behind the longer ones and before the shorter ones. -/
theorem pairwise_insert (h : codes.Pairwise fun a b => b.length ≤ a.length) :
    (insert a codes).Pairwise fun a b => b.length ≤ a.length := by
  induction codes with
  | nil => exact List.pairwise_singleton _ a
  | cons c codes ih =>
    obtain ⟨hc, hcodes⟩ := List.pairwise_cons.mp h
    rw [insert]
    split
    · next hprecedes =>
      have hle : c.length ≤ a.length := length_le_of_precedes hprecedes
      refine List.pairwise_cons.mpr ⟨fun b hb => ?_, h⟩
      rcases List.mem_cons.mp hb with rfl | hb
      · exact hle
      · exact Nat.le_trans (hc b hb) hle
    · next hprecedes =>
      refine List.pairwise_cons.mpr ⟨fun b hb => ?_, ih hcodes⟩
      rcases mem_insert_iff.mp hb with rfl | hb
      · exact length_le_of_not_precedes hprecedes
      · exact hc b hb

/-- **Longer codes are tried first.** -/
theorem pairwise_ordered : ordered.Pairwise fun a b => b.length ≤ a.length := by
  rw [ordered]
  induction ZoneCode.codes with
  | nil => exact List.Pairwise.nil
  | cons c codes ih => exact pairwise_insert ih

/-- A code in capitals names the zone that stands beside it in the table. -/
theorem lookup_name {code : String} {zone : Zone}
    (hupper : code.toList.map Char.toUpper = a.toList) (h : lookup code = .ok zone) :
    table.lookup a = some zone.name := by
  obtain ⟨name, hname, hfind⟩ := exists_name_of_lookup h
  rw [hupper, String.ofList_toList] at hname
  rw [Zone.find?] at hfind
  have hsame := List.find?_some hfind
  rw [hname, eq_of_beq hsame]

end ZoneCode

namespace English

open Pattern Pattern.Node Pattern.Cursor

variable {α : Type} {k : Cursor → List (Nat × Span) → Option α} {u v : List Char} {word : String}
  {gs : List (Nat × Span)} {a : α} {text : String} {m : Match}

/-! ## Characters that stand for themselves -/

theorem mem_single_iff {ch ch' : Char} :
    (⟨.single ch.toNat, false⟩ : CharSet).mem ch' = true ↔ ch' = ch := by
  rw [CharSet.mem, Ranges.single, Ranges.contains_range, ← Char.toNat_inj]
  omega

/-- **Characters that stand for themselves** are read if they stand there, and fail otherwise. -/
theorem first_exactly_eq_some_iff : (exactly word).first k (between u v) gs = some a ↔
    ∃ v', v = word.toList ++ v' ∧ k (between (u ++ word.toList) v') gs = some a := by
  rw [exactly, first_ofItems]
  -- On the characters of the word, each of which has to stand next.
  induction word.toList generalizing u v with
  | nil =>
    rw [List.append_nil]
    constructor
    · exact fun h => ⟨v, rfl, h⟩
    · rintro ⟨v', rfl, h⟩
      exact h
  | cons ch cs ih =>
    rw [List.map_cons, firstOfRow, first_set]
    cases v with
    | nil =>
      refine iff_of_false (Option.some_ne_none a).symm ?_
      rintro ⟨v', hv, -⟩
      cases hv
    | cons ch' rest =>
      have hnext : next (between u (ch' :: rest)).offset ch' rest = between (u ++ [ch']) rest :=
        next_between
      show (if _ then firstOfRow k _ (next _ ch' rest) gs else none) = some a ↔ _
      rw [hnext]
      by_cases hch : ch' = ch
      · subst hch
        rw [if_pos (mem_single_iff.mpr rfl), ih]
        simp
      · rw [if_neg (mt mem_single_iff.mp hch)]
        refine iff_of_false (Option.some_ne_none a).symm ?_
        rintro ⟨v', hv, -⟩
        exact hch (List.cons.inj hv).1

/-! ## The code that is found -/

/-- An edge of a word stands after some characters and before the rest. -/
def EdgeAfter (u v : List Char) : Prop := (Look.word .boundary false).HoldsAt (between u v)

instance (u v : List Char) : Decidable (EdgeAfter u v) := inferInstanceAs (Decidable (_ = true))

theorem edge_eq_some_iff {start : Nat} :
    firstOfRow (ended start) [edge] (between u v) gs = some m ↔
      EdgeAfter u v ∧ m = ⟨⟨start, Utf8.size u⟩, gs⟩ := by
  show (look _).first (ended start) _ gs = some m ↔ _
  rw [first_look, EdgeAfter, Look.HoldsAt]
  split
  · next h =>
    refine ⟨fun heq => ⟨h, (Option.some.inj heq).symm⟩, ?_⟩
    rintro ⟨-, rfl⟩
    rfl
  · next h =>
    refine iff_of_false (Option.some_ne_none m).symm ?_
    rintro ⟨hedge, -⟩
    exact h hedge

/-- **The code that is found** is the first of those that are tried which stands there, an edge of a
word after it. -/
theorem exists_of_first_code {start : Nat}
    (h : firstOfRow (ended start) [.group 1 (ofBranches (ZoneCode.ordered.map exactly)), edge]
      (between u v) gs = some m) :
    ∃ before code after v', ZoneCode.ordered = before ++ code :: after ∧ v = code.toList ++ v' ∧
      EdgeAfter (u ++ code.toList) v' ∧ m.group? 1 = some (.after u code.toList) ∧
      ∀ code' ∈ before, ∀ v', v = code'.toList ++ v' → ¬ EdgeAfter (u ++ code'.toList) v' := by
  rw [firstOfRow, first_group] at h
  obtain ⟨before, node, after, hnodes, hfound, hfailed⟩ := exists_of_first_ofBranches h
  obtain ⟨before, codes, hordered, rfl, hcodes⟩ := List.map_eq_append_iff.mp hnodes
  obtain ⟨code, after, rfl, rfl, rfl⟩ := List.map_eq_cons_iff.mp hcodes
  obtain ⟨v', rfl, hedge⟩ := first_exactly_eq_some_iff.mp hfound
  obtain ⟨hafter, rfl⟩ := edge_eq_some_iff.mp hedge
  refine ⟨before, code, after, v', hordered, rfl, hafter, rfl, fun code' hcode' v'' hv hedge' => ?_⟩
  -- Had the edge been there, the code would have been found before.
  have hnone := hfailed _ (List.mem_map_of_mem hcode')
  refine Option.eq_none_iff_forall_ne_some.mp hnone
    ⟨⟨start, Utf8.size (u ++ code'.toList)⟩, (1, .after u code'.toList) :: gs⟩ ?_
  exact first_exactly_eq_some_iff.mpr ⟨v'', hv, edge_eq_some_iff.mpr ⟨hedge', rfl⟩⟩

/-- A code is tried before another one, or it is the same, or it is no longer. -/
theorem mem_before_or_length_le {before after : List String} {code code' : String}
    (hordered : ZoneCode.ordered = before ++ code :: after) (hcode' : code' ∈ ZoneCode.codes) :
    code' ∈ before ∨ code' = code ∨ code'.length ≤ code.length := by
  have hsorted := ZoneCode.pairwise_ordered
  rw [hordered] at hsorted
  obtain ⟨-, hsorted, -⟩ := List.pairwise_append.mp hsorted
  rw [← ZoneCode.mem_ordered_iff, hordered] at hcode'
  rcases List.mem_append.mp hcode' with hbefore | hcode'
  · exact Or.inl hbefore
  · refine Or.inr ((List.mem_cons.mp hcode').imp_right fun hafter => ?_)
    exact (List.pairwise_cons.mp hsorted).1 code' hafter

/-- **The longest code** that stands where the code of a match starts, an edge of a word after it, is
the code of the match. -/
theorem exists_longest_code (h : m ∈ timezoneRule.pattern.findAll text) :
    ∃ u code v, text.toList = u ++ code.toList ++ v ∧ m.group? 1 = some (.after u code.toList) ∧
      code ∈ ZoneCode.codes ∧ EdgeAfter (u ++ code.toList) v ∧
      ∀ code' ∈ ZoneCode.codes, ∀ v', text.toList = u ++ code'.toList ++ v' →
        EdgeAfter (u ++ code'.toList) v' → code' = code ∨ code'.length < code.length := by
  obtain ⟨u, v, ht, hmatch⟩ := exists_place_of_mem_findAll h
  have hfirst : (ofItems (clockNodes ++
      [.group 1 (ofBranches (ZoneCode.ordered.map exactly)), edge])).first (ended (Utf8.size u))
        (between u v) [] = some m := by
    rw [← hmatch]
    exact (matchAt?_eq_first (show timezoneNode.isLoopFree = true by decide) (between u v)).symm
  -- Whatever was read of the time of day, the codes are tried where it ended.
  rw [first_ofItems] at hfirst
  obtain ⟨w, d, hs, hw, hcode⟩ := exists_of_firstOfRow_append hfirst
  have hv : v = w ++ d.rest := hw.rest_eq
  rw [hw.eq_between] at hcode
  obtain ⟨before, code, after, v', hordered, hrest, hedge, hgroup, hfailed⟩ :=
    exists_of_first_code hcode
  have htext : text.toList = u ++ w ++ d.rest := by
    rw [ht, hv, List.append_assoc]
  refine ⟨u ++ w, code, v', ?_, hgroup, ?_, hedge, ?_⟩
  · rw [htext, hrest, ← List.append_assoc]
  · rw [← ZoneCode.mem_ordered_iff, hordered]
    exact List.mem_append_right _ List.mem_cons_self
  · intro code' hcode' v'' ht' hedge'
    have hrest' : d.rest = code'.toList ++ v'' := by
      rw [htext, List.append_assoc (u ++ w)] at ht'
      exact List.append_cancel_left ht'
    rcases mem_before_or_length_le hordered hcode' with hbefore | rfl | hle
    · exact absurd hedge' (hfailed code' hbefore v'' hrest')
    · exact Or.inl rfl
    · rcases Nat.lt_or_eq_of_le hle with hlt | heq
      · exact Or.inr hlt
      -- Codes of one length that stand at one place are the same.
      · rw [hrest'] at hrest
        rw [← String.length_toList, ← String.length_toList] at heq
        exact Or.inl (String.toList_inj.mp (List.append_inj hrest heq).1)

/-- Every code is found again from its small letters. -/
theorem toUpper_lowercase : ∀ code ∈ ZoneCode.codes,
    (Lowercase.lowercase code).toList.map Char.toUpper = code.toList := by
  decide +kernel

/-- **The code of a zone that is read is the longest one written.**  Let the pattern for zones have a
match in a text.  Then the text has a digit and a capital, so that the rule is not passed over.  What
is captured as the code is a code of the table as it is written there, and an edge of a word follows
it.  Every other code that stands at the same place, an edge of a word after it, is shorter.  The
table knows the code by its small letters and names the same zone as for the code itself.  So the
rule fails in one way only: the clocks of the zone do not show the local time. -/
theorem zone_code_is_longest : ∃ rule f, timezone = .ok rule ∧ rule.meaning = .time f ∧
    ∀ text, ∀ m ∈ rule.pattern.findAll text,
      (∃ ch ∈ text.toList, ch.isDigit = true) ∧ (∃ ch ∈ text.toList, ch.isUpper = true) ∧
      rule.skip? (Features.scan text) = none ∧
      ∃ u code v zone, text.toList = u ++ code.toList ++ v ∧
        (rule.pattern.names.lookup "tz").bind m.group? = some (.after u code.toList) ∧
        rule.pattern.written? text m "tz" = some code ∧
        code ∈ ZoneCode.codes ∧ EdgeAfter (u ++ code.toList) v ∧
        (∀ code' ∈ ZoneCode.codes, ∀ v', text.toList = u ++ code'.toList ++ v' →
          EdgeAfter (u ++ code'.toList) v' → code' = code ∨ code'.length < code.length) ∧
        ZoneCode.table.lookup code = some zone.name ∧ zone ∈ Zone.all ∧
        ZoneCode.lookup ((Captures.ofMatch rule.name rule.pattern text m).text "tz") = .ok zone ∧
        ∀ context t failure,
          f context t (.ofMatch rule.name rule.pattern text m) = .error failure →
            failure = .nonexistentLocalTime t.localTime zone.name := by
  refine ⟨timezoneRule, _, timezone_eq, rfl, fun text m hm => ?_⟩
  have hne : timezoneRule.pattern.findAll text ≠ [] := List.ne_nil_of_mem hm
  have hrule : timezoneRule ∈ catalogRead.rules := mem_rules_iff.mpr (by simp)
  have hdigit : hasDigit text = true := hasDigit_of_timezone hne
  have hdue : (Features.scan text).includes timezoneRule.features = true :=
    includes_of_findAll hrule (Or.inl hdigit) hne
  refine ⟨List.any_eq_true.mp hdigit, List.any_eq_true.mp (hasUpper_of_timezone hne), ?_, ?_⟩
  · rw [Rule.skip?_eq_none_iff, Rule.isDue, hdue]
    rfl
  obtain ⟨u, code, v, ht, hgroup, hcode, hedge, hlongest⟩ := exists_longest_code hm
  have hname : timezoneRule.pattern.names.lookup "tz" = some 1 := rfl
  have htext : (Captures.ofMatch timezoneRule.name timezoneRule.pattern text m).text "tz" =
      Lowercase.lowercase code := by
    rw [Captures.text_of_get? (Captures.get?_of_after hname hgroup ht), String.ofList_toList]
  -- The code is captured in small letters, by which the table knows each of its codes.
  obtain ⟨zone, hzone⟩ :=
    exists_of_isOk (isOk_lookup_lowercase code (ZoneCode.mem_ordered_iff.mpr hcode))
  have hwritten := Captures.written?_of_after hname hgroup ht
  rw [String.ofList_toList] at hwritten
  refine ⟨u, code, v, zone, ht, hgroup, hwritten, hcode, hedge, hlongest,
    ZoneCode.lookup_name (toUpper_lowercase code hcode) hzone, ZoneCode.mem_all_of_lookup hzone,
    htext ▸ hzone, fun context t failure hfails => ?_⟩
  exact ((inZone_eq_error_iff (htext ▸ hzone)).mp hfails).1

/-- In "at 5pm GMT+10x" no edge of a word follows `GMT+1` or `GMT+10`, so that `GMT` is read. -/
theorem zone_code_before_letter : ∃ rule m zone, timezone = .ok rule ∧
    m ∈ rule.pattern.findAll "at 5pm GMT+10x" ∧
    rule.pattern.written? "at 5pm GMT+10x" m "tz" = some "GMT" ∧
    ZoneCode.lookup ((Captures.ofMatch rule.name rule.pattern "at 5pm GMT+10x" m).text "tz") =
      .ok zone ∧ zone.name = "Etc/GMT" ∧
    "GMT+1" ∈ ZoneCode.codes ∧ ¬ EdgeAfter "at 5pm GMT+1".toList "0x".toList ∧
    "GMT+10" ∈ ZoneCode.codes ∧ ¬ EdgeAfter "at 5pm GMT+10".toList "x".toList := by
  obtain ⟨rule, f, hrule, -, hfound⟩ := zone_code_is_longest
  obtain rfl : timezoneRule = rule := Except.ok.inj (timezone_eq.symm.trans hrule)
  have hm : ⟨⟨0, 10⟩, [(1, ⟨7, 10⟩)]⟩ ∈ timezoneRule.pattern.findAll "at 5pm GMT+10x" := by
    decide +kernel
  have hGMT : timezoneRule.pattern.written? "at 5pm GMT+10x" ⟨⟨0, 10⟩, [(1, ⟨7, 10⟩)]⟩ "tz" =
      some "GMT" := by
    decide +kernel
  obtain ⟨-, -, -, u, code, v, zone, -, -, hwritten, -, -, -, hname, -, hzone, -⟩ := hfound _ _ hm
  obtain rfl : code = "GMT" := Option.some.inj (hwritten.symm.trans hGMT)
  have hlisted : ZoneCode.table.lookup "GMT" = some "Etc/GMT" := by decide +kernel
  exact ⟨timezoneRule, _, zone, hrule, hm, hGMT, hzone, Option.some.inj (hname.symm.trans hlisted),
    by decide +kernel, by decide +kernel, by decide +kernel, by decide +kernel⟩

end English

end Timephrase
