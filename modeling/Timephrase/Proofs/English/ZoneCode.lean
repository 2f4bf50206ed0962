import Timephrase.Proofs.Captures
import Timephrase.Proofs.English.ZoneOnClock
import Timephrase.Proofs.Zone.Showing

/-!
# The codes of zones that are read

What the rule for zones captures is a code of the table, in small letters, and the table knows its
zone by these.

## Main results

* `English.exists_text_tz`: what the rule for zones captures
* `English.exists_lookup_eq_ok`: the code that is captured names a zone
* `ZoneCode.mem_all_of_lookup`: a code names one of the zones of the tables
* `English.inZone_eq_ok_iff`, `English.inZone_eq_error_iff`: what the rule for zones makes of a time,
  and how it fails
-/

namespace Timephrase

namespace ZoneCode

variable {code : String} {zone : Zone}

/-- A code that names a zone stands in the table in capitals, beside the name of the zone. -/
theorem exists_name_of_lookup (h : lookup code = .ok zone) :
    ∃ name, table.lookup (String.ofList (code.toList.map Char.toUpper)) = some name ∧
      Zone.find? name = some zone := by
  rw [lookup] at h
  split at h
  · cases h
  · next name hname =>
    refine ⟨name, hname, ?_⟩
    cases hfind : Zone.find? name with
    | none =>
      rw [hfind] at h
      cases h
    | some zone' =>
      rw [hfind] at h
      exact congrArg some (Except.ok.inj h)

/-- A code names one of the zones of the tables. -/
theorem mem_all_of_lookup (h : lookup code = .ok zone) : zone ∈ Zone.all := by
  obtain ⟨name, -, hfind⟩ := exists_name_of_lookup h
  exact List.mem_of_find?_eq_some hfind

end ZoneCode

namespace English

open Pattern Pattern.Node Pattern.Cursor

/-- Every code names a zone, in small letters too. -/
theorem isOk_lookup_lowercase :
    ∀ code ∈ ZoneCode.ordered, (ZoneCode.lookup (Lowercase.lowercase code)).isOk = true := by
  decide +kernel

variable {text : String} {m : Match}

/-- **What the rule for zones captures** is a code of the table, in small letters. -/
theorem exists_text_tz (h : m ∈ timezoneRule.pattern.findAll text) :
    ∃ code ∈ ZoneCode.ordered,
      (Captures.ofMatch timezoneRule.name timezoneRule.pattern text m).text "tz" =
        Lowercase.lowercase code := by
  obtain ⟨u, v, ht, hm⟩ := exists_place_of_mem_findAll h
  obtain ⟨d, hway, -⟩ := way_of_matchAt? hm
  obtain ⟨-, k, gap, e, e', code, hmem, -, hread, hcode, hgroup⟩ := exists_code_of_timezone hway
  refine ⟨code, hmem, ?_⟩
  have hname : timezoneRule.pattern.names.lookup "tz" = some 1 := rfl
  have hspan : m.group? 1 = some ⟨e.offset, e'.offset⟩ := hgroup
  rw [Captures.text, Captures.get?_ofMatch hname, hspan, Option.bind_some,
    Captures.slice_of_reads ht hread hcode, String.ofList_toList]
  rfl

/-- **The code that is captured names a zone.** -/
theorem exists_lookup_eq_ok (h : m ∈ timezoneRule.pattern.findAll text) :
    ∃ zone ∈ Zone.all, ZoneCode.lookup
      ((Captures.ofMatch timezoneRule.name timezoneRule.pattern text m).text "tz") = .ok zone := by
  obtain ⟨code, hmem, htext⟩ := exists_text_tz h
  obtain ⟨zone, hzone⟩ := exists_of_isOk (isOk_lookup_lowercase code hmem)
  rw [htext]
  exact ⟨zone, ZoneCode.mem_all_of_lookup hzone, hzone⟩

/-! ## The meaning -/

section Meaning

variable {t : Moment} {c : Captures} {zone : Zone}

theorem inZone_of_lookup (h : ZoneCode.lookup (c.text "tz") = .ok zone) (t : Moment) :
    inZone t c =
      match zone.resolve? t.localTime with
      | some moment => .ok moment
      | none => .error (.nonexistentLocalTime t.localTime zone.name) := by
  rw [inZone, h]
  rfl

/-- **What is zoned** is the first moment at which the clocks of the zone show the local time, if it
is supported. -/
theorem inZone_eq_ok_iff (h : ZoneCode.lookup (c.text "tz") = .ok zone) {m : Moment} :
    inZone t c = .ok m ↔ zone.FirstShows t.localTime m ∧ m.Supported := by
  have hordered := Zone.ordered_of_mem_all zone (ZoneCode.mem_all_of_lookup h)
  rw [inZone_of_lookup h, ← Zone.resolve?_eq_some_iff hordered]
  cases zone.resolve? t.localTime <;> simp

/-- **The rule for zones fails** if the clocks never show the local time, and in the same way if they
first show it at a moment that is not supported. -/
theorem inZone_eq_error_iff (h : ZoneCode.lookup (c.text "tz") = .ok zone) {failure : Failure} :
    inZone t c = .error failure ↔ failure = .nonexistentLocalTime t.localTime zone.name ∧
      (zone.Skips t.localTime ∨ ∃ m, zone.FirstShows t.localTime m ∧ ¬ m.Supported) := by
  have hordered := Zone.ordered_of_mem_all zone (ZoneCode.mem_all_of_lookup h)
  rw [inZone_of_lookup h, ← Zone.resolve?_eq_none_iff hordered]
  cases zone.resolve? t.localTime <;> simp [eq_comm]

end Meaning

end English

end Timephrase
