import Timephrase.English.Catalog
import Timephrase.Proofs.English.Node
import Timephrase.Proofs.Pattern.Reading
import Mathlib.Data.List.Nodup

/-!
# The English catalog as it is read

All eight patterns can be read, so that there is an English catalog, and the node of each pattern is
known.

## Main definitions

* `English.yesterdayRule`, …, `English.timezoneRule`: the rules as they are read
* `English.catalogRead`: the catalog of these rules

## Main results

* `English.catalog_eq`: the English catalog can be read
-/

namespace Timephrase.English

open Pattern

/-! ## The rules -/

/-- The rule for "yesterday". -/
def yesterdayRule : Rule where
  name := "yesterday"
  pattern := ⟨r"\byesterday\b", dayWordNode "yesterday", []⟩
  meaning := .time fun context _ c => dayFromToday (-1) context c
  features := .none
  enabled := true

/-- The rule for "tomorrow". -/
def tomorrowRule : Rule where
  name := "tomorrow"
  pattern := ⟨r"\btomorrow\b", dayWordNode "tomorrow", []⟩
  meaning := .time fun context _ c => dayFromToday 1 context c
  features := .none
  enabled := true

/-- The rule for "today". -/
def todayRule : Rule where
  name := "today"
  pattern := ⟨r"\btoday\b", dayWordNode "today", []⟩
  meaning := .time fun context _ _ => .ok context.today
  features := .none
  enabled := true

/-- The rule for "at 3pm" and "at 15:30". -/
def atTimeRule : Rule where
  name := "at time"
  pattern :=
    ⟨r"\bat\s(?P<hour>[0-9]{1,2})(?:[.:,]?(?P<minute>[0-9]{2}))?\s?(?P<meridiem>am|pm)?\b",
      atTimeNode, [("hour", 1), ("minute", 2), ("meridiem", 3)]⟩
  meaning := .time fun _ t c => timeOfDay t c
  features := { Features.none with digits := true }
  enabled := true

/-- The rule for "for 2 hours" and "for 1.5h". -/
def durationRule : Rule where
  name := "duration"
  pattern :=
    ⟨r"\bfor\s(?P<amount>[0-9.]+)\s?" ++
        r"(?P<unit>s(?:ec(?:ond)?s?)?|m(?:in(?:ute)?s?)?|h(?:(?:ou)?rs?)?|d(?:ays?)?)\b",
      lengthNode "for" fixedUnits, [("amount", 1), ("unit", 2)]⟩
  meaning := .duration lengthAdded
  features := { Features.none with digits := true }
  enabled := true

/-- The rule for "on oct 26, 1985" and "26 oct". -/
def dateRule : Rule where
  name := "date"
  pattern :=
    ⟨r"\b(?:on\s?)?(?:(?P<day>[0-9]{1,2})\s?)?" ++
        r"(?P<month>jan(?:uary)?|feb(?:ruary)?|mar(?:ch)?|apr(?:il)?|may|june?|july?|aug(?:ust)?" ++
        r"|sep(?:t(?:ember)?)?|oct(?:ober)?|nov(?:ember)?|dec(?:ember)?)\b" ++
        r"(?:\s(?P<day_after>[0-9]{1,2})\b)?" ++
        r"(?:[,\s]+(?P<year>[0-9]{4})\b)?",
      dateNode, [("day", 1), ("month", 2), ("day_after", 3), ("year", 4)]⟩
  meaning := .time fun _ t c => calendarDate t c
  features := { Features.none with monthish := true }
  enabled := true

/-- The rule for "in 2 days" and "in 1 year". -/
def inOffsetRule : Rule where
  name := "in offset"
  pattern :=
    ⟨r"\bin\s(?P<amount>[0-9.]+)\s?" ++
        r"(?P<unit>s(?:ec(?:ond)?s?)?|m(?:in(?:ute)?s?)?|h(?:(?:ou)?rs?)?|d(?:ays?)?" ++
        r"|w(?:(?:ee)?ks?)?|mo(?:nths?)?|y(?:(?:ea)?rs?)?)\b",
      lengthNode "in" (fixedUnits ++ longUnits), [("amount", 1), ("unit", 2)]⟩
  meaning := .time fun _ t c => shifted t c
  features := { Features.none with digits := true }
  enabled := true

/-- The rule for "at 3pm PST" and "at 9 CET". -/
def timezoneRule : Rule where
  name := "timezone"
  pattern :=
    ⟨r"\b[aA][tT]\s[0-9]{1,2}(?:[.:,]?[0-9]{2})?\s?(?:[aApP][mM])?\s?(?P<tz>" ++
        ZoneCode.source ++ r")\b",
      timezoneNode, [("tz", 1)]⟩
  meaning := .time fun _ t c => inZone t c
  features := { Features.none with digits := true, uppercase := true }
  enabled := true

/-- The English catalog as it is read. -/
def catalogRead : Catalog :=
  ⟨[yesterdayRule, tomorrowRule, todayRule, atTimeRule, durationRule, dateRule, inOffsetRule,
    timezoneRule]⟩

/-! ## Reading the patterns -/

/-- Whether the source of a rule writes its pattern. -/
def isWritten (rule : Rule) (anyCase unicode : Bool) : Bool :=
  writes rule.pattern.source.toList anyCase unicode rule.pattern.node rule.pattern.names

/-- The codes of zones, as they stand in the pattern. -/
theorem toList_source : ZoneCode.source.toList =
    ['|'].intercalate (ZoneCode.ordered.map fun code =>
      code.toList.flatMap fun c => if ZoneCode.special.contains c then ['\\', c] else [c]) := by
  have hescape : ∀ code, (ZoneCode.escape code).toList =
      code.toList.flatMap fun c => if ZoneCode.special.contains c then ['\\', c] else [c] :=
    fun code => String.toList_ofList
  rw [ZoneCode.source, String.toList_intercalate, List.map_map]
  exact congrArg _ (List.map_congr_left fun code _ => hescape code)

-- One computation for all eight sources, as each one alone would wait for those before it.
theorem isWritten_rules :
    isWritten yesterdayRule true true = true ∧ isWritten tomorrowRule true true = true ∧
      isWritten todayRule true true = true ∧ isWritten atTimeRule true true = true ∧
      isWritten durationRule true true = true ∧ isWritten dateRule true false = true ∧
      isWritten inOffsetRule true true = true ∧ isWritten timezoneRule false true = true := by
  simp only [isWritten, yesterdayRule, tomorrowRule, todayRule, atTimeRule, durationRule, dateRule,
    inOffsetRule, timezoneRule, String.toList_append, String.reduceToList, toList_source]
  decide +kernel

theorem yesterday_eq : yesterday = .ok yesterdayRule := by
  obtain ⟨h, -⟩ := isWritten_rules
  exact Rule.Draft.finish_of_writes _ h

theorem tomorrow_eq : tomorrow = .ok tomorrowRule := by
  obtain ⟨-, h, -⟩ := isWritten_rules
  exact Rule.Draft.finish_of_writes _ h

theorem today_eq : today = .ok todayRule := by
  obtain ⟨-, -, h, -⟩ := isWritten_rules
  exact Rule.Draft.finish_of_writes _ h

theorem atTime_eq : atTime = .ok atTimeRule := by
  obtain ⟨-, -, -, h, -⟩ := isWritten_rules
  exact Rule.Draft.finish_of_writes _ h

theorem duration_eq : duration = .ok durationRule := by
  obtain ⟨-, -, -, -, h, -⟩ := isWritten_rules
  exact Rule.Draft.finish_of_writes _ h

theorem date_eq : date = .ok dateRule := by
  obtain ⟨-, -, -, -, -, h, -⟩ := isWritten_rules
  exact Rule.Draft.finish_of_writes _ h

theorem inOffset_eq : inOffset = .ok inOffsetRule := by
  obtain ⟨-, -, -, -, -, -, h, -⟩ := isWritten_rules
  exact Rule.Draft.finish_of_writes _ h

theorem timezone_eq : timezone = .ok timezoneRule := by
  obtain ⟨-, -, -, -, -, -, -, h⟩ := isWritten_rules
  exact Rule.Draft.finish_of_writes _ h

/-- **The English catalog can be read.** -/
theorem catalog_eq : catalog = .ok catalogRead := by
  simp only [catalog, rules, yesterday_eq, tomorrow_eq, today_eq, atTime_eq, duration_eq, date_eq,
    inOffset_eq, timezone_eq]
  rfl

theorem catalogRead_eq {c : Catalog} (h : catalog = .ok c) : catalogRead = c :=
  Except.ok.inj (catalog_eq.symm.trans h)

/-- The rules of the catalog, one by one. -/
theorem mem_rules_iff {rule : Rule} : rule ∈ catalogRead.rules ↔
    rule = yesterdayRule ∨ rule = tomorrowRule ∨ rule = todayRule ∨ rule = atTimeRule ∨
      rule = durationRule ∨ rule = dateRule ∨ rule = inOffsetRule ∨ rule = timezoneRule := by
  simp only [catalogRead, List.mem_cons, List.not_mem_nil, or_false]

/-- A rule of the catalog is known by its name. -/
theorem eq_of_name_eq {rule rule' : Rule} (h : rule ∈ catalogRead.rules)
    (h' : rule' ∈ catalogRead.rules) (hname : rule.name = rule'.name) : rule = rule' := by
  have hnodup : (catalogRead.rules.map Rule.name).Nodup := by decide
  exact List.inj_on_of_nodup_map hnodup h h' hname

/-- Half past four in the morning of 12 February 2013, by a clock of universal time. -/
def halfPastFour : Context := .at ⟨⟨1360643400, 0⟩, 0⟩

end Timephrase.English
