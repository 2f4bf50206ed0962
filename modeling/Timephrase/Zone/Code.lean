import Timephrase.Failure
import Timephrase.Zone.Table.Africa
import Timephrase.Zone.Table.America
import Timephrase.Zone.Table.Asia
import Timephrase.Zone.Table.Australasia
import Timephrase.Zone.Table.Europe
import Timephrase.Zone.Table.Fixed

/-!
# Codes of time zones

Abbreviations such as `PST` name time zones.  Where an abbreviation is in use for several, the
table settles on one.

## Main definitions

* `ZoneCode.table`: the codes, each with the name of its zone
* `ZoneCode.lookup`: the zone that a code names, in capital or small letters
* `ZoneCode.source`: the codes as alternatives of a written pattern, longer ones first
-/

namespace Timephrase

namespace Zone

/-- Every zone of the tables. -/
def all : List Zone :=
  [
    johannesburg, lagos, maputo, nairobi, anchorage, buenosAires, bogota, chicago, denver, halifax,
    lima, losAngeles, newYork, phoenix, puertoRico, santiago, saoPaulo, stJohns, bangkok, dubai,
    hongKong, jakarta, jerusalem, kabul, karachi, kathmandu, kolkata, manila, seoul, singapore,
    tehran, tokyo, adelaide, brisbane, darwin, perth, sydney, auckland, honolulu, athens, lisbon,
    london, moscow, paris] ++
    fixedZones

/-- The zone of a name. -/
def find? (name : String) : Option Zone := all.find? (·.name == name)

end Zone

namespace ZoneCode

/-- The codes, each with the name of its zone.  The codes that add hours to Greenwich time count
them east, and the names of their zones west. -/
def table : List (String × String) := [
  ("ACDT", "Australia/Adelaide"), ("ACST", "Australia/Darwin"), ("AEDT", "Australia/Sydney"),
  ("AEST", "Australia/Brisbane"), ("AET", "Australia/Sydney"), ("AFT", "Asia/Kabul"),
  ("AKDT", "America/Anchorage"), ("AKST", "America/Anchorage"), ("ADT", "America/Halifax"),
  ("AST", "America/Puerto_Rico"), ("ART", "America/Argentina/Buenos_Aires"),
  ("AWST", "Australia/Perth"), ("BRT", "America/Sao_Paulo"), ("BST", "Europe/London"),
  ("CAT", "Africa/Maputo"), ("CDT", "America/Chicago"), ("CEST", "Europe/Paris"),
  ("CET", "Europe/Paris"), ("CLT", "America/Santiago"), ("COT", "America/Bogota"),
  ("CST", "America/Chicago"), ("CT", "America/Chicago"), ("EAT", "Africa/Nairobi"),
  ("EDT", "America/New_York"), ("EEST", "Europe/Athens"), ("EET", "Europe/Athens"),
  ("EST", "America/New_York"), ("ET", "America/New_York"), ("GMT", "Etc/GMT"),
  ("GST", "Asia/Dubai"), ("HKT", "Asia/Hong_Kong"), ("HST", "Pacific/Honolulu"),
  ("ICT", "Asia/Bangkok"), ("IDT", "Asia/Jerusalem"), ("IRST", "Asia/Tehran"),
  ("IST", "Asia/Kolkata"), ("JST", "Asia/Tokyo"), ("KST", "Asia/Seoul"), ("MDT", "America/Denver"),
  ("MSK", "Europe/Moscow"), ("MST", "America/Phoenix"), ("MT", "America/Denver"),
  ("NDT", "America/St_Johns"), ("NPT", "Asia/Kathmandu"), ("NST", "America/St_Johns"),
  ("NZDT", "Pacific/Auckland"), ("NZST", "Pacific/Auckland"), ("PDT", "America/Los_Angeles"),
  ("PET", "America/Lima"), ("PHT", "Asia/Manila"), ("PKT", "Asia/Karachi"),
  ("PST", "America/Los_Angeles"), ("PT", "America/Los_Angeles"), ("SAST", "Africa/Johannesburg"),
  ("SGT", "Asia/Singapore"), ("UTC", "Etc/UTC"), ("WAT", "Africa/Lagos"),
  ("WEST", "Europe/Lisbon"), ("WET", "Europe/Lisbon"), ("WIB", "Asia/Jakarta"),
  ("GMT+1", "Etc/GMT-1"), ("GMT+2", "Etc/GMT-2"), ("GMT+3", "Etc/GMT-3"), ("GMT+4", "Etc/GMT-4"),
  ("GMT+5", "Etc/GMT-5"), ("GMT+6", "Etc/GMT-6"), ("GMT+7", "Etc/GMT-7"), ("GMT+8", "Etc/GMT-8"),
  ("GMT+9", "Etc/GMT-9"), ("GMT+10", "Etc/GMT-10"), ("GMT+11", "Etc/GMT-11"),
  ("GMT+12", "Etc/GMT-12"), ("GMT+13", "Etc/GMT-13"), ("GMT+14", "Etc/GMT-14"),
  ("GMT-1", "Etc/GMT+1"), ("GMT-2", "Etc/GMT+2"), ("GMT-3", "Etc/GMT+3"), ("GMT-4", "Etc/GMT+4"),
  ("GMT-5", "Etc/GMT+5"), ("GMT-6", "Etc/GMT+6"), ("GMT-7", "Etc/GMT+7"), ("GMT-8", "Etc/GMT+8"),
  ("GMT-9", "Etc/GMT+9"), ("GMT-10", "Etc/GMT+10"), ("GMT-11", "Etc/GMT+11"),
  ("GMT-12", "Etc/GMT+12")]

/-- Every code, in the order of the table. -/
def codes : List String := table.map (·.1)

/-- The zone that a code names, whatever the case of its ASCII letters. -/
def lookup (code : String) : Except Failure Zone :=
  let upper := String.ofList (code.toList.map Char.toUpper)
  match table.lookup upper with
  | none => .error (.unknownTimezone code)
  | some name =>
    match Zone.find? name with
    | none => .error (.noLocation upper)
    | some zone => .ok zone

/-! ## The codes in a pattern -/

/-- Whether a code is tried before another: the longer first, and of two of one length the one that
comes first in the alphabet. -/
def precedes (a b : String) : Bool :=
  b.length < a.length || (a.length == b.length && a < b)

/-- A code put in its place. -/
def insert (a : String) : List String → List String
  | [] => [a]
  | b :: bs => if precedes a b then a :: b :: bs else b :: insert a bs

/-- Every code, in the order in which they are tried. -/
def ordered : List String := codes.foldr insert []

/-- The characters of patterns that need a backslash to stand for themselves. -/
def special : List Char := "\\.+*?()|[]\x7b\x7d^$#&-~".toList

/-- A text as a pattern that matches just this text. -/
def escape (text : String) : String :=
  String.ofList (text.toList.flatMap fun c => if special.contains c then ['\\', c] else [c])

/-- The codes as alternatives of a written pattern. -/
def source : String := "|".intercalate (ordered.map escape)

end ZoneCode

end Timephrase
