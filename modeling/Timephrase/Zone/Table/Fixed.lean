import Timephrase.Zone.Basic

/-!
# Zones of a fixed offset

Universal time, and the zones of whole hours.  The names of the latter count hours west of
Greenwich, so the zone one hour ahead of universal time is `Etc/GMT-1`.
-/

namespace Timephrase.Zone

/-- A zone whose offset never changes. -/
def fixed (name : String) (offset : Int) : Zone := ⟨name, offset, []⟩

/-- The zones of a fixed offset. -/
def fixedZones : List Zone := [
  fixed "Etc/GMT" 0,
  fixed "Etc/UTC" 0,
  fixed "Etc/GMT-1" 3600,
  fixed "Etc/GMT-2" 7200,
  fixed "Etc/GMT-3" 10800,
  fixed "Etc/GMT-4" 14400,
  fixed "Etc/GMT-5" 18000,
  fixed "Etc/GMT-6" 21600,
  fixed "Etc/GMT-7" 25200,
  fixed "Etc/GMT-8" 28800,
  fixed "Etc/GMT-9" 32400,
  fixed "Etc/GMT-10" 36000,
  fixed "Etc/GMT-11" 39600,
  fixed "Etc/GMT-12" 43200,
  fixed "Etc/GMT-13" 46800,
  fixed "Etc/GMT-14" 50400,
  fixed "Etc/GMT+1" (-3600),
  fixed "Etc/GMT+2" (-7200),
  fixed "Etc/GMT+3" (-10800),
  fixed "Etc/GMT+4" (-14400),
  fixed "Etc/GMT+5" (-18000),
  fixed "Etc/GMT+6" (-21600),
  fixed "Etc/GMT+7" (-25200),
  fixed "Etc/GMT+8" (-28800),
  fixed "Etc/GMT+9" (-32400),
  fixed "Etc/GMT+10" (-36000),
  fixed "Etc/GMT+11" (-39600),
  fixed "Etc/GMT+12" (-43200)]

end Timephrase.Zone
