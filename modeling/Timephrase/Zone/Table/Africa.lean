import Timephrase.Zone.Basic

/-!
# Time zones of Africa

The offset changes of each zone, in seconds after the start of 1800, with the seconds east or west
that hold from then on.  Rules in force are written out to the end of 2099.
-/

namespace Timephrase.Zone

open ZoneChange (east west)

/-- The zone Africa/Johannesburg. -/
def johannesburg : Zone where
  name := "Africa/Johannesburg"
  first := 6720
  changes := [
    east 2906489280 5400, east 3255373800 7200, east 4503686400 10800, east 4519407600 7200,
    east 4535136000 10800, east 4550857200 7200]

/-- The zone Africa/Lagos. -/
def lagos : Zone where
  name := "Africa/Lagos"
  first := 815
  changes := [
    east 3329077585 0, east 3423772800 815, east 3597435985 1800, east 3776196600 3600]

/-- The zone Africa/Maputo. -/
def maputo : Zone where
  name := "Africa/Maputo"
  first := 7818
  changes := [
    east 3439662582 7200]

/-- The zone Africa/Nairobi. -/
def nairobi : Zone where
  name := "Africa/Nairobi"
  first := 8836
  changes := [
    east 3418493564 9000, east 4054915800 10800, east 4102693200 9000, east 4323274200 9900,
    east 4499356500 10800]

end Timephrase.Zone
