import MissionConsole.Text.Lowercase

/-!
# Map regions

A region is a named box of longitudes and latitudes. The console needs its key and the centre of
the box; drawing it is the map's affair.

## Main definitions

* `Region` — a key and a box
* `Region.center` — the centre of the box
* `Region.find?` — the first region with a key
* `Region.defaults` — the regions of the map
-/

namespace MissionConsole

/-- A named box of longitudes and latitudes. -/
structure Region where
  key : String
  minLng : Float
  maxLng : Float
  minLat : Float
  maxLat : Float

namespace Region

/-- The longitude and the latitude of the centre of the box. -/
def center (r : Region) : Float × Float :=
  ((r.minLng + r.maxLng) / 2, (r.minLat + r.maxLat) / 2)

/-- The first region whose key is the lower-case form of the text asked for. -/
def find? (regions : List Region) (key : String) : Option Region :=
  regions.find? (·.key == Text.lower key)

/-- The regions of the map. -/
def defaults : List Region :=
  [⟨"area51", -115.95, -115.45, 37.05, 37.45⟩,
    ⟨"roswell", -104.70, -104.30, 33.20, 33.60⟩,
    ⟨"rainier", -121.95, -121.45, 46.60, 47.00⟩,
    ⟨"yosemite", -119.85, -119.25, 37.60, 38.00⟩,
    ⟨"rmnp", -105.90, -105.40, 40.30, 40.60⟩,
    ⟨"white-sands", -106.60, -106.10, 32.60, 32.90⟩,
    ⟨"ksc", -80.80, -80.50, 28.40, 28.70⟩,
    ⟨"silicon-valley", -122.30, -121.80, 37.20, 37.60⟩,
    ⟨"dc-pentagon", -77.12, -77.01, 38.84, 38.92⟩,
    ⟨"boston", -71.18, -71.03, 42.32, 42.42⟩,
    ⟨"lancaster", -76.40, -76.20, 40.00, 40.08⟩,
    ⟨"philadelphia", -75.30, -75.00, 39.85, 40.10⟩,
    ⟨"el-segundo", -118.45, -118.32, 33.88, 33.95⟩,
    ⟨"state-college", -78.00, -77.60, 40.70, 40.90⟩,
    ⟨"bletchley-park", -0.85, -0.62, 51.90, 52.05⟩,
    ⟨"cern", 5.95, 6.20, 46.15, 46.32⟩,
    ⟨"starbase", -97.30, -96.90, 25.90, 26.10⟩,
    ⟨"vandenberg", -120.80, -120.40, 34.50, 34.90⟩,
    ⟨"jpl-pasadena", -118.25, -118.05, 34.12, 34.25⟩,
    ⟨"mojave", -118.25, -118.05, 34.95, 35.15⟩,
    ⟨"nyc-midtown", -74.02, -73.95, 40.70, 40.78⟩,
    ⟨"seattle", -122.45, -122.25, 47.55, 47.70⟩,
    ⟨"austin", -97.90, -97.60, 30.17, 30.42⟩,
    ⟨"denver", -105.10, -104.75, 39.60, 39.85⟩,
    ⟨"houston-jsc", -95.20, -95.00, 29.50, 29.70⟩,
    ⟨"norad-cheyenne", -104.90, -104.80, 38.70, 38.76⟩,
    ⟨"pine-gap-au", 133.67, 133.90, -23.90, -23.70⟩]

end Region

end MissionConsole
