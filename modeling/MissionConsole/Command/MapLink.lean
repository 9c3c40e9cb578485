import MissionConsole.Command.Basic
import MissionConsole.Decimal.Numeral
import MissionConsole.Decimal.Shortest

/-!
# Map commands

Commands that look at the map's regions and companies or move the map. They check their arguments
and answer with events; going somewhere also closes the console so that the map can be seen.

## Main definitions

* `MapLink.argument?` — an argument as a finite number
* `MapLink.leaveFor` — events that move the map, with the sound and the closing that follow them
* `MapLink.goto`, `MapLink.zoom`, … — the handlers
-/

namespace MissionConsole.MapLink

/-- The zoom of the map at a destination. -/
def destinationZoom : Int := 10

/-- How long the map takes to fly to a headquarters, to zoom and to centre, in milliseconds. -/
def flightMs : Int := 1200

@[inherit_doc flightMs] def zoomMs : Int := 500

@[inherit_doc flightMs] def centerMs : Int := 800

/-- The time between two effects of a sweep, in milliseconds. -/
def sweepStepMs : Int := 250

/-- The effects that the screen can show. -/
def screenEffects : List String :=
  ["matrix", "ufo", "paws", "glitch", "neon", "scanlines", "beam", "hiking"]

/-- The effects of the screen, one after the other at equal steps. -/
def staggered (stepMs : Int) : List Event :=
  screenEffects.mapIdx fun i name => .effect name (i * stepMs)

/-- The finite number that a text writes. -/
def finite? (text : String) : Option Float :=
  (Numeral.real? text).filter Decimal.isFinite

/-- An argument as a finite number; none when it is missing. -/
def argument? (args : List String) (i : Nat) : Option Float :=
  args[i]?.bind finite?

/-- Two neighbouring arguments as a longitude and a latitude. -/
def position? (args : List String) (i : Nat) : Option (Float × Float) := do
  let lng ← argument? args i
  let lat ← argument? args (i + 1)
  some (lng, lat)

/-- Events that move the map, followed by a sound and the closing of the console. -/
def leaveFor (events : List Event) : List Event :=
  events ++ [.sound "navigate", .close]

/-! ### Lists -/

/-- Lists the keys of the regions. -/
def regions (ctx : Context) : Run :=
  ctx.say (", ".intercalate (ctx.regions.map (·.key)))

/-- Lists the companies, each once. -/
def companies (ctx : Context) : Run :=
  let line := ", ".intercalate (ctx.companies.filter (· != "")).eraseDups
  ctx.say (if line = "" then "(none)" else line)

/-! ### Destinations -/

/-- The first company whose name holds the query, letter case apart. -/
def company? (companies : List String) (query : String) : Option String :=
  companies.find? fun name => Text.contains (Text.lower name) (Text.lower query)

/-- Flies to the headquarters of a company. -/
def goToCompany (ctx : Context) (query : String) : Run :=
  if ctx.companies.isEmpty then ctx.say "Map or career data not available"
  else
    match company? ctx.companies query with
    | none => ctx.say ("Unknown company: " ++ query)
    | some name =>
      ctx.answer ["Navigating to " ++ query ++ " HQ…"]
        (leaveFor
          [.navigate ("hq:" ++ name) none (some (.int destinationZoom)) (some flightMs),
            .unlock ("visit_hq_" ++ Text.lower query)])

/-- Flies to a region. -/
def goToRegion (ctx : Context) (key : String) : Run :=
  match Region.find? ctx.regions key with
  | none => ctx.say ("Unknown region: " ++ key)
  | some region =>
    let (lng, lat) := region.center
    ctx.answer ["Navigating to " ++ key ++ "…"]
      (leaveFor
        [.navigate key (some (.float lng, .float lat)) (some (.int destinationZoom)) none,
          .unlock ("visit_" ++ key)])

/-- Flies to a region or, after the word `hq`, to a company. -/
def goto (ctx : Context) : Run :=
  match ctx.args with
  | [] => ctx.fail
  | first :: rest =>
    if Text.lower first = "hq" then
      let query := " ".intercalate rest
      if query = "" then ctx.say "Usage: goto hq <company>" else goToCompany ctx query
    else goToRegion ctx (Text.lower first)

/-- Flies to a company. -/
def hq (ctx : Context) : Run := goToCompany ctx (" ".intercalate ctx.args)

/-! ### The camera -/

/-- Zooms the map. -/
def zoom (ctx : Context) : Run :=
  match argument? ctx.args 0 with
  | none => ctx.say "Usage: zoom <number>"
  | some level =>
    ctx.answer ["Zoom " ++ Decimal.brief level]
      [.navigate "camera" none (some (.float level)) (some zoomMs)]

/-- Centres the map. -/
def center (ctx : Context) : Run :=
  match position? ctx.args 0 with
  | none => ctx.say "Usage: center <lng> <lat>"
  | some (lng, lat) =>
    ctx.answer ["Center " ++ Decimal.brief lng ++ ", " ++ Decimal.brief lat]
      [.navigate "camera" (some (.float lng, .float lat)) none (some centerMs)]

/-- Sweeps the sensors, with all effects one after the other. -/
def scan (ctx : Context) : Run :=
  ctx.answer ["Scanning…"] (.unlock "map_scan" :: .sound "scan" :: staggered sweepStepMs)

end MissionConsole.MapLink
