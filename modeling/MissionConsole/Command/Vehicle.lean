import MissionConsole.Command.MapLink

/-!
# The unmanned vehicle

One command with sub-commands drives the vehicle. An order that is understood is answered with one
line, the order as an event, perhaps a sound, and the closing of the console.

## Main definitions

* `Vehicle.order` — the answer to an order that is understood
* `Vehicle.start`, `Vehicle.goto`, `Vehicle.speed`, `Vehicle.follow` — orders with arguments
* `Vehicle.uxv` — the command
-/

namespace MissionConsole.Vehicle

/-- What `uxv` answers when it is asked for help. -/
def helpLine : String :=
  "uxv subcmds: start [lng lat], stop, goto <lng> <lat> | region <key>, " ++
    "speed <mps>, drop, return, follow <on|off>"

/-- An order that is understood: a line, the event, a sound if there is one, and the closing. -/
def order (ctx : Context) (action : String) (params : List (String × Json)) (line : String)
    (sound : Option String) : Run :=
  ctx.answer [line] (.uxv action params :: (sound.map Event.sound).toList ++ [.close])

/-- A position as the detail of an order. -/
def place (name : String) (p : Float × Float) : List (String × Json) :=
  [(name, .obj [("lng", .float p.1), ("lat", .float p.2)])]

/-- Starts the vehicle, at a position when two numbers are given. -/
def start (ctx : Context) : Run :=
  let params := match MapLink.position? ctx.args 1 with
    | some p => place "position" p
    | none => []
  order ctx "start" params "UXV: start" (some "engage")

/-- Sends the vehicle to the centre of a region. -/
def goToRegion (ctx : Context) : Run :=
  match ctx.args[2]? with
  | none => ctx.say "Usage: uxv goto region <key>"
  | some word =>
    let key := Text.lower word
    if key = "" then ctx.say "Usage: uxv goto region <key>"
    else
      match Region.find? ctx.regions key with
      | none => ctx.say ("Unknown region: " ++ key)
      | some region =>
        order ctx "goto" (place "target" region.center) ("UXV: target set to " ++ key)
          (some "navigate")

/-- Sends the vehicle to a position or, after the word `region`, to a region. -/
def goto (ctx : Context) : Run :=
  if ctx.args[1]?.map Text.lower = some "region" then goToRegion ctx
  else
    match MapLink.position? ctx.args 1 with
    | none => ctx.say "Usage: uxv goto <lng> <lat>"
    | some p =>
      order ctx "goto" (place "target" p)
        ("UXV: target set to " ++ Decimal.brief p.1 ++ ", " ++ Decimal.brief p.2)
        (some "navigate")

/-- Sets the speed of the vehicle. -/
def speed (ctx : Context) : Run :=
  match MapLink.argument? ctx.args 1 with
  | none => ctx.say "Usage: uxv speed <mps>"
  | some v =>
    order ctx "speed" [("speed", .float v)] ("UXV: speed " ++ Decimal.brief v ++ " m/s") none

/-- Makes the camera follow the vehicle, or stop doing so. -/
def follow (ctx : Context) : Run :=
  match (ctx.args[1]?.map Text.lower).getD "" with
  | "on" => order ctx "follow" [("follow", .bool true)] "UXV: follow on" none
  | "off" => order ctx "follow" [("follow", .bool false)] "UXV: follow off" none
  | _ => ctx.say "Usage: uxv follow <on|off>"

/-- Drives the vehicle. -/
def uxv (ctx : Context) : Run :=
  match (ctx.args[0]?.map Text.lower).getD "" with
  | "" | "help" => ctx.say helpLine
  | "start" => start ctx
  | "stop" => order ctx "stop" [] "UXV: stop" none
  | "goto" => goto ctx
  | "speed" => speed ctx
  | "drop" => order ctx "drop" [] "UXV: payload drop" none
  | "return" => order ctx "return" [] "UXV: return to base" none
  | "follow" => follow ctx
  | other => ctx.say ("UXV: unknown subcommand '" ++ other ++ "'")

end MissionConsole.Vehicle
