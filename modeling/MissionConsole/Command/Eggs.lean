import MissionConsole.Command.MapLink

/-!
# Easter eggs

Effects that a visitor can trigger by name, and the one command that unlocks them all, which only
root may run.

## Main definitions

* `Eggs.list`, `Eggs.trigger`, `Eggs.unlockAll` — the handlers
-/

namespace MissionConsole.Eggs

/-- The effects that the map shows on its own. -/
def mapEffects : List String :=
  ["ping", "streak", "aurora", "ring", "radar", "sand", "stars", "neonSweep"]

/-- The time between two effects when all are unlocked, in milliseconds. -/
def unlockStepMs : Int := 180

/-- Lists the effects. -/
def list (ctx : Context) : Run :=
  ctx.answer
    ["Available (screen): " ++ ", ".intercalate MapLink.screenEffects ++ ".",
      "Map (idle/geofence): " ++ ", ".intercalate mapEffects ++ "."] []

/-- Shows an effect of the screen. -/
def trigger (ctx : Context) : Run :=
  match ctx.args with
  | [] => ctx.fail
  | first :: _ =>
    let name := Text.lower first
    if MapLink.screenEffects.contains name then
      ctx.answer ["Triggered: " ++ name] [.effect name 0]
    else ctx.say ("Unknown egg: " ++ name)

/-- Shows and unlocks everything. -/
def unlockAll (ctx : Context) : Run :=
  ctx.answer ["All systems engaged."]
    (MapLink.staggered unlockStepMs ++ [.unlock "easter_hunter"])

end MissionConsole.Eggs
