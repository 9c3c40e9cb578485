import MissionConsole.Json.Basic

/-!
# Events

Commands never act on the map, the sound or the screen themselves. They answer with events, and the
host carries them out.

## Main definitions

* `Event` — the eight kinds of side effect
* `Event.Kind`, `Event.kind` — the kind of an event
* `Event.endsSession` — whether the events of a reply end the session
-/

namespace MissionConsole

/-- A side effect that the host is asked for. -/
inductive Event where
  /-- An intrusion alert for a while. -/
  | alert (durationMs : Int)
  /-- An achievement. -/
  | unlock (id : String)
  /-- Clear the screen. -/
  | clear
  /-- Move the map. What is not given stays as it is. -/
  | navigate (target : String) (center : Option (Number × Number)) (zoom : Option Number)
      (durationMs : Option Int)
  /-- Drive the unmanned vehicle. -/
  | uxv (action : String) (params : List (String × Json))
  /-- Play a sound. -/
  | sound (name : String)
  /-- Show a visual effect after a delay. -/
  | effect (name : String) (delayMs : Int)
  /-- Close the console, or hide it when the map is to be seen. -/
  | close
  deriving Inhabited

namespace Event

/-- The kinds of event. -/
inductive Kind where
  | alert
  | unlock
  | clear
  | navigate
  | uxv
  | sound
  | effect
  | close
  deriving DecidableEq, Inhabited

/-- The name of a kind. -/
def Kind.name : Kind → String
  | .alert => "alert"
  | .unlock => "unlock"
  | .clear => "clear"
  | .navigate => "navigate"
  | .uxv => "uxv"
  | .sound => "sound"
  | .effect => "effect"
  | .close => "close"

/-- The kind of an event. -/
def kind : Event → Kind
  | .alert _ => .alert
  | .unlock _ => .unlock
  | .clear => .clear
  | .navigate _ _ _ _ => .navigate
  | .uxv _ _ => .uxv
  | .sound _ => .sound
  | .effect _ _ => .effect
  | .close => .close

/-- A close event ends the session unless the map or the vehicle moves with it, for then the
console is only hidden. -/
def endsSession (events : List Event) : Bool :=
  events.any (·.kind == .close) &&
    !events.any fun e => e.kind == .navigate || e.kind == .uxv

end Event

end MissionConsole
