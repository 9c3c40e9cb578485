import MissionConsole.Event.Basic

/-!
# The form of an event

Events travel as objects: the kind first, then the details in a fixed order. Details that are not
given are left out, and reading the object back gives the same event.

## Main definitions

* `Event.form` — the object of an event
* `Event.ofForm?` — the event of an object
-/

namespace MissionConsole.Event

/-- A detail that may be missing. -/
def optional (name : String) (value : Option Json) : List (String × Json) :=
  match value with
  | some v => [(name, v)]
  | none => []

/-- The details of an event, without those that are not given. -/
def details : Event → List (String × Json)
  | .alert durationMs => [("duration_ms", .int durationMs)]
  | .unlock id => [("id", .str id)]
  | .clear => []
  | .navigate target center zoom durationMs =>
    ("target", .str target) ::
      optional "center" (center.map fun c => .arr [.num c.1, .num c.2]) ++
      optional "zoom" (zoom.map .num) ++
      optional "duration_ms" (durationMs.map .int)
  | .uxv action params => [("action", .str action), ("params", .obj params)]
  | .sound name => [("name", .str name)]
  | .effect name delayMs => [("name", .str name), ("delay_ms", .int delayMs)]
  | .close => []

/-- The object of an event. -/
def form (e : Event) : Json := .obj (("kind", .str e.kind.name) :: details e)

/-! ### Reading -/

/-- A text among the fields of an object. -/
def textField? (name : String) (v : Json) : Option String :=
  match v.field? name with
  | some (.str s) => some s
  | _ => none

/-- A whole number among the fields of an object. -/
def intField? (name : String) (v : Json) : Option Int :=
  match v.field? name with
  | some (.num (.int n)) => some n
  | _ => none

/-- A number among the fields of an object. -/
def numberField? (name : String) (v : Json) : Option Number :=
  match v.field? name with
  | some (.num n) => some n
  | _ => none

/-- A pair of numbers among the fields of an object. -/
def pairField? (name : String) (v : Json) : Option (Number × Number) :=
  match v.field? name with
  | some (.arr [.num a, .num b]) => some (a, b)
  | _ => none

/-- The fields of an object among the fields of an object; none when there is no such field. -/
def fieldsField (name : String) (v : Json) : List (String × Json) :=
  match v.field? name with
  | some (.obj fields) => fields
  | _ => []

/-- The event of an object. -/
def ofForm? (v : Json) : Option Event := do
  match ← textField? "kind" v with
  | "alert" => (intField? "duration_ms" v).map .alert
  | "unlock" => (textField? "id" v).map .unlock
  | "clear" => some .clear
  | "navigate" =>
    let target ← textField? "target" v
    some (.navigate target (pairField? "center" v) (numberField? "zoom" v)
      (intField? "duration_ms" v))
  | "uxv" => (textField? "action" v).map (.uxv · (fieldsField "params" v))
  | "sound" => (textField? "name" v).map .sound
  | "effect" =>
    (textField? "name" v).map (.effect · ((intField? "delay_ms" v).getD 0))
  | "close" => some .close
  | _ => none

end MissionConsole.Event
