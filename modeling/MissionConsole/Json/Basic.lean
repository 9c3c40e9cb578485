/-!
# Structured values

Audit records, events and answers are exchanged as structured values. An object keeps its fields in
the order in which they were put.

## Main definitions

* `Number` — a whole or a floating-point number
* `Json` — a structured value
* `Json.field?` — the value of a field
-/

namespace MissionConsole

/-- A number: written without a point when it is whole, as a decimal otherwise. -/
inductive Number where
  | int (n : Int)
  | float (x : Float)
  deriving Inhabited

/-- A structured value. The fields of an object are in order, and their names differ. -/
inductive Json where
  | null
  | bool (b : Bool)
  | num (n : Number)
  | str (s : String)
  | arr (items : List Json)
  | obj (fields : List (String × Json))
  deriving Inhabited

namespace Json

/-- A whole number as a value. -/
def int (n : Int) : Json := .num (.int n)

/-- A floating-point number as a value. -/
def float (x : Float) : Json := .num (.float x)

/-- A list of texts as a value. -/
def strs (xs : List String) : Json := .arr (xs.map .str)

/-- The value of a field of an object. -/
def field? (name : String) : Json → Option Json
  | .obj fields => (fields.find? (·.1 == name)).map (·.2)
  | _ => none

end Json

end MissionConsole
