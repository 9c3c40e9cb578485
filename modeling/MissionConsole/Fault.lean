/-!
# Faults

Sockets, keys, the transport and the clock below the console may fail. What the console does about
it depends on the kind of failure only.

## Main definitions

* `Fault` — a failure of what lies below the console
* `Fault.isHangUp` — failures that count as the visitor's leaving
* `Fault.durationTooLong` — the failure of a clock that cannot tell a duration
-/

namespace MissionConsole

/-- The kinds of failure that are told apart. -/
inductive Fault.Kind where
  /-- The operating system failed a call. -/
  | system
  /-- It did so because a file is not there. -/
  | missingFile
  /-- It did so because something is not permitted. -/
  | notPermitted
  /-- There is nothing more to read. -/
  | endOfStream
  /-- The transport's protocol was broken. -/
  | protocol
  /-- A number is out of range. -/
  | outOfRange
  /-- The program is told to stop. -/
  | interrupt
  /-- Anything else. -/
  | other
  deriving DecidableEq, Inhabited

/-- A failure of what lies below the console, with the name and the text that it came with. -/
structure Fault where
  kind : Fault.Kind
  name : String
  message : String
  deriving DecidableEq, Inhabited

namespace Fault

/-- Failures of the operating system. -/
def isSystem (f : Fault) : Bool :=
  f.kind == .system || f.kind == .missingFile || f.kind == .notPermitted

/-- While bytes are received, these failures mean that the visitor has left. -/
def isHangUp (f : Fault) : Bool :=
  f.isSystem || f.kind == .endOfStream || f.kind == .protocol

/-- Failures that are dealt with where they occur; an order to stop is not. -/
def isOrdinary (f : Fault) : Bool := f.kind != .interrupt

/-- A duration is longer than the clock can tell. -/
def durationTooLong : Fault := ⟨.outOfRange, "", "int too large to convert to float"⟩

end Fault

end MissionConsole
