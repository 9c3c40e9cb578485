import MissionConsole.Event.Basic
import MissionConsole.Filesystem.Basic
import MissionConsole.Profile
import MissionConsole.Region
import MissionConsole.Session

/-!
# Commands

A command is a declaration — names, usage, how many arguments it needs, who may run it — and a
handler. The handler is given all that a command may look at and answers with lines, events and the
session as it leaves it; it may also fail on the way.

## Main definitions

* `Command` — the declaration of a command
* `Reply` — the lines and events that a line is answered with
* `Context` — all that a handler may look at
* `Run` — what a handler has done when it stops
* `Handler` — what a command does
-/

namespace MissionConsole

/-- The declaration of a command. -/
structure Command where
  name : String
  usage : String
  description : String
  /-- The least count of arguments. -/
  minArgs : Int
  rootOnly : Bool
  aliases : List String
  /-- Hidden commands are not listed. -/
  hidden : Bool
  /-- The group under which the command is listed. -/
  group : String
  deriving DecidableEq, Inhabited

namespace Command

/-- The name and the aliases. -/
def names (c : Command) : List String := c.name :: c.aliases

/-- Fills in what is left empty: the usage is the name, the description the handler's own note. -/
def withDefaults (c : Command) (note : String) : Command :=
  { c with
    usage := if c.usage = "" then c.name else c.usage
    description := if c.description = "" then Text.trim note else c.description }

end Command

/-- The lines and events that a line is answered with. -/
structure Reply where
  lines : List String
  events : List Event
  deriving Inhabited

/-- All that a handler may look at. -/
structure Context where
  /-- The name under which the command is declared, whatever alias was used. -/
  name : String
  args : List String
  session : Session
  files : Filesystem
  profile : Profile
  regions : List Region
  companies : List String
  /-- The date as it is shown, or the failure of the clock. -/
  clock : Except String String
  /-- The declared commands in order. -/
  commands : List Command

/-- What a handler has done when it stops, be it that it is done or that it failed. -/
structure Run where
  session : Session
  lines : List String
  events : List Event
  failed : Bool
  deriving Inhabited

/-- What a command does. -/
abbrev Handler := Context → Run

namespace Context

/-- Stops with lines and events; the session stays as it is. -/
def answer (ctx : Context) (lines : List String) (events : List Event) : Run :=
  ⟨ctx.session, lines, events, false⟩

/-- Stops with one line. -/
def say (ctx : Context) (line : String) : Run := ctx.answer [line] []

/-- Fails before anything is done. -/
def fail (ctx : Context) : Run := ⟨ctx.session, [], [], true⟩

/-- A path as seen from the working directory. -/
def resolve (ctx : Context) (path : String) : String := Path.resolve ctx.session.cwd path

end Context

end MissionConsole
