import MissionConsole.Launch.Help
import MissionConsole.Launch.Options

/-!
# Launching

The options decide which hosts are started. The dashboard runs beside another host, or in front when
there is none; the local shell comes before the remote host. Nothing runs without a profile, but an
address or credentials may be left without a value.

## Main definitions

* `Front` — the host that runs in front
* `Plan` — what is started
* `Options.front?`, `Options.sideDashboard?` — the hosts that the options ask for
* `Launch.decide` — what a command line leads to
-/

namespace MissionConsole

/-- The host that runs in front. -/
inductive Front where
  | localShell
  | dashboard (port : Option Int)
  | remote (host : Option String) (port : Option Int) (user password : Option String)
  deriving DecidableEq, Inhabited

/-- A dashboard that runs beside the host in front. -/
structure Plan.Dashboard where
  port : Option Int
  deriving DecidableEq, Inhabited

/-- What is started. -/
structure Plan where
  profile : String
  sideDashboard : Option Plan.Dashboard
  front : Front
  deriving DecidableEq, Inhabited

/-- The address that the dashboard is served at. -/
def dashboardHost : String := "0.0.0.0"

/-- What is said when a dashboard is started. A missing port shows as an empty list. -/
def dashboardAnnouncement (port : Option Int) : String :=
  "[*] Dashboard  → http://" ++ dashboardHost ++ ":" ++ ((port.map toString).getD "[]") ++ "\n"

/-- The host that the options put in front; none when no host is left to run. -/
def Options.front? (o : Options) : Option Front :=
  if o.localShell then some .localShell
  else if o.dashboard && o.noRemote then some (.dashboard o.dashboardPort)
  else if o.noRemote then none
  else if o.openAccess then some (.remote o.host o.port (some "") (some ""))
  else some (.remote o.host o.port o.user o.password)

/-- Whether the dashboard is wanted and is not the host in front. -/
def Options.sideDashboard? (o : Options) : Option Plan.Dashboard :=
  if o.dashboard && (o.localShell || !o.noRemote) then some ⟨o.dashboardPort⟩ else none

namespace Launch

/-- What a command line leads to. -/
inductive Decision where
  /-- Print the help. -/
  | help
  /-- Refuse; `started` tells whether logging was set up before. -/
  | refuse (error : UsageError) (started : Bool)
  /-- Fail, for the profile was left without a name. -/
  | profileMissing
  | run (plan : Plan)
  deriving Inhabited

/-- What a command line leads to. -/
def decide (s : Settings) (arguments : List String) : Decision :=
  match Options.parse s arguments with
  | .error e => .refuse e false
  | .ok .help => .help
  | .ok (.run o) =>
    match o.profile, o.front? with
    | none, _ => .profileMissing
    | some _, none => .refuse .nothingToRun true
    | some profile, some front => .run ⟨profile, o.sideDashboard?, front⟩

/-- The exit code of a refused command line. -/
def refusedExit : Int := 2

/-- What is written when a command line is refused. -/
def refusal (e : UsageError) : String :=
  Help.usage ++ Help.program ++ ": error: " ++ e.message ++ "\n"

end Launch

end MissionConsole
