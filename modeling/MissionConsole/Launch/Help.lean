/-!
# Usage and help

## Main definitions

* `Help.usage` — how the program is called
* `Help.text` — what the option for help prints
-/

namespace MissionConsole.Help

/-- The name of the program in messages. -/
def program : String := "main.py"

/-- How the program is called. -/
def usage : String :=
  "usage: " ++ program ++ " [-h] [--host HOST] [--port PORT] [--user USER]\n" ++
  "               [--pass PASSWORD] [--open] [--profile \x7bbriefing,map\x7d] [--local]\n" ++
  "               [--no-ssh] [--dashboard] [--dashboard-port DASHBOARD_PORT]\n"

/-- What the option for help prints. -/
def text : String :=
  usage ++
  "\nMission Control terminal\n\noptions:\n" ++
  "  -h, --help            show this help message and exit\n" ++
  "  --host HOST           SSH bind address\n" ++
  "  --port PORT           SSH bind port\n" ++
  "  --user USER           Expected SSH username\n" ++
  "  --pass PASSWORD       Expected SSH password\n" ++
  "  --open                Accept any SSH credentials\n" ++
  "  --profile \x7bbriefing,map\x7d\n" ++
  "                        Terminal flavour\n" ++
  "  --local               Run one terminal on this tty\n" ++
  "  --no-ssh              Do not start the SSH listener\n" ++
  "  --dashboard           Start web API on --dashboard-port\n" ++
  "  --dashboard-port DASHBOARD_PORT\n" ++
  "                        Dashboard port (default 5000)\n"

end MissionConsole.Help
