import MissionConsole.Command.Registry
import MissionConsole.Command.System
import MissionConsole.Command.Vehicle
import MissionConsole.Command.Eggs

/-!
# The built-in commands

## Main definitions

* `Builtin` — the built-in commands
* `Builtin.command` — the declaration of each
* `Builtin.run` — what each does
* `Registry.standard` — the registry of the built-in commands
-/

namespace MissionConsole

/-- The built-in commands. -/
inductive Builtin where
  | help
  | clear
  | close
  | login
  | pwd
  | cd
  | ls
  | cat
  | whoami
  | uname
  | date
  | echo
  | man
  | superuser
  | regions
  | companies
  | goto
  | hq
  | zoom
  | center
  | scan
  | uxv
  | eggs
  | trigger
  | unlockAll
  deriving DecidableEq

namespace Builtin

/-- The built-in commands in the order of their registration. -/
def all : List Builtin :=
  [.help, .clear, .close, .login, .pwd, .cd, .ls, .cat, .whoami, .uname, .date, .echo, .man,
    .superuser, .regions, .companies, .goto, .hq, .zoom, .center, .scan, .uxv, .eggs, .trigger,
    .unlockAll]

/-- A command without arguments, aliases or limits. -/
def plain (group name usage description : String) : Command :=
  ⟨name, usage, description, 0, false, [], false, group⟩

/-- The declaration of a built-in command. -/
def command : Builtin → Command
  | .help => plain "core" "help" "help" "Show available commands"
  | .clear => { plain "core" "clear" "clear" "Clear terminal screen" with aliases := ["cls"] }
  | .close => { plain "core" "close" "close" "Close terminal" with aliases := ["exit"] }
  | .login => plain "core" "login" "login" "Login to admin account"
  | .pwd => plain "linux" "pwd" "pwd" "Print working directory"
  | .cd => plain "linux" "cd" "cd <dir>" "Change directory"
  | .ls => plain "linux" "ls" "ls [dir]" "List directory contents"
  | .cat => { plain "linux" "cat" "cat <file>" "Display file contents" with minArgs := 1 }
  | .whoami => plain "linux" "whoami" "whoami" "Print current user"
  | .uname => plain "linux" "uname" "uname -a" "System information"
  | .date => plain "linux" "date" "date" "Display current date and time"
  | .echo => plain "linux" "echo" "echo <txt>" "Display text"
  | .man => { plain "linux" "man" "man <cmd>" "Display manual pages" with minArgs := 1 }
  | .superuser => plain "linux" "sudo" "sudo su" "Execute as superuser"
  | .regions => plain "map" "regions" "regions" "List map regions"
  | .companies => plain "map" "companies" "companies" "List companies from resume"
  | .goto =>
    { plain "map" "goto" "goto <key> | goto hq <company>" "Fly to a region or a company HQ" with
      minArgs := 1 }
  | .hq => { plain "map" "hq" "hq <company>" "Navigate to company HQ" with minArgs := 1 }
  | .zoom => plain "map" "zoom" "zoom <n>" "Set map zoom"
  | .center => plain "map" "center" "center <lng> <lat>" "Center map"
  | .scan => plain "map" "scan" "scan" "Sweep sensors and effects"
  | .uxv => plain "map" "uxv" "uxv <subcmd>" "Drive the unmanned vehicle"
  | .eggs => plain "eggs" "eggs" "eggs" "List available easter eggs"
  | .trigger =>
    { plain "eggs" "trigger" "trigger <name>" "Trigger an easter egg effect" with minArgs := 1 }
  | .unlockAll =>
    { plain "eggs" "unlock-all" "unlock-all" "Unlock all easter eggs (requires admin)" with
      rootOnly := true
      hidden := true }

/-- What a built-in command does. -/
def run : Builtin → Handler
  | .help => System.help
  | .clear => System.clear
  | .close => System.close
  | .login => System.login
  | .pwd => System.pwd
  | .cd => System.cd
  | .ls => System.ls
  | .cat => System.cat
  | .whoami => System.whoami
  | .uname => System.uname
  | .date => System.date
  | .echo => System.echo
  | .man => System.man
  | .superuser => System.superuser
  | .regions => MapLink.regions
  | .companies => MapLink.companies
  | .goto => MapLink.goto
  | .hq => MapLink.hq
  | .zoom => MapLink.zoom
  | .center => MapLink.center
  | .scan => MapLink.scan
  | .uxv => Vehicle.uxv
  | .eggs => Eggs.list
  | .trigger => Eggs.trigger
  | .unlockAll => Eggs.unlockAll

end Builtin

/-- The registry of the built-in commands. -/
def Registry.standard : Registry :=
  ⟨Builtin.all.map fun b => ⟨b.command, b.run⟩⟩

end MissionConsole
