import MissionConsole.Command.Basic
import MissionConsole.Filesystem.Layout
import MissionConsole.Text.Lines

/-!
# System and file commands

The commands that every shell has: help, login, walking the file tree, and some answers that only
look like a system's. Bad arguments are answered with one line.

The restricted part of the tree is guarded where content is shown: `cat` refuses it to everyone but
root, after the path has been made canonical and after the documents have been tried.

## Main definitions

* `System.restricted` — the paths that only root may read
* `System.help`, `System.login`, … — the handlers
-/

namespace MissionConsole.System

/-! ### Help, screen and login -/

/-- The groups of commands and their headings, in the order in which help lists them. -/
def helpGroups : List (String × String) :=
  [("core", "Commands"), ("linux", "Linux-ish"), ("map", "Map link"), ("eggs", "Eggs")]

/-- The usages of the commands of a group under its heading; an empty group has no line. -/
def helpLine (commands : List Command) (group : String × String) : Option String :=
  match commands.filter fun c => !c.hidden && c.group == group.1 with
  | [] => none
  | members => some (group.2 ++ ": " ++ ", ".intercalate (members.map (·.usage)))

/-- Lists the commands by group. -/
def help (ctx : Context) : Run :=
  ctx.answer (helpGroups.filterMap (helpLine ctx.commands)) []

/-- Clears the screen. -/
def clear (ctx : Context) : Run := ctx.answer [] [.clear]

/-- Ends the session. -/
def close (ctx : Context) : Run := ctx.answer ["Session closed."] [.close]

/-- Asks for the password, unless the visitor is root. -/
def login (ctx : Context) : Run :=
  if ctx.session.isRoot then ctx.say "Already logged in as admin."
  else { ctx.say "Password:" with session := { ctx.session with auth := .awaitingPassword } }

/-! ### The file tree -/

/-- The paths that only root may read; so is all that lies below them. -/
def restricted : List String := ["/secrets"]

/-- Whether a path is restricted. -/
def isRestricted (path : String) : Bool := restricted.any (Path.isWithin path ·)

/-- Shows the working directory. -/
def pwd (ctx : Context) : Run := ctx.say ctx.session.cwd

/-- Changes the working directory; without an argument to the root. -/
def cd (ctx : Context) : Run :=
  let target := ctx.args.headD "/"
  let path := ctx.resolve target
  if ctx.files.isDirectory path then
    { ctx.answer [] [] with session := { ctx.session with cwd := path } }
  else if ctx.files.exists? path then ctx.say ("cd: not a directory: " ++ target)
  else ctx.say ("cd: no such file or directory: " ++ target)

/-- Lists a directory on one line; without an argument the working directory. -/
def ls (ctx : Context) : Run :=
  let target := ctx.args.headD "."
  let path := ctx.resolve target
  match ctx.files.list? path with
  | some [] => ctx.answer [] []
  | some names => ctx.say ("  ".intercalate names)
  | none =>
    if ctx.files.exists? path then
      ctx.say ("ls: cannot access '" ++ target ++ "': Not a directory")
    else ctx.say ("ls: cannot access '" ++ target ++ "': No such file or directory")

/-- The path that `cat` shows for an argument: a bare name that is not there is looked up among the
documents. -/
def catPath (ctx : Context) (arg : String) : String :=
  let path := ctx.resolve arg
  if !ctx.files.exists? path && !Text.contains arg "/" then Path.resolve Layout.docsDir arg
  else path

/-- The lines of a file; a file without lines is shown as one empty line. -/
def shownLines (content : String) : List String :=
  match Text.lines content with
  | [] => [""]
  | lines => lines

/-- Shows a file. -/
def cat (ctx : Context) : Run :=
  match ctx.args with
  | [] => ctx.fail
  | arg :: _ =>
    let path := catPath ctx arg
    if !ctx.session.isRoot && isRestricted path then
      ctx.say ("cat: " ++ arg ++ ": Permission denied")
    else
      match ctx.files.read? path with
      | some content => ctx.answer (shownLines content) []
      | none =>
        if ctx.files.isDirectory path then ctx.say ("cat: " ++ arg ++ ": Is a directory")
        else ctx.say ("cat: " ++ arg ++ ": No such file")

/-! ### Answers of a system -/

/-- Shows the name of the visitor. -/
def whoami (ctx : Context) : Run := ctx.say ctx.session.username

/-- Shows the name of the system, in full when asked for it. -/
def uname (ctx : Context) : Run :=
  ctx.say (if ctx.args.head? = some "-a" then Settings.systemName else "Linux")

/-- Shows the date. Fails when the clock does. -/
def date (ctx : Context) : Run :=
  match ctx.clock with
  | .ok now => ctx.say now
  | .error _ => ctx.fail

/-- Shows its arguments. -/
def echo (ctx : Context) : Run := ctx.say (" ".intercalate ctx.args)

/-- Has no manual to show. -/
def man (ctx : Context) : Run := ctx.say "No manual entry. This is not a real shell."

/-- Refuses; trying to become root this way raises an alert. -/
def superuser (ctx : Context) : Run :=
  if ctx.args.head?.map Text.lower = some "su" then
    ctx.answer ["sudo: Authentication failure"] [.alert ctx.profile.alertDurationMs]
  else ctx.say "sudo: permission denied"

end MissionConsole.System
