import MissionConsole.Command.Builtin

/-!
# Looking things up on the web

Visitors may browse the file tree as a guest sees it, and list the commands.

## Main definitions

* `Browser.browse` — what stands at a path
* `Browser.commands` — the commands that are listed
-/

namespace MissionConsole.Browser

/-- What stands at a path, which is shown in its canonical form. -/
inductive Answer where
  | directory (path : String) (names : List String)
  | file (path content : String)
  | denied
  | missing
  deriving DecidableEq, Inhabited

/-- What a guest sees at a path. -/
def browse (files : Filesystem) (path : String) : Answer :=
  let path := Path.canonicalize path
  if System.isRestricted path then .denied
  else
    match files.list? path with
    | some names => .directory path names
    | none =>
      match files.read? path with
      | some content => .file path content
      | none => .missing

/-- The built-in commands that are listed. -/
def commands : List Command := Registry.standard.visible

end MissionConsole.Browser
