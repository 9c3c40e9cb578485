import MissionConsole.Filesystem.Basic
import MissionConsole.Region

/-!
# The files of the console

The tree that every session sees: a greeting, the usual system directories, documents that list the
map's regions and the known companies, a guide and a restricted file.

## Main definitions

* `Layout.docsDir` — where bare file names are looked up as a second choice
* `Layout.entries` — what the tree holds, in order
* `Filesystem.standard` — the tree for given regions and companies
-/

namespace MissionConsole

namespace Layout

/-- The directory of documents. -/
def docsDir : String := "/docs"

/-- The system directories, which are empty unless something is put there. -/
def systemDirs : List String :=
  ["/bin", "/boot", "/dev", "/etc", "/home", "/usr", "/var", "/tmp", "/opt", "/sys", "/proc"]

/-- The greeting. -/
def readme : String := "Welcome to Mission Control. Type help for commands."

/-- The guide to hidden systems. -/
def guide : String :=
  "Mission Control — Hidden Systems\n\nKeys:\n- Konami: Toggle Matrix rain\n- U: UFO fleet\n" ++
  "- D: Paw burst\n- G: Glitch header\n- P: Neon pulse\n- H: Hiking mode\n- V: Scanlines\n" ++
  "- B: UFO beam\n\nTerminals:\n- Map: regions, companies, goto, hq, probe\n" ++
  "- Briefing: eggs, trigger, puzzle\n"

/-- The restricted text. -/
def secrets : String :=
  "CLASSIFIED // EYES ONLY\nOperator clearance confirmed.\n" ++
  "Hidden verbs: unlock-all, uxv, probe, puzzle.\nWatch the skies."

/-- The names of companies on one line. -/
def companyLine (companies : List String) : String :=
  let line := ", ".intercalate companies
  if line = "" then "(none)" else line

/-- An entry to be made: a directory, or a file with its content. -/
inductive Entry where
  | dir (path : String)
  | file (path content : String)

/-- What the tree holds, in the order in which it is made. -/
def entries (regions : List Region) (companies : List String) : List Entry :=
  .file "/README.txt" readme :: systemDirs.map .dir ++
    [.file (docsDir ++ "/regions.txt") ("\n".intercalate (regions.map (·.key))),
      .file (docsDir ++ "/companies.txt") (companyLine companies),
      .file "/opt/easter-eggs.md" guide,
      .file "/secrets" secrets]

end Layout

namespace Filesystem

/-- The tree with an entry added. -/
def add (fs : Filesystem) : Layout.Entry → Except FilesystemError Filesystem
  | .dir path => fs.addDir path
  | .file path content => fs.addFile path content

/-- The tree with entries added in order. -/
def addAll (fs : Filesystem) (entries : List Layout.Entry) : Except FilesystemError Filesystem :=
  entries.foldlM add fs

/-- The tree for given regions and companies. All its paths are free, so no entry fails. -/
def standard (regions : List Region) (companies : List String) : Filesystem :=
  match empty.addAll (Layout.entries regions companies) with
  | .ok fs => fs
  | .error _ => empty

end Filesystem

end MissionConsole
