import MissionConsole.Audit.Journal

/-!
# Log files

Each channel has a file that grows line by line. A file that would reach its size limit is put away
as the first backup before the next line is written; the backups move up by one, and the oldest one
beyond the allowed count is dropped.

## Main definitions

* `LogFile`, `LogFile.write` — a file with its backups, and a line added to it
* `LogBook` — the files of the three channels, once they are attached
* `LogBook.files` — the names and contents of all files

## Main results

* `LogBook.configure_configure` — files that are attached are not attached again
-/

namespace MissionConsole

/-- The file of a channel. -/
def Channel.fileName (c : Channel) : String := c.name ++ ".log"

/-- A log file with its backups, newest first. Contents are lists of lines. -/
structure LogFile where
  lines : List String
  backups : List (List String)
  deriving Inhabited

/-- When files are put away. -/
structure Rotation where
  /-- The size that a file may not reach; not positive for no limit. -/
  maxBytes : Int
  backupCount : Int
  deriving Inhabited

/-- Whether a file of a size in bytes is put away before a line is written. The line counts in
characters. An empty file is put away like any other. -/
def Rotation.isDue (r : Rotation) (size : Nat) (line : String) : Bool :=
  decide (0 < r.maxBytes) && decide (r.maxBytes ≤ size + line.length + 1)

namespace LogFile

/-- A new file. -/
def empty : LogFile := ⟨[], []⟩

/-- The size of a content: every line has an end. -/
def sizeOf (lines : List String) : Nat :=
  lines.foldl (fun size line => size + line.utf8ByteSize + 1) 0

/-- Writes a line. Without backups a file just keeps growing. -/
def write (rotation : Rotation) (f : LogFile) (line : String) : LogFile :=
  if rotation.isDue (sizeOf f.lines) line && decide (0 < rotation.backupCount) then
    ⟨[line], (f.lines :: f.backups).take rotation.backupCount.toNat⟩
  else { f with lines := f.lines ++ [line] }

/-- The content of a file as text: every line ends with a line feed. -/
def textOf (lines : List String) : String := String.join (lines.map (· ++ "\n"))

/-- The names and contents of a file and its backups, which are numbered from one. -/
def named (name : String) (f : LogFile) : List (String × String) :=
  (name, textOf f.lines) ::
    f.backups.mapIdx fun i lines => (name ++ "." ++ toString (i + 1), textOf lines)

end LogFile

/-- The files of the three channels; a channel without a file logs nothing. -/
structure LogBook where
  rotation : Rotation
  commands : Option LogFile
  auth : Option LogFile
  system : Option LogFile
  deriving Inhabited

namespace LogBook

/-- No file is attached. -/
def detached (rotation : Rotation) : LogBook := ⟨rotation, none, none, none⟩

/-- Attaches a file to every channel that has none. Doing so again changes nothing. -/
def configure (b : LogBook) : LogBook :=
  { b with
    commands := some (b.commands.getD .empty)
    auth := some (b.auth.getD .empty)
    system := some (b.system.getD .empty) }

/-- Writes a line to the file of its channel. -/
def write (b : LogBook) (line : Journal.LogLine) : LogBook :=
  match line.channel with
  | .commands => { b with commands := b.commands.map (·.write b.rotation line.message) }
  | .auth => { b with auth := b.auth.map (·.write b.rotation line.message) }
  | .system => { b with system := b.system.map (·.write b.rotation line.message) }

/-- The count of files attached to the commands, auth and system channels. -/
def handlers (b : LogBook) : List Nat :=
  [b.commands.toList.length, b.auth.toList.length, b.system.toList.length]

/-- The names and contents of all files. -/
def files (b : LogBook) : List (String × String) :=
  (b.commands.toList.flatMap (LogFile.named Channel.commands.fileName)) ++
    (b.auth.toList.flatMap (LogFile.named Channel.auth.fileName)) ++
      (b.system.toList.flatMap (LogFile.named Channel.system.fileName))

/-- Files that are attached are not attached again. -/
theorem configure_configure (b : LogBook) : b.configure.configure = b.configure := by
  simp [configure]

end LogBook

end MissionConsole
