import MissionConsole.Proofs.Access.Browsing
import MissionConsole.Proofs.Filesystem.Addition

/-!
# What stands at a path, told by three commands

`cd`, `ls` and `cat` ask the tree in different ways, and `cat` looks twice. Each of them tells what
stands at the path that its argument is resolved to: a directory, a file or nothing. So the three
never contradict one another, whatever the working directory is and however the path is spelled;
where `cat` looks among the documents it tells what stands there.

## Main definitions

* `System.cdLines`, `System.lsLines`, `System.catLines` — what each command writes of a node
* `Dispatcher.TellsAlike` — the three commands tell one thing of an argument

## Main results

* `System.cd_of_arg`, `System.ls_of_arg`, `System.cat_of_root` — each command tells what stands
  where it looks
* `System.cat_of_open` — what everyone is shown
* `Dispatcher.paths_told_alike` — all three commands, for every argument
-/

namespace MissionConsole

/-! ### Canonical paths -/

namespace Filesystem

variable (files : Filesystem) (path : String)

theorem node?_canonicalize : files.node? (Path.canonicalize path) = files.node? path := by
  rw [node?_eq_at?, node?_eq_at?, Path.way_canonicalize]

theorem read?_canonicalize : files.read? (Path.canonicalize path) = files.read? path := by
  rw [read?, read?, node?_canonicalize]

end Filesystem

/-! ### The commands -/

namespace System

variable {ctx : Context} {arg : String}

/-- What `cd` writes of what stands at a path, under the name it was asked for. -/
def cdLines (name : String) : Option Node → List String
  | some (.dir _) => []
  | some (.file _) => ["cd: not a directory: " ++ name]
  | none => ["cd: no such file or directory: " ++ name]

/-- What `ls` writes of what stands at a path, under the name it was asked for. -/
def lsLines (name : String) : Option Node → List String
  | some (.dir entries) => if entries = [] then [] else ["  ".intercalate (entries.map (·.1))]
  | some (.file _) => ["ls: cannot access '" ++ name ++ "': Not a directory"]
  | none => ["ls: cannot access '" ++ name ++ "': No such file or directory"]

/-- What `cat` writes of what stands at a path, under the name it was asked for. -/
def catLines (name : String) : Option Node → List String
  | some (.dir _) => ["cat: " ++ name ++ ": Is a directory"]
  | some (.file content) => shownLines content
  | none => ["cat: " ++ name ++ ": No such file"]

theorem cd_of_arg (hargs : ctx.args = [arg]) :
    (cd ctx).lines = cdLines arg (ctx.files.node? (ctx.resolve arg)) ∧ (cd ctx).events = [] := by
  rw [cd, hargs, List.headD_cons, Filesystem.isDirectory, Filesystem.exists?]
  rcases ctx.files.node? (ctx.resolve arg) with - | (content | entries) <;> exact ⟨rfl, rfl⟩

theorem ls_of_arg (hargs : ctx.args = [arg]) :
    (ls ctx).lines = lsLines arg (ctx.files.node? (ctx.resolve arg)) ∧ (ls ctx).events = [] := by
  rw [ls, hargs, List.headD_cons, Filesystem.list?, Filesystem.exists?]
  rcases ctx.files.node? (ctx.resolve arg) with - | (content | entries)
  · exact ⟨rfl, rfl⟩
  · exact ⟨rfl, rfl⟩
  -- An empty directory is no line, rather than an empty one.
  · cases entries <;> exact ⟨rfl, rfl⟩

/-- Behind the guard, `cat` tells what stands at the path that it shows. -/
theorem cat_of_root (hargs : ctx.args = [arg]) (hroot : ctx.session.isRoot = true) :
    (cat ctx).lines = catLines arg (ctx.files.node? (catPath ctx arg)) ∧ (cat ctx).events = [] := by
  have hopen : (!ctx.session.isRoot && isRestricted (catPath ctx arg)) = false := by
    rw [hroot, Bool.not_true, Bool.false_and]
  rw [cat, hargs]
  dsimp only
  rw [hopen, if_neg Bool.false_ne_true, Filesystem.read?, Filesystem.isDirectory]
  -- What is read and what is a directory are both told from the node.
  generalize ctx.files.node? (catPath ctx arg) = node
  rcases node with - | (content | entries) <;> exact ⟨rfl, rfl⟩

/-- Everyone is shown a file whose path is open. -/
theorem cat_of_open (hargs : ctx.args = [arg]) (habsolute : Text.startsWith arg "/" = true)
    (hopen : isRestricted (Path.canonicalize arg) = false) {content : String}
    (hread : ctx.files.read? arg = some content) :
    (cat ctx).lines = shownLines content ∧ (cat ctx).events = [] := by
  -- `cat` reads the canonical path, whose file is the same.
  rw [← ctx.files.read?_canonicalize] at hread
  rw [cat, hargs]
  dsimp only
  rw [catPath_of_absolute habsolute, hopen, Bool.and_false, if_neg Bool.false_ne_true, hread]
  exact ⟨rfl, rfl⟩

/-- What is there, and what is not named by a bare name, is shown where it is. -/
theorem catPath_of_found
    (h : ctx.files.node? (ctx.resolve arg) ≠ none ∨ Text.contains arg "/" = true) :
    catPath ctx arg = ctx.resolve arg := by
  rw [catPath, Filesystem.exists?]
  rcases h with hnode | hslash
  · simp [Option.isSome_iff_ne_none.2 hnode]
  · simp [hslash]

/-- A bare name that is not there is looked up among the documents. -/
theorem catPath_of_missing (hnode : ctx.files.node? (ctx.resolve arg) = none)
    (hbare : Text.contains arg "/" = false) :
    catPath ctx arg = Path.resolve Layout.docsDir arg := by
  rw [catPath, Filesystem.exists?, hnode, hbare]
  rfl

end System

/-! ### Paths to documents -/

/-- The path of a document is a word when its name is one. -/
theorem Text.IsWord.docs {arg : String} (h : IsWord arg) : IsWord ("/docs/" ++ arg) := by
  refine ⟨by simp, fun c hc => ?_⟩
  rw [String.toList_append] at hc
  rcases List.mem_append.1 hc with hdir | harg
  · exact not_blank_of_any (by decide) c hdir
  · exact h.not_blank c harg

/-- A bare name is resolved among the documents to the path that is written with both. -/
theorem Path.resolve_docsDir {arg : String} (hbare : Text.contains arg "/" = false) :
    resolve Layout.docsDir arg = canonicalize ("/docs/" ++ arg) := by
  -- A name that starts with a slash is not bare.
  have hrelative : Text.startsWith arg "/" = false := by
    rw [← Bool.not_eq_true]
    intro h
    rw [Text.contains_of_startsWith h] at hbare
    exact Bool.false_ne_true hbare.symm
  exact resolve_of_relative Layout.docsDir hrelative

/-! ### What the three commands tell -/

namespace Dispatcher

/-- What the three commands answer when their argument is `arg`, told from what stands at the path
that it is resolved to. -/
structure TellsAlike (d : Dispatcher) (files : Filesystem) (s : Session) (arg : String) : Prop where
  /-- A directory is gone to and listed. -/
  directory : ∀ entries, files.node? (Path.resolve s.cwd arg) = some (.dir entries) →
    (d.dispatch files s ("cd " ++ arg)).session = { s with cwd := Path.resolve s.cwd arg } ∧
      (d.dispatch files s ("cd " ++ arg)).reply = ⟨[], []⟩ ∧
      (d.dispatch files s ("ls " ++ arg)).reply =
        ⟨if entries = [] then [] else ["  ".intercalate (entries.map (·.1))], []⟩
  /-- A file is no directory. -/
  file : ∀ content, files.node? (Path.resolve s.cwd arg) = some (.file content) →
    (d.dispatch files s ("cd " ++ arg)).reply = ⟨["cd: not a directory: " ++ arg], []⟩ ∧
      (d.dispatch files s ("ls " ++ arg)).reply =
        ⟨["ls: cannot access '" ++ arg ++ "': Not a directory"], []⟩
  missing : files.node? (Path.resolve s.cwd arg) = none →
    (d.dispatch files s ("cd " ++ arg)).reply = ⟨["cd: no such file or directory: " ++ arg], []⟩ ∧
      (d.dispatch files s ("ls " ++ arg)).reply =
        ⟨["ls: cannot access '" ++ arg ++ "': No such file or directory"], []⟩
  /-- Nothing but a `cd` to a directory changes the session. -/
  cd_session : files.isDirectory (Path.resolve s.cwd arg) = false →
    (d.dispatch files s ("cd " ++ arg)).session = s
  ls_session : (d.dispatch files s ("ls " ++ arg)).session = s
  cat_session : (d.dispatch files s ("cat " ++ arg)).session = s
  /-- Root is shown what stands there. -/
  cat_found : s.isRoot = true →
    files.node? (Path.resolve s.cwd arg) ≠ none ∨ Text.contains arg "/" = true →
      (d.dispatch files s ("cat " ++ arg)).reply =
        ⟨System.catLines arg (files.node? (Path.resolve s.cwd arg)), []⟩
  /-- Of a bare name that is not there, root is shown what `cat` shows of the document. -/
  cat_missing : s.isRoot = true → files.node? (Path.resolve s.cwd arg) = none →
    Text.contains arg "/" = false →
      (d.dispatch files s ("cat " ++ arg)).reply =
          ⟨System.catLines arg (files.node? ("/docs/" ++ arg)), []⟩ ∧
        (d.dispatch files s ("cat " ++ ("/docs/" ++ arg))).reply =
          ⟨System.catLines ("/docs/" ++ arg) (files.node? ("/docs/" ++ arg)), []⟩

variable {d : Dispatcher} {s : Session} {arg rawLine : String}

/-! ### The lines -/

namespace Invokes

theorem cd_reply (h : d.Invokes s rawLine .cd [arg]) (files : Filesystem) :
    (d.dispatch files s rawLine).reply =
      ⟨System.cdLines arg (files.node? (Path.resolve s.cwd arg)), []⟩ := by
  have hargs : (d.context files s Builtin.cd.command [arg]).args = [arg] := rfl
  obtain ⟨hlines, hevents⟩ := System.cd_of_arg hargs
  rw [h.reply_eq (by decide), Builtin.run, hlines, hevents]
  rfl

theorem ls_reply (h : d.Invokes s rawLine .ls [arg]) (files : Filesystem) :
    (d.dispatch files s rawLine).reply =
      ⟨System.lsLines arg (files.node? (Path.resolve s.cwd arg)), []⟩ := by
  have hargs : (d.context files s Builtin.ls.command [arg]).args = [arg] := rfl
  obtain ⟨hlines, hevents⟩ := System.ls_of_arg hargs
  rw [h.reply_eq (by decide), Builtin.run, hlines, hevents]
  rfl

theorem cat_reply (h : d.Invokes s rawLine .cat [arg]) (hroot : s.isRoot = true)
    (files : Filesystem) :
    (d.dispatch files s rawLine).reply =
      ⟨System.catLines arg
        (files.node? (System.catPath (d.context files s Builtin.cat.command [arg]) arg)), []⟩ := by
  have hargs : (d.context files s Builtin.cat.command [arg]).args = [arg] := rfl
  obtain ⟨hlines, hevents⟩ := System.cat_of_root hargs hroot
  rw [h.reply_eq (by decide), Builtin.run, hlines, hevents]
  rfl

/-- Everyone is shown a file whose path is open. -/
theorem cat_reply_of_open (h : d.Invokes s rawLine .cat [arg])
    (habsolute : Text.startsWith arg "/" = true)
    (hopen : System.isRestricted (Path.canonicalize arg) = false) {files : Filesystem}
    {content : String} (hread : files.read? arg = some content) :
    (d.dispatch files s rawLine).reply = ⟨System.shownLines content, []⟩ := by
  have hargs : (d.context files s Builtin.cat.command [arg]).args = [arg] := rfl
  obtain ⟨hlines, hevents⟩ := System.cat_of_open hargs habsolute hopen hread
  rw [h.reply_eq (by decide), Builtin.run, hlines, hevents]

end Invokes

/-- Whatever the tree, the working directory and an argument without blanks are, the three commands
tell one thing of the path that the argument is resolved to. -/
theorem paths_told_alike (d : Dispatcher) (hd : d.registry = .standard) (files : Filesystem)
    (s : Session) (hs : s.takesCommand = true)
    (hriddle : d.profile.riddle.command ∉ ["cd", "ls", "cat"]) (arg : String)
    (harg : Text.IsWord arg) : d.TellsAlike files s arg := by
  have hfree (name : String) (hname : name ∈ ["cd", "ls", "cat"]) :
      d.profile.riddle.command ≠ name := fun h => hriddle (h ▸ hname)
  have hcd : d.Invokes s ("cd " ++ arg) .cd [arg] :=
    invokes_pair hd hs rfl (hfree "cd" (by decide)) (by decide) rfl harg
  have hls : d.Invokes s ("ls " ++ arg) .ls [arg] :=
    invokes_pair hd hs rfl (hfree "ls" (by decide)) (by decide) rfl harg
  have hcat {word : String} (hword : Text.IsWord word) :
      d.Invokes s ("cat " ++ word) .cat [word] :=
    invokes_pair hd hs rfl (hfree "cat" (by decide)) (by decide) rfl hword
  -- All three look at one tree from one session.
  have hcdReply := hcd.cd_reply files
  have hlsReply := hls.ls_reply files
  refine
    { directory := fun entries hnode => ?directory
      file := fun content hnode => ?file
      missing := fun hnode => ?missing
      cd_session := fun hdirectory => ?cd_session
      ls_session := ?ls_session
      cat_session := ?cat_session
      cat_found := fun hroot hfound => ?cat_found
      cat_missing := fun hroot hnode hbare => ?cat_missing }
  case directory =>
    have hdirectory : files.isDirectory (Path.resolve s.cwd arg) = true :=
      Filesystem.isDirectory_iff.2 ⟨entries, hnode⟩
    rw [hnode] at hcdReply hlsReply
    refine ⟨?_, hcdReply, hlsReply⟩
    rw [hcd.session_eq files, Builtin.run, System.cd_session]
    exact if_pos hdirectory
  case file =>
    rw [hnode] at hcdReply hlsReply
    exact ⟨hcdReply, hlsReply⟩
  case missing =>
    rw [hnode] at hcdReply hlsReply
    exact ⟨hcdReply, hlsReply⟩
  case cd_session =>
    rw [hcd.session_eq files, Builtin.run, System.cd_session]
    exact if_neg (Bool.eq_false_iff.1 hdirectory)
  case ls_session =>
    rw [hls.session_eq files, Builtin.run, System.ls_session]
    rfl
  case cat_session =>
    rw [(hcat harg).session_eq files, Builtin.run, System.cat_session]
    rfl
  case cat_found =>
    have hpath : System.catPath (d.context files s Builtin.cat.command [arg]) arg =
        Path.resolve s.cwd arg := System.catPath_of_found hfound
    rw [(hcat harg).cat_reply hroot files, hpath]
  case cat_missing =>
    -- The name of a document is a word again, and stands behind a slash.
    have hdocument : Text.IsWord ("/docs/" ++ arg) := harg.docs
    have hslash : Text.startsWith ("/docs/" ++ arg) "/" = true := by
      simp [Text.startsWith]
    have hpath : System.catPath (d.context files s Builtin.cat.command [arg]) arg =
        Path.resolve Layout.docsDir arg := System.catPath_of_missing hnode hbare
    constructor
    · rw [(hcat harg).cat_reply hroot files, hpath, Path.resolve_docsDir hbare,
        Filesystem.node?_canonicalize]
    · rw [(hcat hdocument).cat_reply hroot files, System.catPath_of_absolute hslash,
        Filesystem.node?_canonicalize]

/-- Root stands in a directory that is not there. A name that only a document has is found by `cat`
alone; the way up is found by all three. -/
theorem paths_told_alike_lost :
    let files : Filesystem := ⟨[("docs", .dir [("note", .file "one\r\ntwo")])]⟩
    let d := Dispatcher.standard (Profile.map .standard) [] (.ok "")
    let s := { Session.fresh "id" "local" with cwd := "/gone", auth := .root }
    s.takesCommand = true ∧ d.profile.riddle.command ∉ ["cd", "ls", "cat"] ∧
      Text.IsWord "note" ∧ Text.IsWord "../docs" ∧
      (d.dispatch files s ("cd " ++ "note")).reply =
        ⟨["cd: no such file or directory: note"], []⟩ ∧
      (d.dispatch files s ("cat " ++ "note")).reply = ⟨["one", "two"], []⟩ ∧
      (d.dispatch files s ("cd " ++ "../docs")).session = { s with cwd := "/docs" } ∧
      (d.dispatch files s ("ls " ++ "../docs")).reply = ⟨["note"], []⟩ ∧
      (d.dispatch files s ("cat " ++ "../docs")).reply =
        ⟨["cat: ../docs: Is a directory"], []⟩ := by
  intro files d s
  have hnote : Text.IsWord "note" := by decide
  have hup : Text.IsWord "../docs" := by decide
  have hmissing : files.node? (Path.resolve s.cwd "note") = none := by decide
  have hdocument : files.node? ("/docs/" ++ "note") = some (.file "one\r\ntwo") :=
    Filesystem.read?_eq_some_iff.1 (by decide)
  have hshown : System.shownLines "one\r\ntwo" = ["one", "two"] := by decide
  have hdirectory : files.node? (Path.resolve s.cwd "../docs") =
      some (.dir [("note", .file "one\r\ntwo")]) := by
    have hway : Path.way (Path.resolve s.cwd "../docs") = ["docs"] := by decide
    rw [Filesystem.node?_eq_at?, hway]
    rfl
  -- The name leads nowhere, and there is a document of that name.
  have hdown := paths_told_alike d rfl files s rfl (by decide) "note" hnote
  have hdownShown := (hdown.cat_missing rfl hmissing (by decide)).1
  rw [hdocument, System.catLines, hshown] at hdownShown
  -- Above a directory that is not there stands the root all the same.
  have habove := paths_told_alike d rfl files s rfl (by decide) "../docs" hup
  have haboveShown := habove.cat_found rfl (.inr (by decide))
  rw [hdirectory] at haboveShown
  obtain ⟨hgone, -, hlisted⟩ := habove.directory _ hdirectory
  have hresolved : Path.resolve s.cwd "../docs" = "/docs" := by decide
  rw [hresolved] at hgone
  exact ⟨rfl, by decide, hnote, hup, (hdown.missing hmissing).1, hdownShown, hgone, hlisted,
    haboveShown⟩

end Dispatcher

end MissionConsole
