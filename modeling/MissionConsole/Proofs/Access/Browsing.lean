import MissionConsole.Web.Browser
import MissionConsole.Proofs.Dispatch.Invocation
import MissionConsole.Proofs.Path.Parent

/-!
# The tree on the web and in the shell

The tree is shown to guests in two places. On the web a path is made canonical and looked up; in the
shell a line is cut into words, the word is seen from the working directory, and a name that is not
there may be looked up among the documents. For absolute paths the two come to the same: the way
through the working directory and the way through the documents are both closed to them. What the
one refuses, the other refuses; what the one shows, the other shows.

## Main definitions

* `Browser.Answer.catLines` — what the shell writes of an answer on the web

## Main results

* `System.cat_of_absolute` — a guest's `cat` writes what is seen on the web
* `Browser.browse_agrees` — the answers on the web and the lines in the shell
-/

namespace MissionConsole

theorem Text.contains_of_startsWith {s start : String} (h : startsWith s start = true) :
    contains s start = true :=
  containsChars_iff.2 (List.isPrefixOf_iff_prefix.1 h).isInfix

namespace Browser

variable {files : Filesystem} {path : String}

/-- What `cat` writes for a path, told from what is seen at the path on the web. -/
def Answer.catLines (path : String) : Answer → List String
  | .denied => ["cat: " ++ path ++ ": Permission denied"]
  | .file _ content => System.shownLines content
  | .directory _ _ => ["cat: " ++ path ++ ": Is a directory"]
  | .missing => ["cat: " ++ path ++ ": No such file"]

/-- The shell bears out an answer on the web, where `reply` is what a command is answered with when
the path is its argument. -/
def Answer.BorneOutBy (path : String) (reply : String → Reply) : Answer → Prop
  | .denied => reply "cat" = ⟨["cat: " ++ path ++ ": Permission denied"], []⟩
  | .file _ content => reply "cat" = ⟨System.shownLines content, []⟩
  | .directory _ names =>
    reply "cat" = ⟨["cat: " ++ path ++ ": Is a directory"], []⟩ ∧
      reply "ls" = ⟨if names = [] then [] else ["  ".intercalate names], []⟩
  | .missing =>
    reply "cat" = ⟨["cat: " ++ path ++ ": No such file"], []⟩ ∧
      reply "ls" = ⟨["ls: cannot access '" ++ path ++ "': No such file or directory"], []⟩ ∧
      reply "cd" = ⟨["cd: no such file or directory: " ++ path], []⟩

/-! ### What an answer on the web says of the tree -/

theorem list?_of_browse_directory {shown : String} {names : List String}
    (h : browse files path = .directory shown names) :
    files.list? (Path.canonicalize path) = some names := by
  simp only [browse] at h
  split_ifs at h
  split at h
  · cases h
    assumption
  · split at h <;> cases h

/-- Where nothing is found on the web, nothing stands in the tree. -/
theorem node?_of_browse_missing (h : browse files path = .missing) :
    files.node? (Path.canonicalize path) = none := by
  simp only [browse, Filesystem.list?, Filesystem.read?] at h
  split_ifs at h
  cases hnode : files.node? (Path.canonicalize path) with
  | none => rfl
  | some node =>
    rw [hnode] at h
    cases node <;> cases h

end Browser

/-! ### The commands -/

namespace System

variable {ctx : Context} {path : String}

/-- An absolute path is not looked up among the documents. -/
theorem catPath_of_absolute (h : Text.startsWith path "/" = true) :
    catPath ctx path = Path.canonicalize path := by
  rw [catPath, Text.contains_of_startsWith h, Context.resolve, Path.resolve_of_absolute _ h]
  simp

/-- A guest's `cat` writes what is seen on the web. -/
theorem cat_of_absolute (ctx : Context) (h : Text.startsWith path "/" = true)
    (hargs : ctx.args = [path]) (hguest : ctx.session.isRoot = false) :
    cat ctx = ctx.answer ((Browser.browse ctx.files path).catLines path) [] := by
  simp only [cat, hargs, catPath_of_absolute h, hguest, Bool.not_false, Bool.true_and,
    Browser.browse]
  by_cases hrestricted : isRestricted (Path.canonicalize path) = true
  · rw [if_pos hrestricted, if_pos hrestricted]
    rfl
  -- Both look at what stands at the canonical path.
  · rw [if_neg hrestricted, if_neg hrestricted, Filesystem.list?, Filesystem.read?,
      Filesystem.isDirectory]
    cases ctx.files.node? (Path.canonicalize path) with
    | none => rfl
    | some node => cases node <;> rfl

theorem ls_of_directory (ctx : Context) (h : Text.startsWith path "/" = true)
    (hargs : ctx.args = [path]) {shown : String} {names : List String}
    (hbrowse : Browser.browse ctx.files path = .directory shown names) :
    ls ctx = ctx.answer (if names = [] then [] else ["  ".intercalate names]) [] := by
  have hlist := Browser.list?_of_browse_directory hbrowse
  rw [← Path.resolve_of_absolute ctx.session.cwd h] at hlist
  simp only [ls, hargs, List.headD_cons, Context.resolve, hlist]
  cases names <;> rfl

theorem ls_of_missing (ctx : Context) (h : Text.startsWith path "/" = true)
    (hargs : ctx.args = [path]) (hbrowse : Browser.browse ctx.files path = .missing) :
    ls ctx = ctx.say ("ls: cannot access '" ++ path ++ "': No such file or directory") := by
  have hnode := Browser.node?_of_browse_missing hbrowse
  rw [← Path.resolve_of_absolute ctx.session.cwd h] at hnode
  simp [ls, hargs, Context.resolve, Filesystem.list?, Filesystem.exists?, hnode]

theorem cd_of_missing (ctx : Context) (h : Text.startsWith path "/" = true)
    (hargs : ctx.args = [path]) (hbrowse : Browser.browse ctx.files path = .missing) :
    cd ctx = ctx.say ("cd: no such file or directory: " ++ path) := by
  have hnode := Browser.node?_of_browse_missing hbrowse
  rw [← Path.resolve_of_absolute ctx.session.cwd h] at hnode
  simp [cd, hargs, Context.resolve, Filesystem.isDirectory, Filesystem.exists?, hnode]

end System

/-! ### The two views -/

namespace Browser

variable {d : Dispatcher} {files : Filesystem} {s : Session} {path : String}

/-- Whatever stands at an absolute path without blanks, a guest who asks for it in the shell is told
what is seen on the web: `cat` is refused where the web refuses, shows what the web shows, and says
of directories what they are, which `ls` lists as the web does; where the web finds nothing, neither
`cat` nor `ls` nor `cd` finds anything. -/
theorem browse_agrees (d : Dispatcher) (hd : d.registry = .standard) (files : Filesystem)
    (s : Session) (hguest : s.auth = .guest) (hriddle : s.riddlePending = false)
    (hcommand : d.profile.riddle.command ∉ ["cat", "ls", "cd"]) (path : String)
    (habsolute : Text.startsWith path "/" = true)
    (hblank : ∀ c ∈ path.toList, Text.isBlank c = false) :
    (browse files path).BorneOutBy path fun command =>
      (d.dispatch files s (command ++ " " ++ path)).reply := by
  have hword : Text.IsWord path := by
    refine ⟨fun hempty => ?_, hblank⟩
    rw [hempty] at habsolute
    exact absurd habsolute (by decide)
  have hroot : s.isRoot = false := by
    rw [Session.isRoot, hguest]
    rfl
  have htakes : s.takesCommand = true := by
    rw [Session.takesCommand_iff, Session.awaitingPassword, hguest]
    exact ⟨hriddle, rfl⟩
  have hfree (name : String) (hname : name ∈ ["cat", "ls", "cd"]) :
      d.profile.riddle.command ≠ name := fun h => hcommand (h ▸ hname)
  -- All three commands are called, with the path as their argument.
  let context (b : Builtin) : Context := d.context files s b.command [path]
  have hcat := Dispatcher.reply_pair .cat files hd htakes rfl
    (hfree "cat" (by decide)) (by decide) rfl (by decide) hword
  have hls := Dispatcher.reply_pair .ls files hd htakes rfl
    (hfree "ls" (by decide)) (by decide) rfl (by decide) hword
  have hcd := Dispatcher.reply_pair .cd files hd htakes rfl
    (hfree "cd" (by decide)) (by decide) rfl (by decide) hword
  have hsame : browse (context .cat).files path = browse files path := rfl
  simp only [Builtin.run] at hcat hls hcd
  rw [System.cat_of_absolute (context .cat) habsolute rfl hroot, hsame] at hcat
  cases hbrowse : browse files path with
  | denied =>
    rw [hbrowse] at hcat
    exact hcat
  | file shown content =>
    rw [hbrowse] at hcat
    exact hcat
  | directory shown names =>
    rw [hbrowse] at hcat
    rw [System.ls_of_directory (context .ls) habsolute rfl hbrowse] at hls
    exact ⟨hcat, hls⟩
  | missing =>
    rw [hbrowse] at hcat
    rw [System.ls_of_missing (context .ls) habsolute rfl hbrowse] at hls
    rw [System.cd_of_missing (context .cd) habsolute rfl hbrowse] at hcd
    exact ⟨hcat, hls, hcd⟩

/-- A guest who stands where nothing may be read takes a detour to a file that is open, and another
one to a file that is not. -/
theorem browse_agrees_detour :
    let files : Filesystem :=
      ⟨[("secrets", .dir [("key", .file "red")]), ("docs", .dir [("note", .file "one\r\ntwo")])]⟩
    let d := Dispatcher.standard (Profile.map .standard) [] (.ok "")
    let s := { Session.fresh "id" "local" with cwd := "/secrets" }
    s.auth = .guest ∧ s.riddlePending = false ∧
      browse files "/secrets/..//docs/./note" = .file "/docs/note" "one\r\ntwo" ∧
      (d.dispatch files s ("cat" ++ " " ++ "/secrets/..//docs/./note")).reply =
        ⟨["one", "two"], []⟩ ∧
      browse files "/docs/../secrets/key" = .denied ∧
      (d.dispatch files s ("cat" ++ " " ++ "/docs/../secrets/key")).reply =
        ⟨["cat: /docs/../secrets/key: Permission denied"], []⟩ := by
  intro files d s
  have hopen : browse files "/secrets/..//docs/./note" = .file "/docs/note" "one\r\ntwo" := by
    decide
  have hclosed : browse files "/docs/../secrets/key" = .denied := by decide
  have hshown := browse_agrees d rfl files s rfl rfl (by decide) "/secrets/..//docs/./note"
    (by decide) (Text.not_blank_of_any (by decide))
  have hrefused := browse_agrees d rfl files s rfl rfl (by decide) "/docs/../secrets/key"
    (by decide) (Text.not_blank_of_any (by decide))
  rw [hopen] at hshown
  rw [hclosed] at hrefused
  exact ⟨rfl, rfl, hopen, hshown, hclosed, hrefused⟩

end Browser

end MissionConsole
