import MissionConsole.Overlay
import MissionConsole.Proofs.Dispatch.Step
import MissionConsole.Proofs.Filesystem.Listing
import MissionConsole.Proofs.Text.Escapes

/-!
# The wording of replies

A reply is worded in the console's own texts, in parts of the line that it answers, and in numbers.
Where neither the texts nor the line have the escape character, no reply has it, and neither has
the prompt: nothing that a visitor types is turned into an order to a terminal on its way through
the commands.

## Main definitions

* `Filesystem.EscapeFree`, `Profile.EscapeFree`, `Dispatcher.EscapeFree` — consoles whose own texts
  have no escape character
* `Context.EscapeFree` — the same of all that a handler may look at
* `Node.texts` — the names and contents in a tree

## Main results

* `Filesystem.EscapeFree.of_texts` — a tree may be tested by its texts
* `Filesystem.EscapeFree.of_exists` — the path of whatever stands in such a tree
* `Builtin.escapeFree_run` — what a command writes
* `Dispatcher.escapeFree_dispatch` — what a line is answered with
* `Overlay.escapeFree_promptOf` — the prompt
-/

namespace MissionConsole

open Text (EscapeFree escapeFree_append escapeFree_intercalate escapeFree_lower)

/-! ### The console's own texts -/

/-- The names and contents in a tree have no escape character. -/
structure Filesystem.EscapeFree (files : Filesystem) : Prop where
  names : ∀ path names, files.list? path = some names → ∀ n ∈ names, Text.EscapeFree n
  contents : ∀ path content, files.read? path = some content → Text.EscapeFree content

namespace Node

mutual

/-- The names and contents at a node and below. -/
def texts : Node → List String
  | .file content => [content]
  | .dir entries => textsOf entries

/-- The names and contents in entries. -/
def textsOf : List (String × Node) → List String
  | [] => []
  | (name, node) :: rest => name :: (node.texts ++ textsOf rest)

end

variable {entries : List (String × Node)} {node found : Node}

theorem names_subset_textsOf (entries : List (String × Node)) :
    entries.map (·.1) ⊆ textsOf entries := by
  induction entries with
  | nil => exact List.nil_subset _
  | cons entry rest ih =>
    rw [List.map_cons, textsOf]
    exact List.cons_subset_cons entry.1 (List.subset_append_of_subset_right _ ih)

theorem texts_subset_of_child? {name : String} (h : child? name entries = some node) :
    node.texts ⊆ textsOf entries := by
  induction entries with
  | nil => exact absurd h nofun
  | cons entry rest ih =>
    rw [textsOf]
    apply List.subset_cons_of_subset
    by_cases hname : entry.1 = name
    · -- The first entry of the name is the one that counts.
      have hfirst : entry.2 = node := by simpa [child?, hname] using h
      rw [hfirst]
      exact List.subset_append_left _ _
    · have hlater : child? name rest = some node := by simpa [child?, hname] using h
      exact List.subset_append_of_subset_right _ (ih hlater)

/-- What stands somewhere below a node has no other texts than the node. -/
theorem texts_subset_of_at? {names : List String} (h : node.at? names = some found) :
    found.texts ⊆ node.texts := by
  induction names generalizing node with
  | nil =>
    rw [at?_nil] at h
    obtain rfl := Option.some.inj h
    exact List.Subset.refl _
  | cons name rest ih =>
    cases node with
    | file content => exact absurd h nofun
    | dir entries =>
      rw [at?_dir_cons, Option.bind_eq_some_iff] at h
      obtain ⟨child, hchild, hrest⟩ := h
      exact List.Subset.trans (ih hrest) (texts_subset_of_child? hchild)

end Node

/-- A tree is free of the escape character if all its texts are. -/
theorem Filesystem.EscapeFree.of_texts {files : Filesystem}
    (h : ∀ t ∈ files.root.texts, Text.EscapeFree t) : files.EscapeFree := by
  refine ⟨fun path names hlist n hn => h n ?_, fun path content hread => h content ?_⟩
  · obtain ⟨entries, hnode, rfl⟩ := list?_eq_some_iff.1 hlist
    exact Node.texts_subset_of_at? hnode (Node.names_subset_textsOf entries hn)
  · exact Node.texts_subset_of_at? (read?_eq_some_iff.1 hread) List.mem_cons_self

/-- What is shown of a profile has no escape character. -/
structure Profile.EscapeFree (p : Profile) : Prop where
  banner : Text.EscapeFree p.banner
  hostname : Text.EscapeFree p.hostname
  prompt : Text.EscapeFree p.riddle.prompt
  hint : Text.EscapeFree p.riddle.hint
  success : Text.EscapeFree p.riddle.success

/-- What a dispatcher shows, apart from the date, has no escape character. -/
structure Dispatcher.EscapeFree (d : Dispatcher) : Prop where
  profile : d.profile.EscapeFree
  regions : ∀ r ∈ d.regions, Text.EscapeFree r.key
  companies : ∀ name ∈ d.companies, Text.EscapeFree name

/-- A clock shows no escape character, or fails. -/
def DateEscapeFree (clock : Except String String) : Prop :=
  ∀ date, clock = .ok date → Text.EscapeFree date

/-- All that a handler may write has no escape character. -/
structure Context.EscapeFree (ctx : Context) : Prop where
  args : ∀ arg ∈ ctx.args, Text.EscapeFree arg
  cwd : Text.EscapeFree ctx.session.cwd
  files : ctx.files.EscapeFree
  regions : ∀ r ∈ ctx.regions, Text.EscapeFree r.key
  companies : ∀ name ∈ ctx.companies, Text.EscapeFree name
  clock : DateEscapeFree ctx.clock
  usages : ∀ command ∈ ctx.commands, Text.EscapeFree command.usage

/-- What stands somewhere in such a tree stands at a path without the escape character. -/
theorem Filesystem.EscapeFree.of_exists {files : Filesystem} (h : files.EscapeFree) {path : String}
    (hexists : files.exists? path = true) : Text.EscapeFree (Path.canonicalize path) := by
  have hnames : ∀ n ∈ Path.way path, Text.EscapeFree n := by
    intro n hn
    -- Each name on the way is listed by the directory that the names before it lead to.
    obtain ⟨before, after, hway⟩ := List.append_of_mem hn
    have hbefore : Path.way (Path.ofNames before) = before :=
      Path.way_ofNames fun m hm => Path.isName_of_mem_way (hway ▸ List.mem_append_left _ hm)
    have hnext : Path.way (Path.ofNames before) ++ [n] <+: Path.way path := by
      rw [hbefore, hway, List.append_cons before n after]
      exact List.prefix_append _ _
    obtain ⟨entries, hnode, hmem⟩ := exists_child_of_exists hexists hnext
    exact h.names _ _ (list?_eq_some_iff.2 ⟨entries, hnode, rfl⟩) n hmem
  have hpath : Path.canonicalize path = "/" ++ "/".intercalate (Path.way path) := rfl
  rw [hpath]
  exact escapeFree_append.2 ⟨by decide, escapeFree_intercalate (by decide) hnames⟩

/-! ### Commands -/

/-- What a handler has written has no escape character. -/
def Run.EscapeFree (r : Run) : Prop := ∀ line ∈ r.lines, Text.EscapeFree line

namespace Context

variable {ctx : Context} {line : String} {lines : List String} {events : List Event}

theorem escapeFree_answer (h : ∀ line ∈ lines, Text.EscapeFree line) :
    (ctx.answer lines events).EscapeFree :=
  h

theorem escapeFree_say (h : Text.EscapeFree line) : (ctx.say line).EscapeFree :=
  List.forall_mem_singleton.2 h

theorem escapeFree_fail : ctx.fail.EscapeFree := List.forall_mem_nil _

namespace EscapeFree

variable (h : ctx.EscapeFree)

include h

/-- A word of the line, or what stands for it where it is missing. -/
theorem headD (default : String) (hdefault : Text.EscapeFree default) :
    Text.EscapeFree (ctx.args.headD default) := by
  rw [List.headD_eq_head?_getD]
  cases hhead : ctx.args.head? with
  | none => exact hdefault
  | some arg => exact h.args arg (List.mem_of_mem_head? hhead)

theorem lowered (i : Nat) : Text.EscapeFree ((ctx.args[i]?.map Text.lower).getD "") := by
  cases harg : ctx.args[i]? with
  | none => decide
  | some arg => exact escapeFree_lower (h.args arg (List.mem_of_getElem? harg))

end EscapeFree

end Context

namespace System

open Context

variable {ctx : Context} (h : ctx.EscapeFree)

include h

theorem escapeFree_help : (help ctx).EscapeFree := by
  have hgroups : ∀ group ∈ helpGroups, Text.EscapeFree group.2 := by decide
  intro line hline
  obtain ⟨group, hgroup, hshown⟩ := List.mem_filterMap.1 hline
  rw [helpLine] at hshown
  split at hshown
  · exact absurd hshown nofun
  · obtain rfl := Option.some.inj hshown
    refine escapeFree_append.2 ⟨escapeFree_append.2 ⟨hgroups group hgroup, by decide⟩, ?_⟩
    refine escapeFree_intercalate (by decide) (List.forall_mem_map.2 fun command hcommand => ?_)
    exact h.usages command (List.mem_filter.1 hcommand).1

omit h in
theorem escapeFree_login : (login ctx).EscapeFree := by
  rw [login]
  split_ifs
  · exact escapeFree_say (by decide)
  · exact List.forall_mem_singleton.2 (by decide)

theorem escapeFree_cd : (cd ctx).EscapeFree := by
  have htarget := h.headD "/" (by decide)
  rw [cd]
  dsimp only
  split_ifs
  · exact List.forall_mem_nil _
  · exact escapeFree_say (escapeFree_append.2 ⟨by decide, htarget⟩)
  · exact escapeFree_say (escapeFree_append.2 ⟨by decide, htarget⟩)

theorem escapeFree_ls : (ls ctx).EscapeFree := by
  have htarget := h.headD "." (by decide)
  have hrefusal : Text.EscapeFree ("ls: cannot access '" ++ ctx.args.headD ".") :=
    escapeFree_append.2 ⟨by decide, htarget⟩
  simp only [ls]
  split
  · exact List.forall_mem_nil _
  · rename_i names _ hnames
    exact escapeFree_say (escapeFree_intercalate (by decide) (h.files.names _ _ hnames))
  · split_ifs
    · exact escapeFree_say (escapeFree_append.2 ⟨hrefusal, by decide⟩)
    · exact escapeFree_say (escapeFree_append.2 ⟨hrefusal, by decide⟩)

omit h in
theorem escapeFree_shownLines {content : String} (hcontent : Text.EscapeFree content) :
    ∀ line ∈ shownLines content, Text.EscapeFree line := by
  rw [shownLines]
  split
  · decide
  · exact fun line hline => hcontent.of_subset (Text.lines_subset hline)

theorem escapeFree_cat : (cat ctx).EscapeFree := by
  rw [cat]
  split
  · exact escapeFree_fail
  · rename_i arg rest hargs
    have harg : Text.EscapeFree ("cat: " ++ arg) :=
      escapeFree_append.2 ⟨by decide, h.args arg (hargs ▸ List.mem_cons_self)⟩
    dsimp only
    split_ifs
    · exact escapeFree_say (escapeFree_append.2 ⟨harg, by decide⟩)
    · split
      · rename_i content hread
        exact escapeFree_shownLines (h.files.contents _ _ hread)
      · exact escapeFree_say (escapeFree_append.2 ⟨harg, by decide⟩)
    · split
      · rename_i content hread
        exact escapeFree_shownLines (h.files.contents _ _ hread)
      · exact escapeFree_say (escapeFree_append.2 ⟨harg, by decide⟩)

omit h in
theorem escapeFree_whoami : (whoami ctx).EscapeFree := by
  rw [whoami, Session.username]
  split_ifs
  · exact escapeFree_say (by decide)
  · exact escapeFree_say (by decide)

omit h in
theorem escapeFree_uname : (uname ctx).EscapeFree := by
  rw [uname]
  split_ifs
  · exact escapeFree_say (by decide)
  · exact escapeFree_say (by decide)

theorem escapeFree_date : (date ctx).EscapeFree := by
  rw [date]
  split
  · rename_i now hclock
    exact escapeFree_say (h.clock now hclock)
  · exact escapeFree_fail

omit h in
theorem escapeFree_superuser : (superuser ctx).EscapeFree := by
  rw [superuser]
  split_ifs
  · exact escapeFree_answer (by decide)
  · exact escapeFree_say (by decide)

end System

namespace MapLink

open Context

variable {ctx : Context} (h : ctx.EscapeFree)

include h

theorem escapeFree_regions : (regions ctx).EscapeFree :=
  escapeFree_say (escapeFree_intercalate (by decide) (List.forall_mem_map.2 h.regions))

theorem escapeFree_companies : (companies ctx).EscapeFree := by
  simp only [companies]
  refine escapeFree_say ?_
  split_ifs
  · decide
  · refine escapeFree_intercalate (by decide) fun name hname => ?_
    exact h.companies name (List.mem_filter.1 (List.mem_eraseDups.1 hname)).1

omit h in
theorem escapeFree_goToCompany {query : String} (hquery : Text.EscapeFree query) :
    (goToCompany ctx query).EscapeFree := by
  rw [goToCompany]
  split_ifs
  · exact escapeFree_say (by decide)
  · split
    · exact escapeFree_say (escapeFree_append.2 ⟨by decide, hquery⟩)
    · refine escapeFree_answer (List.forall_mem_singleton.2 ?_)
      exact escapeFree_append.2 ⟨escapeFree_append.2 ⟨by decide, hquery⟩, by decide⟩

omit h in
theorem escapeFree_goToRegion {key : String} (hkey : Text.EscapeFree key) :
    (goToRegion ctx key).EscapeFree := by
  rw [goToRegion]
  split
  · exact escapeFree_say (escapeFree_append.2 ⟨by decide, hkey⟩)
  · refine escapeFree_answer (List.forall_mem_singleton.2 ?_)
    exact escapeFree_append.2 ⟨escapeFree_append.2 ⟨by decide, hkey⟩, by decide⟩

theorem escapeFree_goto : (goto ctx).EscapeFree := by
  rw [goto]
  split
  · exact escapeFree_fail
  · rename_i first rest hargs
    obtain ⟨hfirst, hrest⟩ := List.forall_mem_cons.1 (hargs ▸ h.args)
    dsimp only
    split_ifs
    · exact escapeFree_say (by decide)
    · exact escapeFree_goToCompany (escapeFree_intercalate (by decide) hrest)
    · exact escapeFree_goToRegion (escapeFree_lower hfirst)

theorem escapeFree_hq : (hq ctx).EscapeFree :=
  escapeFree_goToCompany (escapeFree_intercalate (by decide) h.args)

omit h in
theorem escapeFree_zoom : (zoom ctx).EscapeFree := by
  rw [zoom]
  split
  · exact escapeFree_say (by decide)
  · refine escapeFree_answer (List.forall_mem_singleton.2 ?_)
    exact escapeFree_append.2 ⟨by decide, Decimal.escapeFree_brief _⟩

omit h in
/-- Two numbers with a comma between them. -/
theorem escapeFree_pair {start : String} (hstart : Text.EscapeFree start) (x y : Float) :
    Text.EscapeFree (start ++ Decimal.brief x ++ ", " ++ Decimal.brief y) := by
  simp only [escapeFree_append]
  exact ⟨⟨⟨hstart, Decimal.escapeFree_brief x⟩, by decide⟩, Decimal.escapeFree_brief y⟩

omit h in
theorem escapeFree_center : (center ctx).EscapeFree := by
  rw [center]
  split
  · exact escapeFree_say (by decide)
  · exact escapeFree_answer (List.forall_mem_singleton.2 (escapeFree_pair (by decide) _ _))

end MapLink

namespace Vehicle

open Context

variable {ctx : Context} (h : ctx.EscapeFree)

theorem escapeFree_order {action line : String} {params : List (String × Json)}
    {sound : Option String} (hline : Text.EscapeFree line) :
    (order ctx action params line sound).EscapeFree :=
  List.forall_mem_singleton.2 hline

include h

theorem escapeFree_goToRegion : (goToRegion ctx).EscapeFree := by
  rw [goToRegion]
  split
  · exact escapeFree_say (by decide)
  · rename_i word hword
    have hkey : Text.EscapeFree (Text.lower word) :=
      escapeFree_lower (h.args word (List.mem_of_getElem? hword))
    dsimp only
    split_ifs
    · exact escapeFree_say (by decide)
    · split
      · exact escapeFree_say (escapeFree_append.2 ⟨by decide, hkey⟩)
      · exact escapeFree_order (escapeFree_append.2 ⟨by decide, hkey⟩)

theorem escapeFree_goto : (goto ctx).EscapeFree := by
  rw [goto]
  split_ifs
  · exact escapeFree_goToRegion h
  · split
    · exact escapeFree_say (by decide)
    · exact escapeFree_order (MapLink.escapeFree_pair (by decide) _ _)

omit h in
theorem escapeFree_speed : (speed ctx).EscapeFree := by
  rw [speed]
  split
  · exact escapeFree_say (by decide)
  · refine escapeFree_order (escapeFree_append.2 ⟨?_, by decide⟩)
    exact escapeFree_append.2 ⟨by decide, Decimal.escapeFree_brief _⟩

omit h in
theorem escapeFree_follow : (follow ctx).EscapeFree := by
  rw [follow]
  split
  · exact escapeFree_order (by decide)
  · exact escapeFree_order (by decide)
  · exact escapeFree_say (by decide)

theorem escapeFree_uxv : (uxv ctx).EscapeFree := by
  have hword := h.lowered 0
  rw [uxv]
  split
  · exact escapeFree_say (by decide)
  · exact escapeFree_say (by decide)
  · exact escapeFree_order (by decide)
  · exact escapeFree_order (by decide)
  · exact escapeFree_goto h
  · exact escapeFree_speed
  · exact escapeFree_order (by decide)
  · exact escapeFree_order (by decide)
  · exact escapeFree_follow
  · -- Only here does the word itself come back.
    exact escapeFree_say (escapeFree_append.2 ⟨escapeFree_append.2 ⟨by decide, hword⟩, by decide⟩)

end Vehicle

theorem Eggs.escapeFree_list (ctx : Context) : (Eggs.list ctx).EscapeFree :=
  Context.escapeFree_answer (by decide)

theorem Eggs.escapeFree_trigger {ctx : Context} (h : ctx.EscapeFree) :
    (Eggs.trigger ctx).EscapeFree := by
  rw [Eggs.trigger]
  split
  · exact Context.escapeFree_fail
  · rename_i first rest hargs
    have hname : Text.EscapeFree (Text.lower first) :=
      escapeFree_lower (h.args first (hargs ▸ List.mem_cons_self))
    dsimp only
    split_ifs
    · refine Context.escapeFree_answer (List.forall_mem_singleton.2 ?_)
      exact escapeFree_append.2 ⟨by decide, hname⟩
    · exact Context.escapeFree_say (escapeFree_append.2 ⟨by decide, hname⟩)

namespace Builtin

/-- What a command writes has no escape character, where nothing that it may write has one. -/
theorem escapeFree_run (b : Builtin) {ctx : Context} (h : ctx.EscapeFree) :
    (b.run ctx).EscapeFree := by
  unfold run
  cases b with
  | help => exact System.escapeFree_help h
  | clear => exact List.forall_mem_nil _
  | close => exact Context.escapeFree_answer (by decide)
  | login => exact System.escapeFree_login
  | pwd => exact Context.escapeFree_say h.cwd
  | cd => exact System.escapeFree_cd h
  | ls => exact System.escapeFree_ls h
  | cat => exact System.escapeFree_cat h
  | whoami => exact System.escapeFree_whoami
  | uname => exact System.escapeFree_uname
  | date => exact System.escapeFree_date h
  | echo => exact Context.escapeFree_say (escapeFree_intercalate (by decide) h.args)
  | man => exact Context.escapeFree_say (by decide)
  | superuser => exact System.escapeFree_superuser
  | regions => exact MapLink.escapeFree_regions h
  | companies => exact MapLink.escapeFree_companies h
  | goto => exact MapLink.escapeFree_goto h
  | hq => exact MapLink.escapeFree_hq h
  | zoom => exact MapLink.escapeFree_zoom
  | center => exact MapLink.escapeFree_center
  | scan => exact Context.escapeFree_answer (by decide)
  | uxv => exact Vehicle.escapeFree_uxv h
  | eggs => exact Eggs.escapeFree_list ctx
  | trigger => exact Eggs.escapeFree_trigger h
  | unlockAll => exact Context.escapeFree_answer (by decide)

/-- The declarations of the built-in commands. -/
theorem escapeFree_command (b : Builtin) :
    Text.EscapeFree b.command.name ∧ Text.EscapeFree b.command.usage := by
  cases b <;> decide

end Builtin

/-! ### Lines -/

namespace Dispatcher

variable {d : Dispatcher} {files : Filesystem} {s : Session} {line : String}

theorem escapeFree_context (hd : d.registry = .standard) (h : d.EscapeFree)
    (hclock : DateEscapeFree d.clock) (hfiles : files.EscapeFree) (hcwd : Text.EscapeFree s.cwd)
    {args : List String} (hargs : ∀ arg ∈ args, Text.EscapeFree arg) (command : Command) :
    (d.context files s command args).EscapeFree where
  args := hargs
  cwd := hcwd
  files := hfiles
  regions := h.regions
  companies := h.companies
  clock := hclock
  usages := by
    intro declared hdeclared
    have hcommands : declared ∈ d.registry.commands := hdeclared
    rw [hd] at hcommands
    obtain ⟨entry, hentry, rfl⟩ := List.mem_map.1 hcommands
    obtain ⟨b, -, rfl⟩ := List.mem_map.1 hentry
    exact b.escapeFree_command.2

/-- What a command line is answered with. -/
theorem escapeFree_runCommand (hd : d.registry = .standard) (h : d.EscapeFree)
    (hclock : DateEscapeFree d.clock) (hfiles : files.EscapeFree) (hcwd : Text.EscapeFree s.cwd)
    (hline : Text.EscapeFree line) :
    ∀ shown ∈ (d.runCommand files s line).reply.lines, Text.EscapeFree shown := by
  rw [runCommand]
  split
  · exact List.forall_mem_singleton.2 (by decide)
  · rename_i name args hwords
    have hall : ∀ word ∈ name :: args, Text.EscapeFree word := fun word hword =>
      hline.of_subset (Text.words_subset (hwords ▸ hword))
    obtain ⟨hname, hargs⟩ := List.forall_mem_cons.1 hall
    split_ifs
    · exact List.forall_mem_singleton.2 h.profile.prompt
    · rw [callCommand, hd]
      split
      · exact List.forall_mem_singleton.2 (escapeFree_append.2 ⟨by decide, hname⟩)
      · rename_i hfound
        obtain ⟨b, rfl⟩ := Registry.exists_builtin_of_lookup hfound
        obtain ⟨hcommand, husage⟩ := b.escapeFree_command
        have hrun := b.escapeFree_run
          (escapeFree_context hd h hclock hfiles hcwd hargs b.command)
        split_ifs
        · exact List.forall_mem_singleton.2 (escapeFree_append.2 ⟨by decide, husage⟩)
        · exact List.forall_mem_singleton.2 (by decide)
        · -- A handler that fails is answered for by its name.
          simp only [runHandler]
          split_ifs
          · exact List.forall_mem_singleton.2 (escapeFree_append.2 ⟨hcommand, by decide⟩)
          · exact hrun

/-- What a line is answered with has no escape character, where neither the console's own texts nor
the line has one. -/
theorem escapeFree_dispatch (hd : d.registry = .standard) (h : d.EscapeFree)
    (hclock : DateEscapeFree d.clock) (hfiles : files.EscapeFree) (hcwd : Text.EscapeFree s.cwd)
    (hline : Text.EscapeFree line) :
    ∀ shown ∈ (d.dispatch files s line).reply.lines, Text.EscapeFree shown := by
  by_cases hblank : Text.trim line = ""
  · rw [dispatch_of_blank hblank]
    exact List.forall_mem_singleton.2 (by decide)
  · rw [dispatch_of_ne hblank, recorded_reply, answer]
    split_ifs
    · simp only [answerRiddle]
      split_ifs
      · exact List.forall_mem_singleton.2 h.profile.success
      · exact List.forall_mem_singleton.2 h.profile.hint
    · simp only [checkPassword]
      split_ifs <;> exact List.forall_mem_singleton.2 (by decide)
    · exact escapeFree_runCommand hd h hclock hfiles hcwd (hline.of_subset (Text.trim_subset line))

end Dispatcher

/-- The prompt has no escape character, where the name of the host and the working directory have
none. -/
theorem Overlay.escapeFree_promptOf {p : Profile} {s : Session} (h : p.EscapeFree)
    (hcwd : Text.EscapeFree s.cwd) : Text.EscapeFree (promptOf p s) := by
  have husername : Text.EscapeFree s.username := by
    rw [Session.username]
    split_ifs <;> decide
  have hsign : Text.EscapeFree (if s.isRoot then "#" else "$") := by
    split_ifs <;> decide
  rw [promptOf]
  split_ifs with hsecret
  · decide
  all_goals
    simp only [escapeFree_append]
    exact ⟨⟨⟨⟨⟨husername, by decide⟩, h.hostname⟩, by decide⟩, hcwd⟩, by decide⟩

end MissionConsole
