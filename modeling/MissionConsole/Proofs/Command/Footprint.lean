import MissionConsole.Command.Builtin
import MissionConsole.Proofs.Filesystem.Outline

/-!
# What the built-in commands touch and look at

Of the session, a built-in command writes one field at most: `login` the login, `cd` the working
directory, and no other command anything. Of the file tree, `cd` and `ls` look at the shape alone,
`cat` also at contents that its visitor may read, and the others at nothing. Of the profile a
command looks at the duration of alerts; the password it never sees.

## Main definitions

* `Context.SeenAlike` — contexts that differ only where no command may look

## Main results

* `Builtin.session_run_cases` — what a command leaves of the session
* `Builtin.run_eq_of_seenAlike` — contexts that a visitor sees alike are answered alike
* `Registry.exists_builtin_of_lookup` — what is found among the built-in commands is one of them
-/

namespace MissionConsole

/-! ### The session that a command leaves -/

namespace Context

variable (ctx : Context)

@[simp] theorem answer_session (lines : List String) (events : List Event) :
    (ctx.answer lines events).session = ctx.session := rfl

@[simp] theorem say_session (line : String) : (ctx.say line).session = ctx.session := rfl

@[simp] theorem fail_session : ctx.fail.session = ctx.session := rfl

end Context

namespace System

variable (ctx : Context)

theorem login_session :
    (login ctx).session =
      if ctx.session.isRoot then ctx.session
      else { ctx.session with auth := .awaitingPassword } := by
  rw [login]
  split_ifs <;> rfl

/-- Where `cd` wants to go. -/
def cdPath : String := ctx.resolve (ctx.args.headD "/")

theorem cd_session :
    (cd ctx).session =
      if ctx.files.isDirectory (cdPath ctx) then { ctx.session with cwd := cdPath ctx }
      else ctx.session := by
  rw [cd]
  dsimp only
  rw [← cdPath]
  split_ifs <;> simp

@[simp] theorem ls_session : (ls ctx).session = ctx.session := by
  simp only [ls]
  split
  · rfl
  · rfl
  · split_ifs <;> rfl

@[simp] theorem cat_session : (cat ctx).session = ctx.session := by
  rw [cat]
  split
  · rfl
  · dsimp only
    split_ifs
    · rfl
    · split <;> rfl
    · split <;> rfl

@[simp] theorem date_session : (date ctx).session = ctx.session := by
  rw [date]
  split <;> rfl

@[simp] theorem superuser_session : (superuser ctx).session = ctx.session := by
  rw [superuser]
  split_ifs <;> rfl

end System

namespace MapLink

variable (ctx : Context)

@[simp] theorem goToCompany_session (query : String) :
    (goToCompany ctx query).session = ctx.session := by
  rw [goToCompany]
  split_ifs
  · rfl
  · split <;> rfl

@[simp] theorem goToRegion_session (key : String) :
    (goToRegion ctx key).session = ctx.session := by
  rw [goToRegion]
  split <;> rfl

@[simp] theorem goto_session : (goto ctx).session = ctx.session := by
  rw [goto]
  split
  · rfl
  · dsimp only
    split_ifs <;> simp

@[simp] theorem zoom_session : (zoom ctx).session = ctx.session := by
  rw [zoom]
  split <;> rfl

@[simp] theorem center_session : (center ctx).session = ctx.session := by
  rw [center]
  split <;> rfl

end MapLink

namespace Vehicle

variable (ctx : Context)

@[simp] theorem order_session (action : String) (params : List (String × Json)) (line : String)
    (sound : Option String) : (order ctx action params line sound).session = ctx.session := rfl

@[simp] theorem goToRegion_session : (goToRegion ctx).session = ctx.session := by
  rw [goToRegion]
  split
  · rfl
  · dsimp only
    split_ifs
    · rfl
    · split <;> rfl

@[simp] theorem goto_session : (goto ctx).session = ctx.session := by
  rw [goto]
  split_ifs
  · exact goToRegion_session ctx
  · split <;> rfl

@[simp] theorem speed_session : (speed ctx).session = ctx.session := by
  rw [speed]
  split <;> rfl

@[simp] theorem follow_session : (follow ctx).session = ctx.session := by
  rw [follow]
  split <;> rfl

@[simp] theorem uxv_session : (uxv ctx).session = ctx.session := by
  rw [uxv]
  split <;> simp [start]

end Vehicle

@[simp] theorem Eggs.trigger_session (ctx : Context) :
    (Eggs.trigger ctx).session = ctx.session := by
  rw [Eggs.trigger]
  split
  · rfl
  · dsimp only
    split_ifs <;> rfl

/-! ### What a command looks at -/

namespace System

/-- The restricted paths are those whose way from the root begins with `secrets`. -/
theorem isRestricted_iff_prefix (path : String) :
    isRestricted path = true ↔ ["secrets"] <+: Path.reduce (Path.segments path) := by
  have htop : Path.reduce (Path.segments "/secrets") = ["secrets"] := by decide
  rw [isRestricted, restricted, List.any_cons, List.any_nil, Bool.or_false,
    Path.isWithin_iff_prefix, htop]

end System

/-- Two contexts that differ at most in the profile, the duration of its alerts apart, and in
contents that the visitor may not read. -/
structure Context.SeenAlike (ctx ctx' : Context) : Prop where
  args : ctx'.args = ctx.args
  session : ctx'.session = ctx.session
  alerts : ctx'.profile.alertDurationMs = ctx.profile.alertDurationMs
  regions : ctx'.regions = ctx.regions
  companies : ctx'.companies = ctx.companies
  clock : ctx'.clock = ctx.clock
  commands : ctx'.commands = ctx.commands
  shape : ctx'.files.SameShape ctx.files
  contents : ∀ path, ctx.session.isRoot = true ∨ System.isRestricted path = false →
    ctx'.files.read? path = ctx.files.read? path

namespace System

variable {ctx ctx' : Context}

theorem resolve_eq (h : ctx.SeenAlike ctx') : ctx'.resolve = ctx.resolve := by
  funext path
  rw [Context.resolve, Context.resolve, h.session]

theorem cd_eq (h : ctx.SeenAlike ctx') : cd ctx' = cd ctx := by
  simp only [cd, Context.say, Context.answer, resolve_eq h, h.session, h.args,
    h.shape.isDirectory_eq, h.shape.exists?_eq]

theorem ls_eq (h : ctx.SeenAlike ctx') : ls ctx' = ls ctx := by
  simp only [ls, Context.say, Context.answer, resolve_eq h, h.session, h.args, h.shape.list?_eq,
    h.shape.exists?_eq]

theorem catPath_eq (h : ctx.SeenAlike ctx') (arg : String) :
    catPath ctx' arg = catPath ctx arg := by
  simp only [catPath, resolve_eq h, h.shape.exists?_eq]

/-- Contents are read only behind the guard, and behind it they are the same. -/
theorem cat_eq (h : ctx.SeenAlike ctx') : cat ctx' = cat ctx := by
  rw [cat, cat, h.args]
  rcases ctx.args with - | ⟨arg, rest⟩
  · exact congrArg (Run.mk · [] [] true) h.session
  · simp only [catPath_eq h, h.session, Context.say, Context.answer, h.shape.isDirectory_eq]
    by_cases hguard : (!ctx.session.isRoot && isRestricted (catPath ctx arg)) = true
    · rw [if_pos hguard, if_pos hguard]
    · have hmay : ctx.session.isRoot = true ∨ isRestricted (catPath ctx arg) = false := by
        simpa [Decidable.or_iff_not_imp_left] using hguard
      rw [if_neg hguard, if_neg hguard, h.contents _ hmay]

end System

namespace Builtin

/-- Only `login` and `cd` write to the session. -/
theorem session_run_of_ne {b : Builtin} (hlogin : b ≠ .login) (hcd : b ≠ .cd) (ctx : Context) :
    (b.run ctx).session = ctx.session := by
  cases b
  case login => exact absurd rfl hlogin
  case cd => exact absurd rfl hcd
  all_goals simp [run, System.help, System.clear, System.close, System.pwd, System.whoami,
    System.uname, System.echo, System.man, MapLink.regions, MapLink.companies, MapLink.hq,
    MapLink.scan, Eggs.list, Eggs.unlockAll]

/-- A command leaves the session as it is, asks a visitor who is not root for the password, or moves
to a directory, which is named by a canonical path. -/
theorem session_run_cases (b : Builtin) (ctx : Context) :
    (b.run ctx).session = ctx.session ∨
      ctx.session.isRoot = false ∧
        (b.run ctx).session = { ctx.session with auth := .awaitingPassword } ∨
      ∃ path, Path.IsCanonical path ∧ ctx.files.isDirectory path = true ∧
        (b.run ctx).session = { ctx.session with cwd := path } := by
  by_cases hlogin : b = .login
  · subst hlogin
    cases hroot : ctx.session.isRoot with
    | true => exact .inl (by rw [run, System.login_session, if_pos hroot])
    | false => exact .inr (.inl ⟨rfl, by simp [run, System.login_session, hroot]⟩)
  · by_cases hcd : b = .cd
    · subst hcd
      by_cases hdir : ctx.files.isDirectory (System.cdPath ctx) = true
      · refine .inr (.inr ⟨System.cdPath ctx, Path.isCanonical_resolve _ _, hdir, ?_⟩)
        rw [run, System.cd_session, if_pos hdir]
      · exact .inl (by rw [run, System.cd_session, if_neg hdir])
    · exact .inl (session_run_of_ne hlogin hcd ctx)

/-- Contexts that a visitor sees alike are answered alike. -/
theorem run_eq_of_seenAlike {ctx ctx' : Context} (b : Builtin) (h : ctx.SeenAlike ctx') :
    b.run ctx' = b.run ctx := by
  cases b
  case cd => rw [run, System.cd_eq h]
  case ls => rw [run, System.ls_eq h]
  case cat => rw [run, System.cat_eq h]
  case superuser =>
    simp only [run, System.superuser, Context.answer, Context.say, h.args, h.session, h.alerts]
  -- The other commands look only at fields that are equal.
  all_goals
    obtain ⟨name, args, session, files, profile, regions, companies, clock, commands⟩ := ctx
    obtain ⟨name', args', session', files', profile', regions', companies', clock', commands'⟩ :=
      ctx'
    have hargs : args' = args := h.args
    have hsession : session' = session := h.session
    have hregions : regions' = regions := h.regions
    have hcompanies : companies' = companies := h.companies
    have hclock : clock' = clock := h.clock
    have hcommands : commands' = commands := h.commands
    subst hargs hsession hregions hcompanies hclock hcommands
    rfl

end Builtin

/-- What is found among the built-in commands is one of them. -/
theorem Registry.exists_builtin_of_lookup {name : String} {e : Registry.Entry}
    (h : Registry.standard.lookup name = some e) : ∃ b : Builtin, e = ⟨b.command, b.run⟩ := by
  obtain ⟨b, -, rfl⟩ := List.mem_map.1 (mem_of_lookup h).1
  exact ⟨b, rfl⟩

end MissionConsole
