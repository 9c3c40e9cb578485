import MissionConsole.Command.Builtin
import Mathlib.Tactic.SplitIfs

/-!
# Commands do not see who the visitor is

A session carries an id and the origin of its visitor, and no built-in command looks at them: a
command run for a visitor without a name does what it does for anybody else.

## Main definitions

* `Session.anonymous`, `Context.anonymous`, `Run.anonymous` — without the id and the origin

## Main results

* `Builtin.run_anonymous` — a command does not see who the visitor is
-/

namespace MissionConsole

/-- A session without id and origin. -/
def Session.anonymous (s : Session) : Session := { s with id := "", origin := "" }

/-- What a handler may look at, for a visitor without a name. -/
def Context.anonymous (ctx : Context) : Context := { ctx with session := ctx.session.anonymous }

/-- What a handler has done, for a visitor without a name. -/
def Run.anonymous (r : Run) : Run := { r with session := r.session.anonymous }

namespace Context

variable (ctx : Context)

@[simp] theorem anonymous_args : ctx.anonymous.args = ctx.args := rfl

@[simp] theorem anonymous_files : ctx.anonymous.files = ctx.files := rfl

@[simp] theorem anonymous_regions : ctx.anonymous.regions = ctx.regions := rfl

@[simp] theorem anonymous_companies : ctx.anonymous.companies = ctx.companies := rfl

@[simp] theorem anonymous_clock : ctx.anonymous.clock = ctx.clock := rfl

@[simp] theorem anonymous_isRoot : ctx.anonymous.session.isRoot = ctx.session.isRoot := rfl

@[simp] theorem anonymous_resolve : ctx.anonymous.resolve = ctx.resolve := rfl

end Context

namespace System

variable (ctx : Context)

theorem login_anonymous : login ctx.anonymous = (login ctx).anonymous := by
  rw [login, login, Context.anonymous_isRoot]
  split_ifs <;> rfl

theorem cd_anonymous : cd ctx.anonymous = (cd ctx).anonymous := by
  rw [cd, cd, Context.anonymous_args, Context.anonymous_files, Context.anonymous_resolve]
  dsimp only
  split_ifs <;> rfl

theorem ls_anonymous : ls ctx.anonymous = (ls ctx).anonymous := by
  rw [ls, ls, Context.anonymous_args, Context.anonymous_files, Context.anonymous_resolve]
  split
  · rfl
  · rfl
  · split_ifs <;> rfl

@[simp] theorem catPath_anonymous (arg : String) : catPath ctx.anonymous arg = catPath ctx arg :=
  rfl

theorem cat_anonymous : cat ctx.anonymous = (cat ctx).anonymous := by
  rw [cat, cat, Context.anonymous_args]
  split
  · rfl
  · rw [Context.anonymous_files, Context.anonymous_isRoot, catPath_anonymous]
    dsimp only
    split_ifs
    · rfl
    · split <;> rfl
    · split <;> rfl

theorem date_anonymous : date ctx.anonymous = (date ctx).anonymous := by
  rw [date, date, Context.anonymous_clock]
  split <;> rfl

theorem superuser_anonymous : superuser ctx.anonymous = (superuser ctx).anonymous := by
  rw [superuser, superuser, Context.anonymous_args]
  split_ifs <;> rfl

end System

namespace MapLink

variable (ctx : Context)

theorem goToCompany_anonymous (query : String) :
    goToCompany ctx.anonymous query = (goToCompany ctx query).anonymous := by
  rw [goToCompany, goToCompany, Context.anonymous_companies]
  split_ifs
  · rfl
  · split <;> rfl

theorem goToRegion_anonymous (key : String) :
    goToRegion ctx.anonymous key = (goToRegion ctx key).anonymous := by
  rw [goToRegion, goToRegion, Context.anonymous_regions]
  split <;> rfl

theorem goto_anonymous : goto ctx.anonymous = (goto ctx).anonymous := by
  rw [goto, goto, Context.anonymous_args]
  split
  · rfl
  · dsimp only
    split_ifs
    · rfl
    · exact goToCompany_anonymous ctx _
    · exact goToRegion_anonymous ctx _

theorem zoom_anonymous : zoom ctx.anonymous = (zoom ctx).anonymous := by
  rw [zoom, zoom, Context.anonymous_args]
  split <;> rfl

theorem center_anonymous : center ctx.anonymous = (center ctx).anonymous := by
  rw [center, center, Context.anonymous_args]
  split <;> rfl

end MapLink

namespace Vehicle

variable (ctx : Context)

theorem goToRegion_anonymous : goToRegion ctx.anonymous = (goToRegion ctx).anonymous := by
  rw [goToRegion, goToRegion, Context.anonymous_args]
  split
  · rfl
  · rw [Context.anonymous_regions]
    dsimp only
    split_ifs
    · rfl
    · split <;> rfl

theorem goto_anonymous : goto ctx.anonymous = (goto ctx).anonymous := by
  rw [goto, goto, Context.anonymous_args]
  split_ifs
  · exact goToRegion_anonymous ctx
  · split <;> rfl

theorem speed_anonymous : speed ctx.anonymous = (speed ctx).anonymous := by
  rw [speed, speed, Context.anonymous_args]
  split <;> rfl

theorem follow_anonymous : follow ctx.anonymous = (follow ctx).anonymous := by
  rw [follow, follow, Context.anonymous_args]
  split <;> rfl

theorem uxv_anonymous : uxv ctx.anonymous = (uxv ctx).anonymous := by
  rw [uxv, uxv, Context.anonymous_args]
  split
  case h_5 => exact goto_anonymous ctx
  case h_6 => exact speed_anonymous ctx
  case h_9 => exact follow_anonymous ctx
  -- The other orders are the same for everybody.
  all_goals rfl

end Vehicle

theorem Eggs.trigger_anonymous (ctx : Context) :
    Eggs.trigger ctx.anonymous = (Eggs.trigger ctx).anonymous := by
  rw [Eggs.trigger, Eggs.trigger, Context.anonymous_args]
  split
  · rfl
  · dsimp only
    split_ifs <;> rfl

/-- A command does not see who the visitor is. -/
theorem Builtin.run_anonymous (b : Builtin) (ctx : Context) :
    b.run ctx.anonymous = (b.run ctx).anonymous := by
  cases b with
  | login => exact System.login_anonymous ctx
  | cd => exact System.cd_anonymous ctx
  | ls => exact System.ls_anonymous ctx
  | cat => exact System.cat_anonymous ctx
  | date => exact System.date_anonymous ctx
  | superuser => exact System.superuser_anonymous ctx
  | goto => exact MapLink.goto_anonymous ctx
  | hq => exact MapLink.goToCompany_anonymous ctx _
  | zoom => exact MapLink.zoom_anonymous ctx
  | center => exact MapLink.center_anonymous ctx
  | uxv => exact Vehicle.uxv_anonymous ctx
  | trigger => exact Eggs.trigger_anonymous ctx
  -- The other commands answer everybody with the same lines and events.
  | _ => rfl

end MissionConsole
