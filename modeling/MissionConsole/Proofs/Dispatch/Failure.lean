import MissionConsole.Proofs.Dispatch.Step

/-!
# Handlers that fail

Three commands take their first argument for granted, and one asks the clock; nothing else can go
wrong in a built-in command. As the three declare that they need an argument, a line that calls them
without one is answered with their usage, and what is left is the clock. A line that calls a command
has a first word in any case, for trimming leaves none without.

## Main definitions

* `Builtin.trips` — what makes a command fail
* `Dispatcher.Calls` — a line calls the handler of a command

## Main results

* `Builtin.failed_run` — nothing else makes a command fail
* `Dispatcher.commandFailed_mem_iff` — a failure is noted when the handler that a line calls fails,
  whatever the registry is
* `Dispatcher.commands_never_fail` — no line makes a built-in command fail while the clock works
-/

namespace MissionConsole

/-! ### Commands -/

namespace Context

variable (ctx : Context)

@[simp] theorem answer_failed (lines : List String) (events : List Event) :
    (ctx.answer lines events).failed = false := rfl

@[simp] theorem say_failed (line : String) : (ctx.say line).failed = false := rfl

@[simp] theorem fail_failed : ctx.fail.failed = true := rfl

end Context

namespace System

variable (ctx : Context)

@[simp] theorem login_failed : (login ctx).failed = false := by
  rw [login]
  split_ifs <;> rfl

@[simp] theorem cd_failed : (cd ctx).failed = false := by
  rw [cd]
  dsimp only
  split_ifs <;> rfl

@[simp] theorem ls_failed : (ls ctx).failed = false := by
  simp only [ls]
  split
  · rfl
  · rfl
  · split_ifs <;> rfl

theorem cat_failed : (cat ctx).failed = ctx.args.isEmpty := by
  rw [cat]
  split
  · rename_i hargs
    rw [hargs]
    rfl
  · rename_i hargs
    rw [hargs]
    dsimp only
    split_ifs
    · rfl
    · split <;> rfl
    · split <;> rfl

theorem date_failed : (date ctx).failed = !ctx.clock.isOk := by
  rw [date]
  split <;> rename_i hclock <;> rw [hclock] <;> rfl

@[simp] theorem superuser_failed : (superuser ctx).failed = false := by
  rw [superuser]
  split_ifs <;> rfl

end System

namespace MapLink

variable (ctx : Context)

@[simp] theorem goToCompany_failed (query : String) : (goToCompany ctx query).failed = false := by
  rw [goToCompany]
  split_ifs
  · rfl
  · split <;> rfl

@[simp] theorem goToRegion_failed (key : String) : (goToRegion ctx key).failed = false := by
  rw [goToRegion]
  split <;> rfl

theorem goto_failed : (goto ctx).failed = ctx.args.isEmpty := by
  rw [goto]
  split
  · rename_i hargs
    rw [hargs]
    rfl
  · rename_i hargs
    rw [hargs]
    dsimp only
    split_ifs <;> simp

@[simp] theorem zoom_failed : (zoom ctx).failed = false := by
  rw [zoom]
  split <;> rfl

@[simp] theorem center_failed : (center ctx).failed = false := by
  rw [center]
  split <;> rfl

end MapLink

namespace Vehicle

variable (ctx : Context)

@[simp] theorem order_failed (action : String) (params : List (String × Json)) (line : String)
    (sound : Option String) : (order ctx action params line sound).failed = false := rfl

@[simp] theorem goToRegion_failed : (goToRegion ctx).failed = false := by
  rw [goToRegion]
  split
  · rfl
  · dsimp only
    split_ifs
    · rfl
    · split <;> rfl

@[simp] theorem goto_failed : (goto ctx).failed = false := by
  rw [goto]
  split_ifs
  · exact goToRegion_failed ctx
  · split <;> rfl

@[simp] theorem speed_failed : (speed ctx).failed = false := by
  rw [speed]
  split <;> rfl

@[simp] theorem follow_failed : (follow ctx).failed = false := by
  rw [follow]
  split <;> rfl

@[simp] theorem uxv_failed : (uxv ctx).failed = false := by
  rw [uxv]
  split <;> simp [start]

end Vehicle

theorem Eggs.trigger_failed (ctx : Context) : (Eggs.trigger ctx).failed = ctx.args.isEmpty := by
  rw [Eggs.trigger]
  split
  · rename_i hargs
    rw [hargs]
    rfl
  · rename_i hargs
    rw [hargs]
    dsimp only
    split_ifs <;> rfl

namespace Builtin

/-- What makes a command fail: there is no argument where it takes one for granted, or no date. -/
def trips (b : Builtin) (ctx : Context) : Bool :=
  match b with
  | .cat | .goto | .trigger => ctx.args.isEmpty
  | .date => !ctx.clock.isOk
  | _ => false

/-- Nothing else makes a command fail. -/
theorem failed_run (b : Builtin) (ctx : Context) : (b.run ctx).failed = b.trips ctx := by
  cases b with
  | cat => exact System.cat_failed ctx
  | date => exact System.date_failed ctx
  | goto => exact MapLink.goto_failed ctx
  | trigger => exact Eggs.trigger_failed ctx
  | login => exact System.login_failed ctx
  | cd => exact System.cd_failed ctx
  | ls => exact System.ls_failed ctx
  | superuser => exact System.superuser_failed ctx
  | hq => exact MapLink.goToCompany_failed ctx _
  | zoom => exact MapLink.zoom_failed ctx
  | center => exact MapLink.center_failed ctx
  | uxv => exact Vehicle.uxv_failed ctx
  -- The other commands answer whatever they are given.
  | _ => rfl

theorem isEmpty_of_one_le {args : List String} (h : (1 : Int) ≤ args.length) :
    args.isEmpty = false := by
  cases args with
  | nil => exact absurd h (by decide)
  | cons => rfl

/-- With the arguments that it declares to need, a command fails on the clock alone. -/
theorem failed_run_of_arity {b : Builtin} {ctx : Context}
    (harity : b.command.minArgs ≤ ctx.args.length) :
    (b.run ctx).failed = true ↔ b = .date ∧ ctx.clock.isOk = false := by
  rw [failed_run]
  cases b with
  | date => simp [trips]
  | cat | goto | trigger =>
    rw [trips, isEmpty_of_one_le harity]
    simp
  | _ => simp [trips]

theorem name_eq_date_iff (b : Builtin) : b.command.name = "date" ↔ b = .date := by
  cases b <;> decide

end Builtin

/-! ### Lines -/

namespace Dispatcher

/-- A line calls the handler of a command: it is taken as a command, its first word is not the
riddle's and finds the command, and neither arguments nor clearance are missing. -/
structure Calls (d : Dispatcher) (s : Session) (line : String) (entry : Registry.Entry)
    (args : List String) : Prop where
  takes : s.takesCommand = true
  found : ∃ name, Text.words line = name :: args ∧ Text.lower name ≠ d.profile.riddle.command ∧
    d.registry.lookup name = some entry
  arity : entry.command.minArgs ≤ args.length
  cleared : entry.command.rootOnly = true → s.isRoot = true

variable {d : Dispatcher} {files : Filesystem} {s : Session} {rawLine line : String}
  {entry : Registry.Entry} {args : List String}

/-- The handler that a line calls is run. -/
theorem answer_of_calls (h : d.Calls s line entry args) :
    d.answer files s line = d.runHandler files s entry args line := by
  obtain ⟨hriddle, hawaiting⟩ := Session.takesCommand_iff.1 h.takes
  obtain ⟨name, hwords, hname, hfound⟩ := h.found
  have hcleared : (entry.command.rootOnly && !s.isRoot) = false := by
    cases hroot : entry.command.rootOnly with
    | false => rfl
    | true => rw [h.cleared hroot]; rfl
  simp only [answer, hriddle, hawaiting, runCommand, hwords, callCommand, hfound, hcleared,
    if_neg Bool.false_ne_true, if_neg hname, if_neg (Int.not_lt.2 h.arity)]

/-- A line that is not blank and calls no handler leaves no failure. -/
theorem commandFailed_mem_answer {name noted : String}
    (h : .commandFailed name noted ∈ (d.answer files s line).journal) :
    ∃ entry args, d.Calls s line entry args := by
  rw [answer] at h
  split_ifs at h with hriddle hawaiting
  -- Answers to the riddle and passwords are not the business of any handler.
  · rw [answerRiddle] at h
    split_ifs at h <;> exact absurd h List.not_mem_nil
  · rw [checkPassword] at h
    split_ifs at h <;> exact absurd h (by simp)
  · rw [runCommand] at h
    split at h
    · exact absurd h List.not_mem_nil
    · rename_i first args hwords
      split_ifs at h with hname
      · exact absurd h List.not_mem_nil
      · rw [callCommand] at h
        split at h
        · exact absurd h List.not_mem_nil
        · rename_i entry hfound
          split_ifs at h with harity hroot
          · exact absurd h List.not_mem_nil
          · exact absurd h List.not_mem_nil
          · refine ⟨entry, args, ⟨?_, ⟨first, hwords, hname, hfound⟩, Int.not_lt.1 harity, ?_⟩⟩
            · simp [Session.takesCommand, hriddle, hawaiting]
            · simpa using hroot

theorem commandFailed_mem_runHandler {name noted : String} :
    .commandFailed name noted ∈ (d.runHandler files s entry args line).journal ↔
      (entry.handler (d.context files s entry.command args)).failed = true ∧
        entry.command.name = name ∧ line = noted := by
  rw [runHandler]
  split_ifs with hfailed
  · simp [hfailed, eq_comm]
  · simp [hfailed]

/-- Whatever the registry is, a failure is noted when the handler that a line calls fails. -/
theorem commandFailed_mem_iff {name noted : String} :
    .commandFailed name noted ∈ (d.dispatch files s rawLine).journal ↔
      Text.trim rawLine ≠ "" ∧ Text.trim rawLine = noted ∧
        ∃ entry args, d.Calls s (Text.trim rawLine) entry args ∧ entry.command.name = name ∧
          (entry.handler (d.context files s entry.command args)).failed = true := by
  by_cases hline : Text.trim rawLine = ""
  · rw [dispatch_of_blank hline]
    simp [hline]
  · rw [dispatch_of_ne hline, recorded]
    dsimp only
    rw [List.mem_append, List.mem_singleton, or_iff_left nofun]
    constructor
    · intro hnoted
      obtain ⟨entry, args, hcalls⟩ := commandFailed_mem_answer hnoted
      rw [answer_of_calls hcalls, commandFailed_mem_runHandler] at hnoted
      obtain ⟨hfailed, hname, hsame⟩ := hnoted
      exact ⟨hline, hsame, entry, args, hcalls, hname, hfailed⟩
    · rintro ⟨-, hsame, entry, args, hcalls, hname, hfailed⟩
      rw [answer_of_calls hcalls, commandFailed_mem_runHandler]
      exact ⟨hfailed, hname, hsame⟩

/-- A handler that does not fail is answered with, as it has answered itself. -/
theorem reply_of_calls (hline : Text.trim rawLine ≠ "")
    (hcalls : d.Calls s (Text.trim rawLine) entry args)
    (hfailed : (entry.handler (d.context files s entry.command args)).failed = false) :
    (d.dispatch files s rawLine).reply =
      ⟨(entry.handler (d.context files s entry.command args)).lines,
        (entry.handler (d.context files s entry.command args)).events⟩ := by
  rw [dispatch_of_ne hline, recorded_reply, answer_of_calls hcalls, runHandler]
  simp only [hfailed, if_neg Bool.false_ne_true]

/-- A handler that fails is answered for by one line, whatever it has written and asked for. -/
theorem reply_of_calls_failed (hline : Text.trim rawLine ≠ "")
    (hcalls : d.Calls s (Text.trim rawLine) entry args)
    (hfailed : (entry.handler (d.context files s entry.command args)).failed = true) :
    (d.dispatch files s rawLine).reply = ⟨[entry.command.name ++ ": internal error"], []⟩ := by
  rw [dispatch_of_ne hline, recorded_reply, answer_of_calls hcalls, runHandler]
  simp only [hfailed, if_true]

/-- A blank line calls nothing. -/
theorem trim_ne_of_calls (hcalls : d.Calls s (Text.trim rawLine) entry args) :
    Text.trim rawLine ≠ "" := by
  intro hblank
  obtain ⟨name, hwords, -⟩ := hcalls.found
  rw [hblank] at hwords
  exact absurd hwords (by simp [Text.words, Text.wordsOfChars])

/-- Of the built-in commands, a line makes only the one fail that shows the date, when the clock
does. -/
theorem failed_iff_of_calls (hd : d.registry = .standard) (hcalls : d.Calls s line entry args) :
    (entry.handler (d.context files s entry.command args)).failed = true ↔
      entry.command.name = "date" ∧ d.clock.isOk = false := by
  obtain ⟨name, -, -, hfound⟩ := hcalls.found
  rw [hd] at hfound
  obtain ⟨b, rfl⟩ := Registry.exists_builtin_of_lookup hfound
  rw [b.name_eq_date_iff]
  exact Builtin.failed_run_of_arity hcalls.arity

/-- Whatever a line, a session and a file tree are: a line that is not blank has a first word, the
built-in command that it calls fails only if it shows the date and the clock fails, a failure is
noted only then, and while the clock works the command is answered with as it has answered. -/
theorem commands_never_fail (d : Dispatcher) (hd : d.registry = .standard) (files : Filesystem)
    (s : Session) (rawLine : String) :
    (Text.trim rawLine ≠ "" → ∃ name args, Text.words (Text.trim rawLine) = name :: args) ∧
      (∀ entry args, d.Calls s (Text.trim rawLine) entry args →
        ((entry.handler (d.context files s entry.command args)).failed = true ↔
          entry.command.name = "date" ∧ d.clock.isOk = false)) ∧
      (∀ name noted, .commandFailed name noted ∈ (d.dispatch files s rawLine).journal →
        name = "date" ∧ d.clock.isOk = false) ∧
      (d.clock.isOk = true → ∀ entry args, d.Calls s (Text.trim rawLine) entry args →
        (d.dispatch files s rawLine).reply =
          ⟨(entry.handler (d.context files s entry.command args)).lines,
            (entry.handler (d.context files s entry.command args)).events⟩) := by
  refine ⟨fun hline => ?_, fun entry args hcalls => failed_iff_of_calls hd hcalls,
    fun name noted hnoted => ?_, fun hclock entry args hcalls => ?_⟩
  · exact List.exists_cons_of_ne_nil (Text.words_trim_ne_nil hline)
  · obtain ⟨-, -, entry, args, hcalls, hname, hfailed⟩ := commandFailed_mem_iff.1 hnoted
    rw [← hname]
    exact (failed_iff_of_calls hd hcalls).1 hfailed
  · refine reply_of_calls (trim_ne_of_calls hcalls) hcalls (Bool.eq_false_iff.2 fun hfailed => ?_)
    have hbroken := ((failed_iff_of_calls hd hcalls).1 hfailed).2
    exact Bool.false_ne_true (hbroken.symm.trans hclock)

/-- A blank that is not on every keyboard comes before the command, and the visitor has to say what
to trigger. -/
theorem commands_never_fail_trigger :
    let d := standard (Profile.map .standard) [] (.ok "noon")
    let s := Session.fresh "id" "local"
    d.registry = .standard ∧ (Text.words (Text.trim "\u2003TRIGGER ufo") = ["TRIGGER", "ufo"]) ∧
      (d.dispatch .empty s "\u2003TRIGGER ufo").reply =
        ⟨["Triggered: ufo"], [.effect "ufo" 0]⟩ ∧
      .commandFailed "trigger" "trigger" ∉ (d.dispatch .empty s "trigger").journal := by
  intro d s
  have hd : d.registry = .standard := rfl
  have hcalls : d.Calls s (Text.trim "\u2003TRIGGER ufo")
      ⟨Builtin.trigger.command, Builtin.trigger.run⟩ ["ufo"] :=
    ⟨by decide, ⟨"TRIGGER", by decide, by decide, rfl⟩, by decide, by decide⟩
  refine ⟨hd, by decide, ?_, fun hnoted => ?_⟩
  · exact (commands_never_fail d hd .empty s "\u2003TRIGGER ufo").2.2.2 rfl _ _ hcalls
  · have hclock := ((commands_never_fail d hd .empty s "trigger").2.2.1 _ _ hnoted).2
    exact Bool.false_ne_true hclock.symm

end Dispatcher

end MissionConsole
