import MissionConsole.Proofs.Dispatch.Run

/-!
# How a visitor becomes root

There is one way to become root, which is to enter the password where it is asked for, and no way to
stop being root. Both follow from what a single line may make of a session, by induction over the
lines of a visit.

## Main definitions

* `Dispatcher.EntersPassword` — an input that is the password, entered where it is asked for

## Main results

* `Dispatcher.isRoot_step_iff` — after an input a visitor is root who was root or has entered the
  password
* `Dispatcher.isRoot_after_iff` — the same over a visit
* `Dispatcher.root_only_by_password` — a visitor who starts as a guest is root exactly when the
  password was entered, stays so, and unlocks nothing before
-/

namespace MissionConsole.Dispatcher

/-- The input is entered where a password is asked for and no riddle comes first, is not blank, and
is the password letter by letter. -/
def EntersPassword (d : Dispatcher) (s : Session) (i : Input) : Prop :=
  s.awaitingPassword = true ∧ s.riddlePending = false ∧ Text.trim i.line ≠ "" ∧
    Text.trim i.line = d.profile.password

variable {d : Dispatcher} {files : Filesystem} {s : Session} {i : Input}

/-! ### One input -/

theorem isRoot_step_of_entersPassword (h : d.EntersPassword s i) :
    (d.step files s i).session.isRoot = true := by
  obtain ⟨hawaiting, hriddle, hline, hright⟩ := h
  have hs : s.takesPassword = true := Session.takesPassword_iff.2 ⟨hriddle, hawaiting⟩
  have hright' : Text.trim i.line = (d.dated i.date).profile.password := hright
  rw [step, dispatch_of_password hline hs, recorded_session, checkPassword_of_right hright']
  rfl

/-- No line makes a visitor less than root. -/
theorem isRoot_step_of_isRoot (hd : d.registry = .standard) (hs : s.isRoot = true) :
    (d.step files s i).session.isRoot = true := by
  have hchange := change_step hd files s i
  generalize (d.step files s i).session = after at hchange
  cases hchange with
  | unchanged => exact hs
  | asked => exact hs
  | solved => exact hs
  | granted => rfl
  | denied hpassword => exact absurd hs (by simp [Session.isRoot_of_takesPassword hpassword])
  | challenged _ hroot => exact absurd hs (by simp [hroot])
  | moved => exact hs

theorem isRoot_step_iff (hd : d.registry = .standard) :
    (d.step files s i).session.isRoot = true ↔ s.isRoot = true ∨ d.EntersPassword s i := by
  constructor
  · intro hroot
    -- Of all that a line may make of a session, only the right password makes it root.
    have hchange := change_step hd files s i
    generalize (d.step files s i).session = after at hchange hroot
    cases hchange with
    | unchanged => exact .inl hroot
    | asked => exact .inl hroot
    | solved => exact .inl hroot
    | granted hpassword hline hright =>
      obtain ⟨hriddle, hawaiting⟩ := Session.takesPassword_iff.1 hpassword
      exact .inr ⟨hawaiting, hriddle, hline, hright⟩
    | denied => exact absurd hroot Bool.false_ne_true
    | challenged => exact absurd hroot Bool.false_ne_true
    | moved => exact .inl hroot
  · rintro (hroot | henters)
    · exact isRoot_step_of_isRoot hd hroot
    · exact isRoot_step_of_entersPassword henters

/-! ### The command that is for root only -/

theorem lookup_unlockAll {name : String} (h : Text.lower name = "unlock-all") :
    Registry.standard.lookup name = some ⟨Builtin.unlockAll.command, Builtin.unlockAll.run⟩ := by
  have hlower : Text.lower "unlock-all" = "unlock-all" := by decide
  rw [Registry.standard.lookup_eq_of_lower_eq (h.trans hlower.symm)]
  rfl

/-- Who is not root is answered without events; the riddle's command may even hide the other. -/
theorem events_runCommand_unlockAll (hd : d.registry = .standard) (hs : s.isRoot = false)
    {line name : String} {args : List String} (hline : Text.words line = name :: args)
    (hname : Text.lower name = "unlock-all") :
    (d.runCommand files s line).reply.events = [] := by
  have hguard : (Builtin.unlockAll.command.rootOnly && !s.isRoot) = true := by
    rw [hs]
    rfl
  simp only [runCommand, hline]
  split_ifs
  · rfl
  -- The arguments are counted before the clearance is looked at, and neither lets the guest pass.
  · simp only [callCommand, hd, lookup_unlockAll hname]
    rw [if_pos hguard]
    split_ifs <;> rfl

theorem events_step_unlockAll (hd : d.registry = .standard) (hs : s.isRoot = false)
    (htakes : s.takesCommand = true) {name : String} {args : List String}
    (hwords : Text.words (Text.trim i.line) = name :: args)
    (hname : Text.lower name = "unlock-all") : (d.step files s i).reply.events = [] := by
  have hline : Text.trim i.line ≠ "" := by
    intro hblank
    rw [hblank] at hwords
    exact absurd hwords (by simp [Text.words, Text.wordsOfChars])
  have hdate : (d.dated i.date).registry = .standard := hd
  rw [step, dispatch_of_command hline htakes, recorded_reply]
  exact events_runCommand_unlockAll hdate hs hwords hname

/-! ### A visit -/

theorem isRoot_after_iff (hd : d.registry = .standard) (inputs : List Input) :
    (d.after files s inputs).isRoot = true ↔
      s.isRoot = true ∨
        ∃ k i, inputs[k]? = some i ∧ d.EntersPassword (d.after files s (inputs.take k)) i := by
  -- The password is the first input, or an input of the visit that goes on behind the first.
  induction inputs generalizing s with
  | nil => simp
  | cons first inputs ih =>
    rw [after_cons, ih, isRoot_step_iff hd]
    constructor
    · rintro ((hroot | henters) | ⟨k, i, hi, henters⟩)
      · exact .inl hroot
      · exact .inr ⟨0, first, rfl, henters⟩
      · refine .inr ⟨k + 1, i, hi, ?_⟩
        rwa [List.take_succ_cons, after_cons]
    · rintro (hroot | ⟨k, i, hi, henters⟩)
      · exact .inl (.inl hroot)
      · cases k with
        | zero =>
          obtain rfl : first = i := Option.some.inj hi
          exact .inl (.inr henters)
        | succ k =>
          rw [List.take_succ_cons, after_cons] at henters
          exact .inr ⟨k, i, hi, henters⟩

/-- A visitor who starts as a guest is root after some lines exactly when one of them was the
password, entered where it was asked for. Whatever a session is, no line makes root any less, and
the command that unlocks everything has no effect for others. -/
theorem root_only_by_password (d : Dispatcher) (hd : d.registry = .standard) (files : Filesystem)
    (id origin : String) (inputs : List Input) :
    ((d.after files (.fresh id origin) inputs).isRoot = true ↔
        ∃ k i, inputs[k]? = some i ∧
          d.EntersPassword (d.after files (.fresh id origin) (inputs.take k)) i) ∧
      (∀ s i, s.isRoot = true → (d.step files s i).session.isRoot = true) ∧
      ∀ s i name args, s.isRoot = false → s.takesCommand = true →
        Text.words (Text.trim i.line) = name :: args → Text.lower name = "unlock-all" →
        (d.step files s i).reply.events = [] := by
  refine ⟨?_, fun s i => isRoot_step_of_isRoot hd, fun s i name args hs htakes hwords hname =>
    events_step_unlockAll hd hs htakes hwords hname⟩
  rw [isRoot_after_iff hd]
  exact or_iff_right Bool.false_ne_true

/-- On the map's console the password of the standard settings makes root after `login`, and a guest
unlocks nothing. -/
theorem root_of_login_legion :
    let d := standard (Profile.map .standard) [] (.ok "")
    let inputs : List Input := [⟨"login", .ok ""⟩, ⟨" legion ", .ok ""⟩]
    d.registry = .standard ∧ (d.after .empty (.fresh "id" "local") inputs).isRoot = true ∧
      (d.step .empty (.fresh "id" "local") ⟨"unlock-all", .ok ""⟩).reply.events = [] := by
  intro d inputs
  have hd : d.registry = .standard := rfl
  have hroot := root_only_by_password d hd .empty "id" "local" inputs
  refine ⟨hd, hroot.1.2 ⟨1, ⟨" legion ", .ok ""⟩, rfl, ?_⟩, ?_⟩
  · refine ⟨?_, ?_, ?_, ?_⟩ <;> decide
  · exact hroot.2.2 _ _ "unlock-all" [] rfl rfl (by decide) (by decide)

end MissionConsole.Dispatcher
