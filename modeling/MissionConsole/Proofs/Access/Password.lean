import MissionConsole.Proofs.Overlay.Operation

/-!
# What is seen of a password

Only whether it was right. Two consoles with two passwords, on which visitors enter the same lines
and, where a password is asked for, any two lines that are both right or both wrong, show the same
screen, keep the same history and log the same journal. A line is seen in four places, each of which
masks it for itself; that all of them mask the same lines is what the proof has to show. They do
because a riddle, which would be answered unmasked, never waits while a password is asked for.

## Main definitions

* `Dispatcher.withPassword`, `Console.withPassword` — the same with another password
* `Overlay.submissions` — lines entered one after the other
* `Overlay.Twin`, `Overlay.Twin.AllAlike` — two lines of one moment, and visits of lines that may
  differ in passwords alone

## Main results

* `Dispatcher.dispatch_withPassword` — a line other than a password does not see the password
* `Dispatcher.dispatch_withPassword_of_takesPassword` — two passwords are told apart by being right
  alone
* `Overlay.password_confidential` — nothing that is seen of a visit depends on a password
-/

namespace MissionConsole

/-- A dispatcher with another password. -/
def Dispatcher.withPassword (d : Dispatcher) (password : String) : Dispatcher :=
  { d with profile := { d.profile with password } }

/-- A console with another password. -/
def Console.withPassword (c : Console) (password : String) : Console :=
  { c with dispatcher := c.dispatcher.withPassword password }

@[simp] theorem Console.withPassword_dispatcher (c : Console) (password : String) :
    (c.withPassword password).dispatcher = c.dispatcher.withPassword password := rfl

@[simp] theorem Console.withPassword_files (c : Console) (password : String) :
    (c.withPassword password).files = c.files := rfl

/-! ### The dispatcher -/

namespace Dispatcher

variable {d : Dispatcher} {files : Filesystem} {s : Session} {password line other : String}

/-- No command sees the password. -/
theorem seenAlike_withPassword (d : Dispatcher) (files : Filesystem) (s : Session)
    (password : String) (command : Command) (args : List String) :
    (d.context files s command args).SeenAlike
      ((d.withPassword password).context files s command args) where
  args := rfl
  session := rfl
  alerts := rfl
  regions := rfl
  companies := rfl
  clock := rfl
  commands := rfl
  shape := rfl
  contents := fun _ _ => rfl

/-- A line that is not a password is answered alike, whatever the password is. -/
theorem dispatch_withPassword (hd : d.registry = .standard)
    (hs : s.awaitingPassword = true → Text.trim line = "") :
    (d.withPassword password).dispatch files s line = d.dispatch files s line := by
  by_cases hline : Text.trim line = ""
  · rw [dispatch_of_blank hline, dispatch_of_blank hline]
  · have hcalm : s.awaitingPassword = false := Bool.eq_false_iff.2 fun h => hline (hs h)
    cases hriddle : s.riddlePending with
    | true =>
      rw [dispatch_of_riddle hline hriddle, dispatch_of_riddle hline hriddle]
      rfl
    | false =>
      have htakes : s.takesCommand = true := Session.takesCommand_iff.2 ⟨hriddle, hcalm⟩
      have hd' : (d.withPassword password).registry = .standard := hd
      have hrun := runCommand_eq_of_seenAlike hd hd' rfl
        (seenAlike_withPassword d files s password) (Text.trim line)
      rw [dispatch_of_command hline htakes, dispatch_of_command hline htakes, hrun]

/-- Passwords that are both right or both wrong are answered alike. -/
theorem checkPassword_withPassword (hright : other = password ↔ line = d.profile.password) :
    (d.withPassword password).checkPassword s other = d.checkPassword s line := by
  by_cases hline : line = d.profile.password
  · have hother : other = (d.withPassword password).profile.password := hright.2 hline
    rw [checkPassword, checkPassword, if_pos hother, if_pos hline]
    rfl
  · have hother : other ≠ (d.withPassword password).profile.password := fun h =>
      hline (hright.1 h)
    rw [checkPassword, checkPassword, if_neg hother, if_neg hline]
    rfl

/-- Passwords that are both right or both wrong leave one record, which is masked. -/
theorem dispatch_withPassword_of_takesPassword (hs : s.takesPassword = true)
    (hline : Text.trim line ≠ "") (hother : Text.trim other ≠ "")
    (hright : Text.trim other = password ↔ Text.trim line = d.profile.password) :
    (d.withPassword password).dispatch files s other = d.dispatch files s line := by
  have hawaiting : s.awaitingPassword = true := (Session.takesPassword_iff.1 hs).2
  rw [dispatch_of_password hother hs, dispatch_of_password hline hs,
    checkPassword_withPassword hright, recorded, recorded, lineRecord, lineRecord, if_pos hawaiting,
    if_pos hawaiting]

end Dispatcher

namespace Overlay

variable {τ : Type} {c : Console} {o : Overlay τ} {password line other : String}

/-! ### The screen and the history -/

/-- The prompt does not see the password. -/
theorem prompt_withPassword (o : Overlay τ) : o.prompt (c.withPassword password) = o.prompt c := rfl

theorem append_withPassword (o : Overlay τ) (lines : List String) :
    o.append (c.withPassword password) lines = o.append c lines := rfl

theorem remember_withPassword (s : Session) (line : String) :
    remember (c.withPassword password) s line = remember c s line := rfl

theorem echoLine_withPassword (o : Overlay τ) (line : String) :
    o.echoLine (c.withPassword password) line = o.echoLine c line := rfl

/-- A password is shown masked. -/
theorem echoLine_of_awaiting (hs : o.session.awaitingPassword = true)
    (hline : Text.trim line ≠ "") :
    o.echoLine c line = Text.trimEnd (o.prompt c ++ " " ++ masked) := by
  simp [echoLine, hs, hline]

/-- A password is not remembered. -/
theorem remember_of_awaiting {s : Session} (hs : s.awaitingPassword = true) :
    remember c s line = s := by
  simp [remember, hs]

theorem awaitingPassword_remember (s : Session) :
    (remember c s line).awaitingPassword = s.awaitingPassword := by
  rcases remember_cases c s line with h | h <;> rw [h]
  rfl

variable [Timescale τ] {now : τ}

/-! ### Events -/

theorem apply_withPassword (o : Overlay τ) (e : Event) :
    o.apply (c.withPassword password) now e = o.apply c now e := by
  have hreact : o.react? (c.withPassword password) now e = o.react? c now e := by
    cases e <;> rfl
  rw [apply, apply, hreact]
  rfl

theorem applyAll_withPassword (o : Overlay τ) (events : List Event) :
    o.applyAll (c.withPassword password) now events = o.applyAll c now events := by
  induction events generalizing o with
  | nil => rfl
  | cons e rest ih => simp only [applyAll, apply_withPassword, ih]

/-! ### One line -/

/-- What a line looks like is told by its echo and by the answer of the dispatcher. -/
theorem submit_withPassword_of_dispatch (hecho : o.echoLine c other = o.echoLine c line)
    (hturn :
      (c.dispatcher.withPassword password).dispatch c.files (remember c o.session other) other =
        c.dispatcher.dispatch c.files (remember c o.session line) line) :
    o.submit (c.withPassword password) now other = o.submit c now line := by
  simp only [submit, echoLine_withPassword, append_withPassword, remember_withPassword,
    applyAll_withPassword, Console.withPassword_dispatcher, Console.withPassword_files,
    append_session, hecho, hturn]

/-- A line that is not a password looks the same on both consoles. -/
theorem submit_withPassword (hd : c.dispatcher.registry = .standard)
    (hs : o.session.awaitingPassword = true → Text.trim line = "") :
    o.submit (c.withPassword password) now line = o.submit c now line := by
  apply submit_withPassword_of_dispatch rfl
  apply Dispatcher.dispatch_withPassword hd
  rwa [awaitingPassword_remember]

/-- Two passwords that are both right or both wrong look the same. -/
theorem submit_withPassword_of_takesPassword (hs : o.session.takesPassword = true)
    (hline : Text.trim line ≠ "") (hother : Text.trim other ≠ "")
    (hright : Text.trim other = password ↔ Text.trim line = c.dispatcher.profile.password) :
    o.submit (c.withPassword password) now other = o.submit c now line := by
  have hawaiting : o.session.awaitingPassword = true := (Session.takesPassword_iff.1 hs).2
  apply submit_withPassword_of_dispatch
  · rw [echoLine_of_awaiting hawaiting hother, echoLine_of_awaiting hawaiting hline]
  · rw [remember_of_awaiting hawaiting, remember_of_awaiting hawaiting]
    exact Dispatcher.dispatch_withPassword_of_takesPassword hs hline hother hright

/-! ### Two visits -/

/-- Lines entered one after the other. -/
def submissions (c : Console) (o : Overlay τ) : List (Entry τ) → List (Submission τ)
  | [] => []
  | entry :: rest => o.enter c entry :: submissions c (o.enter c entry).overlay rest

/-- Two lines of one moment, each entered on a console of its own. -/
structure Twin (τ : Type) extends Entry τ where
  other : String

namespace Twin

/-- The line on the first console. -/
abbrev first (t : Twin τ) : Entry τ := t.toEntry

/-- The line on the second console. -/
def second (t : Twin τ) : Entry τ := { t.toEntry with line := t.other }

/-- The lines are equal; but where a password is asked for, two lines that are not blank need only
be both right or both wrong, each for its own console. -/
def Alike (c : Console) (password : String) (s : Session) (t : Twin τ) : Prop :=
  if s.awaitingPassword then
    Text.trim t.line = "" ∧ t.other = t.line ∨
      Text.trim t.line ≠ "" ∧ Text.trim t.other ≠ "" ∧
        (Text.trim t.other = password ↔ Text.trim t.line = c.dispatcher.profile.password)
  else t.other = t.line

/-- Each of the twins is alike when its turn comes, after the lines before it. -/
def AllAlike (c : Console) (password : String) (o : Overlay τ) (twins : List (Twin τ)) : Prop :=
  ∀ (k : Nat) (t : Twin τ), twins[k]? = some t →
    t.Alike c password (o.run c ((twins.take k).map fun t => .submit t.first)).session

theorem AllAlike.head {t : Twin τ} {twins : List (Twin τ)}
    (h : AllAlike c password o (t :: twins)) : t.Alike c password o.session :=
  h 0 t rfl

theorem AllAlike.tail {t : Twin τ} {twins : List (Twin τ)}
    (h : AllAlike c password o (t :: twins)) :
    AllAlike c password (o.enter c t.first).overlay twins := by
  intro k u hu
  have hu' := h (k + 1) u hu
  rwa [List.take_succ_cons, List.map_cons, run_cons, perform] at hu'

end Twin

/-- A riddle never waits while a password is asked for, so that all lines that may differ are taken
as passwords. -/
theorem enter_of_alike (hd : c.dispatcher.registry = .standard)
    (hsound : o.session.Sound c.dispatcher.profile c.files) {t : Twin τ}
    (halike : t.Alike c password o.session) :
    o.enter (c.withPassword password) t.second = o.enter c t.first := by
  have hdated : (c.withPassword password).dated t.date = (c.dated t.date).withPassword password :=
    rfl
  have hdate : (c.dated t.date).dispatcher.registry = .standard := hd
  rw [enter, enter, Twin.first, Twin.second, hdated]
  rw [Twin.Alike] at halike
  split_ifs at halike with hawaiting
  · rcases halike with ⟨hblank, hsame⟩ | ⟨hline, hother, hright⟩
    · rw [hsame]
      exact submit_withPassword hdate fun _ => hblank
    -- A riddle would see the lines themselves, but none waits here.
    · have hriddle : o.session.riddlePending = false :=
        Bool.eq_false_iff.2 fun h => hsound.exclusive ⟨h, hawaiting⟩
      have htakes : o.session.takesPassword = true :=
        Session.takesPassword_iff.2 ⟨hriddle, hawaiting⟩
      exact submit_withPassword_of_takesPassword (c := c.dated t.date) htakes hline hother hright
  · rw [halike]
    exact submit_withPassword hdate fun h => absurd h hawaiting

theorem submissions_withPassword (hd : c.dispatcher.registry = .standard)
    (hsound : o.session.Sound c.dispatcher.profile c.files) (twins : List (Twin τ))
    (halike : Twin.AllAlike c password o twins) :
    o.submissions (c.withPassword password) (twins.map Twin.second) =
      o.submissions c (twins.map Twin.first) := by
  -- One overlay comes out of both lines, so the visits go on from one overlay again.
  induction twins generalizing o with
  | nil => rfl
  | cons t twins ih =>
    have henter : o.enter (c.withPassword password) t.second = o.enter c t.first :=
      enter_of_alike hd hsound halike.head
    have hnext := sound_perform hd hsound (.submit t.first)
    rw [perform] at hnext
    rw [List.map_cons, List.map_cons, submissions, submissions, henter, ih hnext halike.tail]

/-- Two visits on consoles with two passwords, of lines that are equal but for passwords that are
both right or both wrong, are seen alike: the overlays with their screens, sessions and histories,
the replies, the journals and the prompts. -/
theorem password_confidential (c : Console) (hd : c.dispatcher.registry = .standard)
    (password id origin : String) (twins : List (Twin τ))
    (halike : Twin.AllAlike c password (Overlay.new c id origin) twins) :
    let seen := (Overlay.new c id origin).submissions c (twins.map Twin.first)
    let c' := c.withPassword password
    let seen' := (Overlay.new c' id origin).submissions c' (twins.map Twin.second)
    seen' = seen ∧ seen'.map (·.overlay.prompt c') = seen.map (·.overlay.prompt c) := by
  have hseen := submissions_withPassword hd (.fresh _ _ id origin) twins halike
  have hprompt : (fun turn : Submission τ => turn.overlay.prompt (c.withPassword password)) =
      fun turn => turn.overlay.prompt c := by
    funext turn
    exact prompt_withPassword turn.overlay
  refine ⟨hseen, ?_⟩
  rw [hprompt]
  exact congrArg _ hseen

/-- Logging in looks the same with either password, each on its own console. -/
theorem password_confidential_login :
    let c : Console := ⟨.standard (Profile.map .standard) [] (.ok ""), .empty, 0, 0, none⟩
    let c' := c.withPassword "phalanx"
    let twins : List (Twin Float) :=
      [⟨⟨⟨"login", .ok ""⟩, 0⟩, "login"⟩, ⟨⟨⟨" legion", .ok ""⟩, 0⟩, "phalanx "⟩]
    c.dispatcher.registry = .standard ∧
      Twin.AllAlike c "phalanx" (Overlay.new c "id" "local") twins ∧
      (Overlay.new c' "id" "local").submissions c' (twins.map Twin.second) =
        (Overlay.new c "id" "local").submissions c (twins.map Twin.first) := by
  intro c c' twins
  have hd : c.dispatcher.registry = .standard := rfl
  have halike : Twin.AllAlike c "phalanx" (Overlay.new c "id" "local") twins := by
    rintro (_ | _ | k) t ht
    · obtain rfl := Option.some.inj ht
      exact (if_neg (by decide)).mpr rfl
    · obtain rfl := Option.some.inj ht
      exact (if_pos (by decide)).mpr (.inr (by decide))
    · exact absurd ht (by simp [twins])
  exact ⟨hd, halike, (password_confidential c hd "phalanx" "id" "local" twins halike).1⟩

end Overlay

end MissionConsole
