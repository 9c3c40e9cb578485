import MissionConsole.Proofs.Access.Root
import MissionConsole.Proofs.Dispatch.Journal
import Mathlib.Algebra.GroupWithZero.Nat
import Mathlib.Data.List.Induction

/-!
# Lockouts

Wrong passwords are counted in rounds: the one that completes a round raises an alert, and the next
one begins a new round. The count of a session is the place in the round, so that it tells, with the
alerts, how many wrong passwords there were, whatever lines were entered in between. It ends with
the right password: root is asked for none.

## Main definitions

* `Profile.strikes` — how many wrong passwords make a round
* `Dispatcher.Step`, `Dispatcher.steps` — the lines of a visit, with the sessions they were entered
  on and the answers
* `Dispatcher.Step.checked`, `Dispatcher.Step.refused` — lines taken as passwords, and wrong ones
* `Dispatcher.Tally` — what the lines of a visit come to

## Main results

* `Session.lockout_iff`, `Session.countFailure_eq` — the session's count tells when a round is
  complete
* `Dispatcher.Tally.step` — a line goes on counting where the lines before it have stopped
* `Dispatcher.lockout_accounting` — alerts, records and the count of any visit
-/

namespace MissionConsole

/-! ### Rounds -/

namespace Profile

/-- How many wrong passwords make a round. A threshold below one counts as one. -/
def strikes (p : Profile) : Nat := (max 1 p.lockoutThreshold).toNat

variable (p : Profile) (m : Nat)

theorem strikes_pos : 0 < p.strikes := by
  rw [strikes]
  omega

theorem coe_strikes : (p.strikes : Int) = max 1 p.lockoutThreshold := by
  rw [strikes]
  omega

/-- The place in the round after one more. -/
theorem add_one_mod_strikes :
    (m + 1) % p.strikes = if m % p.strikes + 1 = p.strikes then 0 else m % p.strikes + 1 := by
  have hplace : m % p.strikes < p.strikes := Nat.mod_lt m p.strikes_pos
  rw [← Nat.mod_add_mod]
  split_ifs with hfull
  · rw [hfull, Nat.mod_self]
  · exact Nat.mod_eq_of_lt (by omega)

end Profile

namespace Session

variable {s : Session} {p : Profile} {m : Nat}

/-- The wrong password after `m` others reaches the threshold when it completes a round. -/
theorem lockout_iff (h : s.failedAttempts = ((m % p.strikes : ℕ) : Int)) :
    p.lockoutThreshold ≤ s.failedAttempts + 1 ↔ (m + 1) % p.strikes = 0 := by
  have hplace : m % p.strikes < p.strikes := Nat.mod_lt m p.strikes_pos
  have hstrikes := p.coe_strikes
  rw [h, p.add_one_mod_strikes]
  generalize m % p.strikes = place at hplace ⊢
  by_cases hfull : place + 1 = p.strikes
  · rw [if_pos hfull]
    exact iff_of_true (by omega) rfl
  · rw [if_neg hfull]
    exact iff_of_false (by omega) (Nat.succ_ne_zero place)

/-- The count after one more wrong password is again the place in the round. -/
theorem countFailure_eq (h : s.failedAttempts = ((m % p.strikes : ℕ) : Int)) :
    s.countFailure p = (((m + 1) % p.strikes : ℕ) : Int) := by
  simp only [countFailure, lockout_iff h]
  split_ifs with hfull
  · rw [hfull]
    rfl
  · rw [p.add_one_mod_strikes] at hfull ⊢
    rw [if_neg fun hend => hfull (if_pos hend), h]
    rfl

end Session

namespace Dispatcher

/-! ### The lines of a visit -/

/-- A line of a visit: the session that it was entered on, the input and its answer. -/
structure Step where
  before : Session
  input : Input
  turn : Turn

namespace Step

/-- The line was taken as a password. -/
def checked (x : Step) : Bool := x.before.takesPassword && Text.trim x.input.line != ""

/-- The line was taken as a password, and it was wrong. -/
def refused (d : Dispatcher) (x : Step) : Bool :=
  x.checked && Text.trim x.input.line != d.profile.password

/-- How many alerts the line raised. -/
def alerts (x : Step) : Nat := x.turn.reply.events.countP (·.kind == .alert)

/-- What was recorded of passwords. -/
def logins (x : Step) : List Record :=
  (Journal.records x.turn.journal).filter (·.eventType == "auth")

theorem checked_iff {x : Step} :
    x.checked = true ↔ x.before.takesPassword = true ∧ Text.trim x.input.line ≠ "" := by
  simp [checked]

theorem checked_of_refused {d : Dispatcher} {x : Step} (h : x.refused d = true) :
    x.checked = true := by
  rw [refused, Bool.and_eq_true] at h
  exact h.1

end Step

variable {d : Dispatcher} {files : Filesystem} {s : Session} {i : Input}

/-- The line of a visit that an input is. -/
def stepOf (d : Dispatcher) (files : Filesystem) (s : Session) (i : Input) : Step :=
  ⟨s, i, d.step files s i⟩

/-- The lines of a visit. -/
def steps (d : Dispatcher) (files : Filesystem) (s : Session) : List Input → List Step
  | [] => []
  | i :: rest => d.stepOf files s i :: steps d files (d.step files s i).session rest

theorem after_concat (inputs : List Input) (i : Input) :
    d.after files s (inputs ++ [i]) = (d.step files (d.after files s inputs) i).session := by
  induction inputs generalizing s with
  | nil => rfl
  | cons first inputs ih => rw [List.cons_append, after_cons, after_cons, ih]

theorem steps_concat (inputs : List Input) (i : Input) :
    d.steps files s (inputs ++ [i]) =
      d.steps files s inputs ++ [d.stepOf files (d.after files s inputs) i] := by
  induction inputs generalizing s with
  | nil => rfl
  | cons first inputs ih => rw [List.cons_append, steps, steps, ih, after_cons, List.cons_append]

/-! ### One line -/

/-- The answer to a line that is taken as a password. -/
theorem step_of_checked (h : (d.stepOf files s i).checked = true) :
    d.step files s i =
      recorded s (Text.trim i.line) ((d.dated i.date).checkPassword s (Text.trim i.line)) := by
  obtain ⟨hs, hline⟩ := Step.checked_iff.1 h
  exact dispatch_of_password hline hs

/-- A line that is not a wrong password raises no alert as a password. -/
theorem alerts_of_not_refused (h : (d.stepOf files s i).refused d = false)
    (hchecked : (d.stepOf files s i).checked = true) : (d.stepOf files s i).alerts = 0 := by
  have hright : Text.trim i.line = (d.dated i.date).profile.password := by
    rwa [Step.refused, hchecked, Bool.true_and, bne_eq_false_iff_eq] at h
  rw [Step.alerts, stepOf, step_of_checked hchecked, recorded_reply, checkPassword, if_pos hright]
  rfl

/-- A line that is not a wrong password leaves the count alone, unless it makes the visitor root. -/
theorem attempts_of_not_refused (hd : d.registry = .standard)
    (h : (d.stepOf files s i).refused d = false)
    (hguest : (d.step files s i).session.isRoot = false) :
    (d.step files s i).session.failedAttempts = s.failedAttempts := by
  have hchange := change_step hd files s i
  generalize (d.step files s i).session = after at hchange hguest
  cases hchange with
  | granted => exact absurd hguest.symm Bool.false_ne_true
  | denied hs hline hwrong =>
    have hrefused : (d.stepOf files s i).refused d = true := by
      simp [Step.refused, Step.checked, stepOf, hs, hline, hwrong]
    exact absurd (h.symm.trans hrefused) Bool.false_ne_true
  | unchanged | asked | solved | challenged | moved => rfl

/-- Who is not root after a line was not root before it. -/
theorem isRoot_before (hd : d.registry = .standard)
    (h : (d.step files s i).session.isRoot = false) : s.isRoot = false := by
  by_contra hroot
  rw [Bool.not_eq_false] at hroot
  exact Bool.false_ne_true (h.symm.trans (isRoot_step_of_isRoot hd hroot))

theorem wrong_of_refused (h : (d.stepOf files s i).refused d = true) :
    Text.trim i.line ≠ d.profile.password := by
  rw [Step.refused, Bool.and_eq_true, bne_iff_ne] at h
  exact h.2

theorem alerts_checkPassword {line : String} (h : line ≠ d.profile.password) :
    (d.checkPassword s line).reply.events.countP (·.kind == .alert) =
      if d.profile.lockoutThreshold ≤ s.failedAttempts + 1 then 1 else 0 := by
  simp only [checkPassword, if_neg h, decide_eq_true_eq]
  split_ifs <;> rfl

/-- A wrong password raises one alert when it reaches the threshold. -/
theorem alerts_of_refused (h : (d.stepOf files s i).refused d = true) :
    (d.stepOf files s i).alerts =
      if d.profile.lockoutThreshold ≤ s.failedAttempts + 1 then 1 else 0 := by
  have hwrong : Text.trim i.line ≠ (d.dated i.date).profile.password := wrong_of_refused h
  rw [Step.alerts, stepOf, step_of_checked (Step.checked_of_refused h), recorded_reply]
  exact alerts_checkPassword hwrong

/-- A wrong password leaves one record. -/
theorem logins_of_refused (h : (d.stepOf files s i).refused d = true) :
    (d.stepOf files s i).logins =
      [.login s.id s.origin false (s.failedAttempts + 1)
        (decide (d.profile.lockoutThreshold ≤ s.failedAttempts + 1))] := by
  have hwrong : Text.trim i.line ≠ (d.dated i.date).profile.password := wrong_of_refused h
  rw [Step.logins, stepOf, step_of_checked (Step.checked_of_refused h), recorded,
    Journal.records_append, records_checkPassword, loginRecord, if_neg hwrong]
  rfl

theorem attempts_of_refused (h : (d.stepOf files s i).refused d = true) :
    (d.step files s i).session.failedAttempts = s.countFailure d.profile := by
  have hwrong : Text.trim i.line ≠ (d.dated i.date).profile.password := wrong_of_refused h
  rw [step_of_checked (Step.checked_of_refused h), recorded_session, checkPassword_of_wrong hwrong]
  rfl

/-! ### A visit -/

/-- What the lines of a visit come to, on the session that they have led to: with `m` wrong
passwords there were as many alerts as whole rounds, each wrong password was recorded with its place
in the round, and the session's count is the place of the last one. -/
structure Tally (d : Dispatcher) (id origin : String) (steps : List Step) (s : Session) : Prop where
  id_eq : s.id = id
  origin_eq : s.origin = origin
  alerts : ((steps.filter (·.checked)).map (·.alerts)).sum =
    (steps.filter (·.refused d)).length / d.profile.strikes
  alerts_le : ∀ x ∈ steps, x.checked = true → x.alerts ≤ 1
  logins : (steps.filter (·.refused d)).map (·.logins) =
    (List.range (steps.filter (·.refused d)).length).map fun k =>
      [.login id origin false ((k % d.profile.strikes + 1 : ℕ) : Int)
        (decide ((k + 1) % d.profile.strikes = 0))]
  attempts : s.isRoot = false →
    s.failedAttempts = (((steps.filter (·.refused d)).length % d.profile.strikes : ℕ) : Int)

namespace Tally

variable {id origin : String} {before : List Step}

theorem fresh (d : Dispatcher) (id origin : String) : Tally d id origin [] (.fresh id origin) where
  id_eq := rfl
  origin_eq := rfl
  alerts := by simp
  alerts_le := by simp
  logins := rfl
  attempts := fun _ => by simp [Session.fresh]

theorem alerts_le_step (h : Tally d id origin before s) {x : Step}
    (hx : x.checked = true → x.alerts ≤ 1) :
    ∀ y ∈ before ++ [x], y.checked = true → y.alerts ≤ 1 := by
  intro y hy
  rcases List.mem_append.1 hy with hy | hy
  · exact h.alerts_le y hy
  · rwa [List.mem_singleton.1 hy]

theorem step_of_not_refused (hd : d.registry = .standard) (h : Tally d id origin before s)
    (hrefused : (d.stepOf files s i).refused d = false) :
    Tally d id origin (before ++ [d.stepOf files s i]) (d.step files s i).session := by
  have hchange := change_step hd files s i
  have halerts := alerts_of_not_refused hrefused
  -- The right password is counted among the checks, but it raises no alert.
  refine ⟨hchange.id_eq.trans h.id_eq, hchange.origin_eq.trans h.origin_eq, ?_,
    h.alerts_le_step fun hchecked => ?_, ?_, fun hguest => ?_⟩
  · cases hchecked : (d.stepOf files s i).checked with
    | false => simpa [hchecked, hrefused] using h.alerts
    | true => simpa [hchecked, hrefused, halerts hchecked] using h.alerts
  · rw [halerts hchecked]
    exact Nat.zero_le 1
  · simpa [hrefused] using h.logins
  · rw [attempts_of_not_refused hd hrefused hguest]
    simpa [hrefused] using h.attempts (isRoot_before hd hguest)

theorem step_of_refused (hd : d.registry = .standard) (h : Tally d id origin before s)
    (hrefused : (d.stepOf files s i).refused d = true) :
    Tally d id origin (before ++ [d.stepOf files s i]) (d.step files s i).session := by
  have hchange := change_step hd files s i
  have hchecked := Step.checked_of_refused hrefused
  -- Who is asked for the password is no root, so that the count is the place in the round.
  have hguest : s.isRoot = false :=
    Session.isRoot_of_takesPassword (Step.checked_iff.1 hchecked).1
  have hsum := h.alerts
  have hlogins := h.logins
  have hattempts := h.attempts hguest
  generalize hm : (before.filter (·.refused d)).length = m at hsum hlogins hattempts
  have hlockout := Session.lockout_iff hattempts
  have halerts :
      (d.stepOf files s i).alerts = if (m + 1) % d.profile.strikes = 0 then 1 else 0 := by
    simp only [alerts_of_refused hrefused, hlockout]
  refine ⟨hchange.id_eq.trans h.id_eq, hchange.origin_eq.trans h.origin_eq, ?_,
    h.alerts_le_step fun _ => ?_, ?_, fun _ => ?_⟩
  · -- The quotient grows by one exactly when the remainder falls back to zero.
    simp [hchecked, hrefused, hm, hsum, halerts, Nat.succ_div, Nat.dvd_iff_mod_eq_zero]
  · rw [halerts]
    split_ifs <;> omega
  · have hlast := logins_of_refused hrefused
    simp only [hlockout] at hlast
    simp [hrefused, hm, hlogins, hlast, hattempts, h.id_eq, h.origin_eq, List.range_succ]
  · have hlength : ((before ++ [d.stepOf files s i]).filter (·.refused d)).length = m + 1 := by
      simp [hrefused, hm]
    rw [attempts_of_refused hrefused, hlength, Session.countFailure_eq hattempts]

/-- A line goes on counting where the lines before it have stopped. -/
theorem step (hd : d.registry = .standard) (h : Tally d id origin before s) (files : Filesystem)
    (i : Input) :
    Tally d id origin (before ++ [d.stepOf files s i]) (d.step files s i).session := by
  cases hrefused : (d.stepOf files s i).refused d with
  | false => exact h.step_of_not_refused hd hrefused
  | true => exact h.step_of_refused hd hrefused

end Tally

theorem tally_after (hd : d.registry = .standard) (files : Filesystem) (id origin : String)
    (inputs : List Input) :
    Tally d id origin (d.steps files (.fresh id origin) inputs)
      (d.after files (.fresh id origin) inputs) := by
  -- The last line is answered on the session that the lines before it have left.
  induction inputs using List.reverseRecOn with
  | nil => exact .fresh d id origin
  | append_singleton inputs i ih =>
    rw [steps_concat, after_concat]
    exact ih.step hd files i

/-- Wrong passwords are counted exactly, whatever lines are entered in between: the alerts raised by
them are as many as whole rounds, at most one by each, the record of each tells its place in the
round and whether it has completed it, and so does the session's count until the visitor is
root. -/
theorem lockout_accounting (d : Dispatcher) (hd : d.registry = .standard) (files : Filesystem)
    (id origin : String) (inputs : List Input) :
    let period := (max 1 d.profile.lockoutThreshold).toNat
    let steps := d.steps files (.fresh id origin) inputs
    let refused := steps.filter (·.refused d)
    let last := d.after files (.fresh id origin) inputs
    ((steps.filter (·.checked)).map (·.alerts)).sum = refused.length / period ∧
      (∀ x ∈ steps, x.checked = true → x.alerts ≤ 1) ∧
      (refused.map (·.logins) =
        (List.range refused.length).map fun k =>
          [.login id origin false ((k % period + 1 : ℕ) : Int) (decide ((k + 1) % period = 0))]) ∧
      (last.isRoot = false → last.failedAttempts = ((refused.length % period : ℕ) : Int)) := by
  have htally := tally_after hd files id origin inputs
  exact ⟨htally.alerts, htally.alerts_le, htally.logins, htally.attempts⟩

/-- A threshold below one makes every wrong password raise an alert. -/
theorem lockout_accounting_negative :
    let p : Profile := { Profile.map .standard with lockoutThreshold := -2 }
    let d := standard p [] (.ok "")
    let inputs : List Input :=
      [⟨"login", .ok ""⟩, ⟨" ", .ok ""⟩, ⟨"Legion", .ok ""⟩, ⟨"sudo su", .ok ""⟩, ⟨"login", .ok ""⟩,
        ⟨"probe", .ok ""⟩]
    let steps := d.steps .empty (.fresh "id" "local") inputs
    d.registry = .standard ∧ (steps.filter (·.refused d)).length = 2 ∧
      ((steps.filter (·.checked)).map (·.alerts)).sum = 2 := by
  intro p d inputs steps
  have hd : d.registry = .standard := rfl
  have hrefused : (steps.filter (·.refused d)).length = 2 := by decide
  have haccount := lockout_accounting d hd .empty "id" "local" inputs
  refine ⟨hd, hrefused, ?_⟩
  rw [haccount.1, hrefused]
  decide

end Dispatcher

end MissionConsole
