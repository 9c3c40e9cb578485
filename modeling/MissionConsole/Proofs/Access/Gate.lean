import MissionConsole.Remote.Connection
import MissionConsole.Remote.Listener
import Mathlib.Logic.Basic
import Mathlib.Tactic.SplitIfs

/-!
# Who passes the gate

The gate holds visitors to the configured pair only when user name and password are both configured.
The listener looks at the user name alone when it announces itself. So a user name without a
password is announced as enforced, and lets everyone in.

## Main results

* `Credentials.letsIn_iff` — who is let in
* `Credentials.refuses_others_iff` — when nobody else is
* `Connection.startServer_of_login` — a connection asks the gate, and records what it says
* `Listener.enforced_by_both_announced_by_user` — what is announced against what is enforced
-/

namespace MissionConsole

namespace Credentials

variable {c : Credentials} {user password : String}

theorem enforced_iff : c.enforced = true ↔ c.user ≠ "" ∧ c.password ≠ "" := by
  simp [enforced]

/-- Who is let in: everyone, unless both values are configured, and who has got both right. -/
theorem letsIn_iff :
    (c.verdict user password).letsIn = true ↔
      c.user = "" ∨ c.password = "" ∨ user = c.user ∧ password = c.password := by
  rw [verdict]
  split_ifs with henforced hright
  · exact iff_of_true rfl (.inr (.inr hright))
  · obtain ⟨huser, hpassword⟩ := enforced_iff.1 henforced
    refine iff_of_false Bool.false_ne_true ?_
    rintro (hopen | hopen | hpair)
    · exact huser hopen
    · exact hpassword hopen
    · exact hright hpair
  · refine iff_of_true rfl ?_
    rw [enforced_iff, not_and_or, not_not, not_not] at henforced
    exact henforced.elim .inl fun hopen => .inr (.inl hopen)

/-- Others than the configured visitor are refused exactly when both values are configured. -/
theorem refuses_others_iff :
    (∀ user password, ¬(user = c.user ∧ password = c.password) →
        ¬(c.verdict user password).letsIn = true) ↔ c.user ≠ "" ∧ c.password ≠ "" := by
  constructor
  · -- Somebody else is refused, so the gate is not open.
    intro hrefuses
    have hother : ¬(c.user ++ "x" = c.user ∧ c.password = c.password) := by
      rintro ⟨hsame, -⟩
      simpa using congrArg String.length hsame
    have hrefused := hrefuses _ _ hother
    rw [letsIn_iff, not_or, not_or] at hrefused
    exact ⟨hrefused.1, hrefused.2.1⟩
  · rintro ⟨huser, hpassword⟩ user password hother hadmitted
    rcases letsIn_iff.1 hadmitted with hopen | hopen | hpair
    · exact huser hopen
    · exact hpassword hopen
    · exact hother hpair

theorem mode_eq_enforced_iff : c.mode = "credential-enforced" ↔ c.user ≠ "" := by
  rw [mode]
  split_ifs with huser
  · exact iff_of_false (by decide) (not_not.2 huser)
  · exact iff_of_true rfl huser

end Credentials

namespace Connection

/-- A connection that reaches the server asks a gate with the credentials that it was handed, and
records what the gate says. -/
theorem startServer_of_login {peer : Peer} {user password : String} (credentials : Credentials)
    (hreached : peer.fault .startServer = none) (hlogin : peer.login = some (user, password))
    (before : Connection) :
    (startServer peer credentials).run before =
      (.ok (), { before with
        trace := before.trace ++ [.startServer]
        journal := before.journal ++
          [.record (.transport peer.ip user (credentials.verdict user password).name)] }) := by
  simp only [startServer, reach, note, hreached, hlogin, Gate.checkPassword, Gate.new]
  rfl

end Connection

namespace Listener

variable {l : Listener} {arrivals : List Arrival}

/-- Every visitor is handed over with the credentials of the listener. -/
theorem credentials_of_handle {address : Json} {c : Credentials}
    (h : .handle address c ∈ (l.listen none arrivals).acts) : c = l.credentials := by
  simp only [listen, List.cons_append, List.mem_cons, List.mem_append, List.mem_flatMap,
    List.not_mem_nil, or_false, reduceCtorEq, false_or] at h
  obtain ⟨arrival, -, hact⟩ := h
  cases arrival with
  | visitor other =>
    rw [arrivalActs, List.mem_singleton, Act.handle.injEq] at hact
    exact hact.2
  | failure => exact absurd hact List.not_mem_nil

/-- What a listener announces and what its visitors meet. A visitor is let in unless user name and
password are both configured and one of the two is wrong; connections are handed the credentials of
the listener, and record what a gate with these says. The listener announces that credentials are
enforced when a user name is configured, and others than the configured visitor are then refused
exactly when a password is configured as well. -/
theorem enforced_by_both_announced_by_user (l : Listener) (arrivals : List Arrival)
    (clientIp : String) :
    let c := l.credentials
    let admits user password :=
      ((Gate.new clientIp c).checkPassword user password).1.letsIn = true
    (∀ user password, admits user password ↔
        c.user = "" ∨ c.password = "" ∨ user = c.user ∧ password = c.password) ∧
      (∀ address handed, .handle address handed ∈ (l.listen none arrivals).acts → handed = c) ∧
      (∀ (peer : Peer) (before : Connection) (user password : String),
        peer.fault .startServer = none → peer.login = some (user, password) →
          ((Connection.startServer peer c).run before).2.journal =
            before.journal ++
              [.record (.transport peer.ip user (c.verdict user password).name)]) ∧
      (l.listen none arrivals).journal =
        [.listening l.host l.port c.mode l.profile, .stopped] ∧
      (c.mode = "credential-enforced" ↔ c.user ≠ "") ∧
      (c.mode = "credential-enforced" →
        ((∀ user password, ¬(user = c.user ∧ password = c.password) → ¬admits user password) ↔
          c.password ≠ "")) := by
  intro c admits
  refine ⟨fun user password => Credentials.letsIn_iff, fun address handed => credentials_of_handle,
    fun peer before user password hreached hlogin => ?_, rfl, Credentials.mode_eq_enforced_iff,
    fun hmode => ?_⟩
  · rw [Connection.startServer_of_login c hreached hlogin]
  · have huser := Credentials.mode_eq_enforced_iff.1 hmode
    exact Credentials.refuses_others_iff.trans (and_iff_right huser)

/-- A user name without a password is announced as enforced, and anyone is let in. -/
theorem half_configured_admits_anyone :
    let c : Credentials := ⟨"ops", ""⟩
    c.mode = "credential-enforced" ∧ ¬(c.user = "" ∧ c.password = "") ∧
      ¬("mallory" = c.user ∧ "guess" = c.password) ∧
      ((Gate.new "10.0.0.1" c).checkPassword "mallory" "guess").1.letsIn = true := by
  decide

end Listener

end MissionConsole
