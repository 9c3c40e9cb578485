import MissionConsole.Proofs.Dispatch.Identity
import MissionConsole.Proofs.Overlay.Submission

/-!
# A visit

Whatever host a visitor comes by, a visit is a sequence of lines that are answered one after the
other on one session, up to the line that ends the session. The clocks are read anew for each line.
What is answered, and what becomes of the session, does not depend on its id and origin.

## Main definitions

* `Reading`, `Clock` — what the clocks show at the moment of a line, and of each line
* `Entered`, `Answered` — a line with all that it has led to, and with what the visitor sees of it
* `Console.visit` — the lines of a visit with what the visitor sees of them

## Main results

* `Overlay.submit_alike` — a submitted line is answered as the dispatcher answers it
* `Console.lines_visit`, `Console.goesOn_of_mem_dropLast`, `Console.stops_visit` — a visit stops at
  the first line that ends the session, and nowhere else
-/

namespace MissionConsole

/-! ### Clocks -/

/-- What the clocks show at one moment: a reading of the one, and the date or the failure of the
other. -/
structure Reading (τ : Type) where
  now : τ
  date : Except String String

/-- What the clocks show at the moment of each line. -/
def Clock (τ : Type) : Type := Nat → Reading τ

namespace Clock

variable {τ : Type}

/-- What the clocks show for the next line. -/
def reading (clock : Clock τ) : Reading τ := clock 0

/-- What the clocks show after the next line. -/
def later (clock : Clock τ) : Clock τ := fun n => clock (n + 1)

/-- The clocks stand still. -/
def still (r : Reading τ) : Clock τ := fun _ => r

@[simp] theorem reading_still (r : Reading τ) : (still r).reading = r := rfl

@[simp] theorem later_still (r : Reading τ) : (still r).later = still r := rfl

end Clock

/-! ### Lines and what they lead to -/

/-- A line that was entered, with all that it has led to. -/
structure Entered (τ : Type) where
  line : String
  submission : Overlay.Submission τ

/-- A line with what the visitor sees of it: the reply, and the session after it, without id and
origin. -/
structure Answered where
  line : String
  reply : Reply
  session : Session

/-- What the visitor sees of a line that was entered. -/
def Entered.answered {τ : Type} (x : Entered τ) : Answered :=
  ⟨x.line, x.submission.reply, x.submission.overlay.session.anonymous⟩

/-- A line is the last one of its session. -/
def Answered.isLast (x : Answered) : Bool := Event.endsSession x.reply.events

theorem Answered.isLast_mk (line : String) (reply : Reply) (session : Session) :
    (⟨line, reply, session⟩ : Answered).isLast = Event.endsSession reply.events := rfl

namespace Console

variable {τ : Type}

theorem dated_clock (c : Console) : c.dated c.dispatcher.clock = c := rfl

/-- The answer to a line that is entered on a session. -/
def turn (c : Console) (s : Session) (r : Reading τ) (line : String) : Turn :=
  (c.dated r.date).dispatcher.dispatch c.files (Overlay.remember c s line) line

/-- The lines of a visit with what the visitor sees of them. -/
def visit (c : Console) (s : Session) (clock : Clock τ) : List String → List Answered
  | [] => []
  | line :: rest =>
    let turn := c.turn s clock.reading line
    ⟨line, turn.reply, turn.session.anonymous⟩ ::
      if Event.endsSession turn.reply.events then [] else c.visit turn.session clock.later rest

variable {c : Console} {s : Session} {clock : Clock τ} {lines : List String}

/-- The lines of a visit are the first ones of those that there are. -/
theorem lines_visit : (c.visit s clock lines).map (·.line) <+: lines := by
  induction lines generalizing s clock with
  | nil => exact List.nil_prefix
  | cons line rest ih =>
    rw [visit, List.map_cons, List.prefix_cons_inj]
    split_ifs
    · exact List.nil_prefix
    · exact ih

/-- Before the last line of a visit no line ends the session. -/
theorem goesOn_of_mem_dropLast :
    ∀ x ∈ (c.visit s clock lines).dropLast, x.isLast = false := by
  induction lines generalizing s clock with
  | nil => exact List.forall_mem_nil _
  | cons line rest ih =>
    rw [visit]
    split_ifs with hends
    · rw [List.dropLast_singleton]
      exact List.forall_mem_nil _
    · cases hrest : c.visit (c.turn s clock.reading line).session clock.later rest with
      | nil =>
        rw [List.dropLast_singleton]
        exact List.forall_mem_nil _
      | cons second more =>
        rw [List.dropLast_cons_cons, ← hrest]
        refine List.forall_mem_cons.2 ⟨?_, ih⟩
        rw [Answered.isLast_mk]
        exact Bool.eq_false_iff.2 hends

/-- A visit stops at the end of the lines, or at a line that ends the session. -/
theorem stops_visit :
    (c.visit s clock lines).map (·.line) = lines ∨
      ∃ x ∈ (c.visit s clock lines).getLast?, x.isLast = true := by
  induction lines generalizing s clock with
  | nil => exact .inl rfl
  | cons line rest ih =>
    rw [visit]
    split_ifs with hends
    · refine .inr ⟨_, List.getLast?_singleton, ?_⟩
      rw [Answered.isLast_mk]
      exact hends
    · refine ih.imp (fun hlines => congrArg (line :: ·) hlines) ?_
      rintro ⟨x, hx, hlast⟩
      exact ⟨x, List.mem_getLast?_cons hx, hlast⟩

end Console

namespace Overlay

variable {τ : Type} [Timescale τ] {c : Console} {o : Overlay τ} {s : Session}

theorem promptOf_anonymous (p : Profile) (s : Session) :
    promptOf p s.anonymous = promptOf p s := rfl

omit [Timescale τ] in
theorem remember_anonymous (c : Console) (s : Session) (line : String) :
    remember c s.anonymous line = (remember c s line).anonymous := by
  have hawaiting : s.anonymous.awaitingPassword = s.awaitingPassword := rfl
  rw [remember, remember, hawaiting]
  split_ifs <;> rfl

/-- A submitted line is answered as the dispatcher answers it, whoever the visitor is. -/
theorem submit_alike (hd : c.dispatcher.registry = .standard)
    (hs : o.session.anonymous = s.anonymous) (r : Reading τ) (line : String) :
    (o.submit (c.dated r.date) r.now line).reply = (c.turn s r line).reply ∧
      (o.submit (c.dated r.date) r.now line).overlay.session.anonymous =
        (c.turn s r line).session.anonymous := by
  have hd' : (c.dated r.date).dispatcher.registry = .standard := hd
  have hremembered : (remember c o.session line).anonymous = (remember c s line).anonymous := by
    rw [← remember_anonymous, ← remember_anonymous, hs]
  have halike := Dispatcher.alike_dispatch hd' c.files hremembered line
  rw [reply_submit, submit_session]
  exact ⟨halike.reply, halike.session⟩

/-- So it is with the date that the dispatcher's own clock shows. -/
theorem submit_alike_undated (hd : c.dispatcher.registry = .standard)
    (hs : o.session.anonymous = s.anonymous) (now : τ) (line : String) :
    (o.submit c now line).reply = (c.turn s ⟨now, c.dispatcher.clock⟩ line).reply ∧
      (o.submit c now line).overlay.session.anonymous =
        (c.turn s ⟨now, c.dispatcher.clock⟩ line).session.anonymous := by
  have halike := submit_alike hd hs ⟨now, c.dispatcher.clock⟩ line
  dsimp only at halike
  rwa [Console.dated_clock] at halike

theorem answered_submit (hd : c.dispatcher.registry = .standard)
    (hs : o.session.anonymous = s.anonymous) (r : Reading τ) (line : String) :
    (⟨line, o.submit (c.dated r.date) r.now line⟩ : Entered τ).answered =
      ⟨line, (c.turn s r line).reply, (c.turn s r line).session.anonymous⟩ := by
  obtain ⟨hreply, hsession⟩ := submit_alike hd hs r line
  rw [Entered.answered, hreply, hsession]

end Overlay

end MissionConsole
