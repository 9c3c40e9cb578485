import MissionConsole.Proofs.Overlay.Operation
import MissionConsole.Proofs.Retention.Newest

/-!
# The screen and the transcript

What is shown on a screen with a limit is the end of its transcript. A transcript gains all lines
that the screen gains, and begins anew where the screen is cleared; but nothing is removed from its
front. An overlay never looks at its lines, so it goes on in the same way whichever of the two it
carries, and the two are compared operation by operation.

That the screen is the end of the transcript asks for a limit of at least two lines, for a fresh
screen has as many. With a limit of one the screen is still bounded, by those two lines. With the
limit zero nothing is ever removed, and the screen grows with the transcript.

## Main definitions

* `Overlay.Mark`, `Overlay.marks` — what an operation does to the screen
* `Overlay.record`, `Overlay.recorded` — operations on an overlay that carries its transcript
* `Overlay.transcript` — what such an overlay carries in the end

## Main results

* `Overlay.perform_withLines` — an operation does not look at the lines
* `Overlay.perform_cut` — an operation on a screen that is the end of a transcript
* `Overlay.lines_run_eq_rtake` — the screen is the end of the transcript
* `Overlay.bounded_iff_limit_ne_zero` — which limits bound the screen
-/

namespace MissionConsole

namespace Overlay

/-! ### Marks -/

/-- What happens to a screen: lines are added to it, or it is cleared. -/
inductive Mark where
  | added (lines : List String)
  | cleared

namespace Mark

/-- What a mark makes of a screen, which keeps as many lines as the limit says. -/
def onScreen (c : Console) (screen : List String) : Mark → List String
  | .added lines => Retention.keep c.scrollbackSize (screen ++ lines)
  | .cleared => freshScreen c

/-- What a mark makes of a transcript, which keeps all lines. -/
def inTranscript (c : Console) (transcript : List String) : Mark → List String
  | .added lines => transcript ++ lines
  | .cleared => freshScreen c

theorem onScreen_dated (c : Console) (date : Except String String) :
    onScreen (c.dated date) = onScreen c := by
  funext screen m
  cases m <;> rfl

end Mark

section Events

variable (τ : Type) [Timescale τ]

/-- Whether an event can be carried out: an alert may be too long for the clock. -/
def canCarryOut : Event → Bool
  | .alert durationMs => (Timescale.millis? durationMs : Option τ).isSome
  | _ => true

/-- What an event does to the screen. -/
def eventMarks : Event → List Mark
  | .clear => [.cleared]
  | _ => []

/-- What events do to the screen, up to the first one that cannot be carried out. -/
def marksOf (events : List Event) : List Mark :=
  (events.takeWhile (canCarryOut τ)).flatMap eventMarks

end Events

variable {τ : Type} [Timescale τ]

/-- What the dispatcher answers to a line. -/
def turn (c : Console) (o : Overlay τ) (line : String) : Turn :=
  c.dispatcher.dispatch c.files (remember c o.session line) line

/-- What a line does to the screen: it is echoed, the answer follows, and the events come last. -/
def turnMarks (c : Console) (o : Overlay τ) (line : String) : List Mark :=
  .added [o.echoLine c line] :: .added (o.turn c line).reply.lines ::
    marksOf τ (o.turn c line).reply.events

/-- What an operation does to the screen. -/
def marks (c : Console) (o : Overlay τ) : Operation τ → List Mark
  | .submit entry => o.turnMarks (c.dated entry.date) entry.line
  | .append lines => [.added lines]
  | .close => [.cleared]
  | .toggle => if o.isOpen then [.cleared] else []
  | .open | .hide => []

/-! ### Transcripts -/

/-- An operation on an overlay that carries its transcript in place of the screen. -/
def record (c : Console) (o : Overlay τ) (operation : Operation τ) : Overlay τ :=
  { o.perform c operation with
    lines := (o.marks c operation).foldl (Mark.inTranscript c) o.lines }

/-- Operations on such an overlay. -/
def recorded (c : Console) (o : Overlay τ) (operations : List (Operation τ)) : Overlay τ :=
  operations.foldl (record c) o

/-- The transcript of operations. -/
def transcript (c : Console) (o : Overlay τ) (operations : List (Operation τ)) : List String :=
  (o.recorded c operations).lines

/-! ### An operation does not look at the lines -/

/-- An overlay with other lines on its screen. -/
def withLines (o : Overlay τ) (lines : List String) : Overlay τ := { o with lines }

omit [Timescale τ] in
theorem withLines_lines (o : Overlay τ) : o.withLines o.lines = o := rfl

omit [Timescale τ] in
theorem withLines_withLines (o : Overlay τ) (lines lines' : List String) :
    (o.withLines lines).withLines lines' = o.withLines lines' := rfl

variable {c : Console} {now : τ} {e : Event}

omit [Timescale τ] in
theorem notify_withLines (o : Overlay τ) (lines : List String) (e : Event) :
    ((o.withLines lines).notify c e).1 = (o.notify c e).1.withLines lines := by
  rw [notify, notify]
  cases c.callback <;> rfl

theorem react?_of_canCarryOut (c : Console) (now : τ) (o : Overlay τ) (h : canCarryOut τ e = true) :
    ∃ after, o.react? c now e = some after ∧ ∀ lines,
      (o.withLines lines).react? c now e =
        some (after.withLines ((eventMarks e).foldl (Mark.onScreen c) lines)) := by
  cases e with
  | alert durationMs =>
    obtain ⟨d, hd⟩ := Option.isSome_iff_exists.1 h
    refine ⟨{ o with alertUntil := now + d }, ?_, fun lines => ?_⟩
    · rw [react?, hd]
      rfl
    · rw [react?, hd]
      rfl
  | _ => exact ⟨_, rfl, fun _ => rfl⟩

/-- An event that cannot be carried out is the last one, and leaves everything as it is. -/
theorem apply_of_not_canCarryOut (o : Overlay τ) (h : canCarryOut τ e = false) :
    o.apply c now e = ⟨o, [], some .durationTooLong⟩ := by
  cases e with
  | alert durationMs =>
    have hlong : (Timescale.millis? durationMs : Option τ) = none :=
      Option.not_isSome_iff_eq_none.1 (Bool.eq_false_iff.1 h)
    rw [apply, react?, hlong]
    rfl
  | _ => exact absurd h Bool.noConfusion

theorem escaped_apply (o : Overlay τ) (h : canCarryOut τ e = true) :
    (o.apply c now e).escaped = none := by
  obtain ⟨after, hreact, -⟩ := react?_of_canCarryOut c now o h
  rw [apply, hreact]

theorem apply_withLines (o : Overlay τ) (lines : List String) (h : canCarryOut τ e = true) :
    ((o.withLines lines).apply c now e).overlay =
      (o.apply c now e).overlay.withLines ((eventMarks e).foldl (Mark.onScreen c) lines) := by
  obtain ⟨after, hreact, hlines⟩ := react?_of_canCarryOut c now o h
  rw [apply, apply, hreact, hlines]
  exact notify_withLines after _ e

/-- Events are carried out alike, whatever the lines are, and mark them alike. -/
theorem applyAll_withLines (c : Console) (now : τ) (o : Overlay τ) (lines : List String)
    (events : List Event) :
    ((o.withLines lines).applyAll c now events).overlay =
      (o.applyAll c now events).overlay.withLines
        ((marksOf τ events).foldl (Mark.onScreen c) lines) := by
  induction events generalizing o lines with
  | nil => rfl
  | cons e rest ih =>
    cases hcan : canCarryOut τ e with
    | false =>
      -- The events behind this one are not carried out, nor do they leave a mark.
      have hmarks : marksOf τ (e :: rest) = [] := by
        rw [marksOf, List.takeWhile_cons_of_neg (by simp [hcan]), List.flatMap_nil]
      rw [hmarks, applyAll, applyAll, apply_of_not_canCarryOut _ hcan,
        apply_of_not_canCarryOut _ hcan]
      rfl
    | true =>
      have hmarks : marksOf τ (e :: rest) = eventMarks e ++ marksOf τ rest := by
        rw [marksOf, List.takeWhile_cons_of_pos hcan, List.flatMap_cons, marksOf]
      have hgoes : ∀ o : Overlay τ, (o.applyAll c now (e :: rest)).overlay =
          ((o.apply c now e).overlay.applyAll c now rest).overlay := by
        intro o
        simp [applyAll, escaped_apply o hcan]
      rw [hgoes, hgoes, apply_withLines o lines hcan, ih, hmarks, List.foldl_append]

/-- A line leaves one overlay behind, with a screen that is marked by the line. -/
theorem exists_submit_withLines (c : Console) (now : τ) (o : Overlay τ) (line : String) :
    ∃ last : Overlay τ, ∀ screen : List String,
      ((o.withLines screen).submit c now line).overlay =
        last.withLines ((o.turnMarks c line).foldl (Mark.onScreen c) screen) := by
  -- The answer does not depend on the lines, so the events meet one overlay but for its screen.
  let next : Overlay τ := { o with session := (o.turn c line).session }
  refine ⟨(next.applyAll c now (o.turn c line).reply.events).overlay, fun screen => ?_⟩
  have hevents := applyAll_withLines c now next
    (Retention.keep c.scrollbackSize
      (Retention.keep c.scrollbackSize (screen ++ [o.echoLine c line]) ++
        (o.turn c line).reply.lines)) (o.turn c line).reply.events
  rw [turnMarks, List.foldl_cons, List.foldl_cons, Mark.onScreen, Mark.onScreen, ← hevents]
  simp only [submit, append, turn, withLines]
  rfl

/-- A line is answered alike, whatever the lines on the screen are, and marks them alike. -/
theorem submit_withLines (c : Console) (now : τ) (o : Overlay τ) (lines : List String)
    (line : String) :
    ((o.withLines lines).submit c now line).overlay =
      (o.submit c now line).overlay.withLines
        ((o.turnMarks c line).foldl (Mark.onScreen c) lines) := by
  obtain ⟨last, hscreen⟩ := exists_submit_withLines c now o line
  have hown := hscreen o.lines
  rw [withLines_lines] at hown
  rw [hscreen lines, hown, withLines_withLines]

/-- An operation does not look at the lines: whatever they are, all else becomes the same, and the
lines are marked alike. -/
theorem perform_withLines (o : Overlay τ) (lines : List String) (operation : Operation τ) :
    (o.withLines lines).perform c operation =
      (o.perform c operation).withLines
        ((o.marks c operation).foldl (Mark.onScreen c) lines) := by
  cases operation with
  | submit entry =>
    have hline := submit_withLines (c.dated entry.date) entry.now o lines entry.line
    rwa [Mark.onScreen_dated] at hline
  | toggle =>
    rw [perform, perform, marks, toggle, toggle]
    have hopen : (o.withLines lines).isOpen = o.isOpen := rfl
    rw [hopen]
    split_ifs
    · rfl
    · rfl
  | «open» | hide | close | append lines => rfl

/-! ### The end of a transcript -/

/-- The overlay whose screen is the end of the transcript that an overlay carries. -/
def cut (c : Console) (o : Overlay τ) : Overlay τ :=
  o.withLines (o.lines.rtake c.scrollbackSize.toNat)

theorem rtake_freshScreen (h : 2 ≤ c.scrollbackSize) :
    (freshScreen c).rtake c.scrollbackSize.toNat = freshScreen c := by
  have hnothing : (freshScreen c).length - c.scrollbackSize.toNat = 0 := by
    have hlength : (freshScreen c).length = 2 := rfl
    omega
  rw [List.rtake, hnothing, List.drop_zero]

/-- A mark on the end of a transcript leaves the end of the marked transcript. -/
theorem Mark.onScreen_rtake (h : 2 ≤ c.scrollbackSize) (transcript : List String) (m : Mark) :
    m.onScreen c (transcript.rtake c.scrollbackSize.toNat) =
      (m.inTranscript c transcript).rtake c.scrollbackSize.toNat := by
  cases m with
  | added lines =>
    have hpos : 0 < c.scrollbackSize := by omega
    rw [onScreen, inTranscript, Retention.keep_eq_rtake hpos, Retention.rtake_rtake_append]
  | cleared => exact (rtake_freshScreen h).symm

/-- An operation on a screen that is the end of a transcript leaves the end of the transcript that
the operation leaves. -/
theorem perform_cut (h : 2 ≤ c.scrollbackSize) (o : Overlay τ) (operation : Operation τ) :
    (o.cut c).perform c operation = (o.record c operation).cut c := by
  -- The marks are those of `o` on both sides, and each of them goes past the cut.
  have hmarks : (o.marks c operation).foldl (Mark.onScreen c)
        (o.lines.rtake c.scrollbackSize.toNat) =
      ((o.marks c operation).foldl (Mark.inTranscript c) o.lines).rtake c.scrollbackSize.toNat :=
    List.foldl_hom (List.rtake · c.scrollbackSize.toNat) (Mark.onScreen_rtake h)
  rw [cut, perform_withLines, hmarks]
  rfl

theorem run_cut (h : 2 ≤ c.scrollbackSize) (o : Overlay τ) (operations : List (Operation τ)) :
    (o.cut c).run c operations = (o.recorded c operations).cut c :=
  List.foldl_hom (cut c) (perform_cut h)

/-- Whatever is done with a new overlay whose limit leaves room for a fresh screen, its screen is
the end of the transcript, as long as the limit allows, and all else is as on the overlay that
carries the transcript. -/
theorem lines_run_eq_rtake (c : Console) (h : 2 ≤ c.scrollbackSize) (id origin : String)
    (operations : List (Operation τ)) :
    let o : Overlay τ := new c id origin
    (o.run c operations).lines = (o.transcript c operations).rtake c.scrollbackSize.toNat ∧
      o.run c operations = (o.recorded c operations).withLines (o.run c operations).lines := by
  intro o
  -- A new overlay shows a fresh screen, and there is room for that.
  have hnew : o.cut c = o := by
    have hfresh : o.lines.rtake c.scrollbackSize.toNat = o.lines := rtake_freshScreen h
    rw [cut, hfresh, withLines_lines]
  have hrun := run_cut h o operations
  rw [hnew] at hrun
  rw [hrun]
  exact ⟨rfl, rfl⟩

/-- A screen of three lines under a batch that is longer, and a cleared one. -/
theorem lines_run_eq_rtake_three :
    let c : Console := ⟨.standard (Profile.map .standard) [] (.ok ""), .empty, 0, 3, none⟩
    let o : Overlay Int := new c "id" "local"
    let clear : Operation Int := .submit ⟨⟨"clear", .ok ""⟩, 7⟩
    let operations : List (Operation Int) :=
      [.append ["a", "b", "c", "d"], .open, clear, .append ["e", "f"]]
    2 ≤ c.scrollbackSize ∧ (o.run c operations).lines = ["", "e", "f"] := by
  intro c o clear operations
  have h : 2 ≤ c.scrollbackSize := by decide
  have htranscript : o.transcript c operations = freshScreen c ++ ["e", "f"] := by decide
  refine ⟨h, ?_⟩
  calc
    (o.run c operations).lines = (o.transcript c operations).rtake 3 :=
      (lines_run_eq_rtake c h "id" "local" operations).1
    _ = (freshScreen c ++ ["e", "f"]).rtake 3 := by rw [htranscript]
    _ = ["", "e", "f"] := rfl

/-! ### Which limits bound the screen -/

theorem perform_eq_withLines (o : Overlay τ) (operation : Operation τ) :
    o.perform c operation =
      (o.perform c operation).withLines
        ((o.marks c operation).foldl (Mark.onScreen c) o.lines) := by
  have hown := perform_withLines (c := c) o o.lines operation
  rwa [withLines_lines] at hown

theorem lines_perform (o : Overlay τ) (operation : Operation τ) :
    (o.perform c operation).lines =
      (o.marks c operation).foldl (Mark.onScreen c) o.lines :=
  congrArg Overlay.lines (perform_eq_withLines o operation)

theorem Mark.length_onScreen_le (h : 0 < c.scrollbackSize) (screen : List String) (m : Mark) :
    (m.onScreen c screen).length ≤ max c.scrollbackSize.toNat 2 := by
  cases m with
  | added lines =>
    rw [onScreen, Retention.length_keep h]
    omega
  | cleared => exact Nat.le_max_right _ _

/-- A limit that is not zero bounds the screen, where a fresh one has two lines. -/
theorem length_lines_run_le (h : 0 < c.scrollbackSize) {o : Overlay τ}
    (ho : o.lines.length ≤ max c.scrollbackSize.toNat 2) (operations : List (Operation τ)) :
    (o.run c operations).lines.length ≤ max c.scrollbackSize.toNat 2 := by
  refine run_invariant (fun o => o.lines.length ≤ max c.scrollbackSize.toNat 2) ?_ ho operations
  intro o operation ho
  rw [lines_perform]
  -- The last mark decides, and without any the screen stays as it was.
  induction o.marks c operation using List.reverseRecOn with
  | nil => exact ho
  | append_singleton marks m ih =>
    rw [List.foldl_concat]
    exact m.length_onScreen_le h _

/-- Under the limit zero an overlay carries its transcript. -/
theorem run_of_limit_zero (h : c.scrollbackSize = 0) (o : Overlay τ)
    (operations : List (Operation τ)) : o.run c operations = o.recorded c operations := by
  -- A screen that keeps everything takes its marks as a transcript does.
  have hmark : Mark.onScreen c = Mark.inTranscript c := by
    funext screen m
    cases m with
    | added lines => rw [Mark.onScreen, Mark.inTranscript, h, Retention.keep_zero]
    | cleared => rfl
  have hperform : (perform c : Overlay τ → Operation τ → Overlay τ) = record c := by
    funext o operation
    have hown := perform_eq_withLines (c := c) o operation
    rwa [hmark] at hown
  rw [run, recorded, hperform]

/-- Of the limits that are not negative, all but zero bound the screen: it never has more lines than
the limit, or two where the limit is less than a fresh screen. Under the limit zero nothing is ever
removed from its front, so that it is the whole transcript. -/
theorem bounded_iff_limit_ne_zero (c : Console) (h : 0 ≤ c.scrollbackSize) (id origin : String) :
    let o : Overlay τ := new c id origin
    ((∀ operations, (o.run c operations).lines.length ≤ max c.scrollbackSize.toNat 2) ↔
        c.scrollbackSize ≠ 0) ∧
      (c.scrollbackSize = 0 →
        ∀ operations, (o.run c operations).lines = o.transcript c operations) := by
  intro o
  have hzero : c.scrollbackSize = 0 →
      ∀ operations, (o.run c operations).lines = o.transcript c operations :=
    fun hc operations => congrArg Overlay.lines (run_of_limit_zero hc o operations)
  refine ⟨⟨fun hbounded hc => ?_, fun hc operations => ?_⟩, hzero⟩
  · -- One line added to a fresh screen is one too many.
    have hthree := hbounded [.append ["line"]]
    rw [hzero hc, hc] at hthree
    exact absurd hthree (by decide : ¬3 ≤ max (Int.toNat 0) 2)
  · have hpos : 0 < c.scrollbackSize := by omega
    exact length_lines_run_le hpos (Nat.le_max_right _ _) operations

/-- Under the limit one, a fresh screen is the longest one. -/
theorem bounded_iff_limit_ne_zero_one :
    let c : Console := ⟨.standard (Profile.map .standard) [] (.ok ""), .empty, 0, 1, none⟩
    0 ≤ c.scrollbackSize ∧
      ∀ operations : List (Operation Int),
        ((new c "id" "local" : Overlay Int).run c operations).lines.length ≤ 2 := by
  intro c
  have h : 0 ≤ c.scrollbackSize := by decide
  exact ⟨h, (bounded_iff_limit_ne_zero c h "id" "local").1.2 (by decide)⟩

/-- Under the limit zero, one line makes a fresh screen too long. -/
theorem limit_zero_exceeded :
    let c : Console := ⟨.standard (Profile.map .standard) [] (.ok ""), .empty, 0, 0, none⟩
    let o := (new c "id" "local" : Overlay Int).run c [.append ["line"]]
    0 ≤ c.scrollbackSize ∧ o.lines = freshScreen c ++ ["line"] ∧
      ¬o.lines.length ≤ max c.scrollbackSize.toNat 2 := by
  decide

end Overlay

end MissionConsole
