import MissionConsole.Proofs.Host.Keys

/-!
# What is on screen

A visitor who sees the keys edits on a screen of one line: what is sent back appends characters to
the line or erases the last one. The editor remembers the line as well, and the place in the history
that it was taken from. After any keystrokes the screen shows the line of the editor, which is the
one that a simple reference editor comes to, and which is handed over at the return.

An arrow moves the place by one, and the line there takes the place of the edited one. At an end of
the history there is nowhere to go. The arrow does nothing then: the line at the end is not put back
where the visitor has changed it.

## Main definitions

* `Keystroke`, `Keystroke.bytes` — a key, and what it sends
* `Draft`, `Draft.press` — the reference editor
* `Screen.after` — what a screen of one line shows
* `LineEditor.feedAll` — the editor behind bytes that leave the line open
* `LineEditor.InStep` — the editor, the screen and the reference editor agree

## Main results

* `Screen.after_redraw` — a line that is drawn anew replaces the one that was shown
* `LineEditor.InStep.press` — a keystroke keeps them in agreement
* `LineEditor.screen_shows_line` — they agree after any keystrokes, and at the return
-/

namespace MissionConsole

/-! ### Keystrokes -/

/-- How the sequence of a key is introduced behind its escape byte: by an opening bracket, or by the
letter O. -/
inductive Introducer where
  | bracket
  | letter
  deriving DecidableEq

/-- The byte that introduces the sequence of a key. -/
def Introducer.byte : Introducer → UInt8
  | .bracket => 0x5b
  | .letter => 0x4f

/-- The arrows that walk through the history. -/
inductive Arrow where
  | up
  | down
  deriving DecidableEq

namespace Arrow

/-- The byte that ends the sequence of an arrow. -/
def byte : Arrow → UInt8
  | .up => 0x41
  | .down => 0x42

/-- The place in a history of `size` lines that an arrow leads to; it is not beyond the ends. -/
def next (size position : Nat) : Arrow → Nat
  | .up => position - 1
  | .down => min (position + 1) size

theorem next_le {size position : Nat} (h : position ≤ size) (a : Arrow) :
    a.next size position ≤ size := by
  cases a <;> simp only [next] <;> omega

end Arrow

/-- A keystroke that leaves the line open. -/
inductive Keystroke where
  | print (c : Char) (hc : Typing.IsPrintable c)
  | erase (b : UInt8) (hb : b = 0x7f ∨ b = 0x08)
  /-- A byte that makes no character. -/
  | foreign (b : UInt8) (hb : 0x80 ≤ b)
  | arrow (i : Introducer) (a : Arrow)
  /-- Any other key whose sequence has two bytes behind the escape byte. -/
  | sequence (i : Introducer) (b : UInt8) (hdigit : ¬(0x30 ≤ b ∧ b ≤ 0x39))
    (harrow : ∀ a : Arrow, b ≠ a.byte)

/-- What a keystroke sends. -/
def Keystroke.bytes : Keystroke → List UInt8
  | .print c _ => [Typing.byte c]
  | .erase b _ => [b]
  | .foreign b _ => [b]
  | .arrow i a => [0x1b, i.byte, a.byte]
  | .sequence i b _ _ => [0x1b, i.byte, b]

/-! ### The reference editor -/

/-- A line that is being edited, and its place in the history. -/
structure Draft where
  line : List Char
  position : Nat

namespace Draft

/-- The line of the history that an arrow leads to; below the newest one it is empty. -/
def fetch (history : List String) (draft : Draft) (a : Arrow) : Draft :=
  let position := a.next history.length draft.position
  ⟨((history[position]?).getD "").toList, position⟩

/-- The same where the arrow leads to another place; otherwise the draft stays as it is. -/
def walk (history : List String) (draft : Draft) (a : Arrow) : Draft :=
  if a.next history.length draft.position = draft.position then draft else draft.fetch history a

/-- What a keystroke makes of a draft, where it is told what the arrows make of it. -/
def press (move : Draft → Arrow → Draft) (draft : Draft) : Keystroke → Draft
  | .print c _ => { draft with line := draft.line ++ [c] }
  | .erase _ _ => { draft with line := draft.line.dropLast }
  | .foreign _ _ => draft
  | .arrow _ a => move draft a
  | .sequence _ _ _ _ => draft

/-- Nothing, below the newest line of the history. -/
def blank (history : List String) : Draft := ⟨[], history.length⟩

end Draft

/-! ### The screen -/

namespace Screen

/-- What a screen of one line shows after characters are sent to it. A printable one is appended; to
go back, to write a blank and to go back again removes the last one. Anything else, or to go back
where there is nothing, would show something that is not a line. -/
def after : List Char → List Char → Option (List Char)
  | shown, [] => some shown
  | shown, '\x08' :: ' ' :: '\x08' :: rest =>
    if shown = [] then none else after shown.dropLast rest
  | shown, c :: rest => if Typing.IsPrintable c then after (shown ++ [c]) rest else none

variable {shown shown' cs rest old new : List Char} {c : Char}

@[simp] theorem after_nil : after shown [] = some shown := by rw [after]

theorem after_print (hc : Typing.IsPrintable c) :
    after shown (c :: rest) = after (shown ++ [c]) rest := by
  have hback : c ≠ '\x08' := by
    rintro rfl
    exact absurd hc (by decide)
  rw [after]
  · exact if_pos hc
  · exact fun _ h => absurd h hback

theorem after_erase (hshown : shown ≠ []) :
    after shown (LineEditor.erase.toList ++ rest) = after shown.dropLast rest := by
  have herase : LineEditor.erase.toList ++ rest = '\x08' :: ' ' :: '\x08' :: rest := rfl
  rw [herase, after, if_neg hshown]

/-- What is sent later is shown on top of what was sent before. -/
theorem after_append (h : after shown cs = some shown') :
    after shown (cs ++ rest) = after shown' rest := by
  -- Where a first part shows something it is not cut off inside an erasure.
  fun_induction after shown cs with
  | case1 shown => rw [List.nil_append, Option.some.inj h]
  | case2 => cases h
  | case3 shown cs hshown ih => rw [← ih h, ← after_erase hshown]; rfl
  | case4 shown c cs hne hc ih => rw [List.cons_append, after_print hc, ih h]
  | case5 => cases h

theorem after_line (hnew : ∀ c ∈ new, Typing.IsPrintable c) :
    after shown new = some (shown ++ new) := by
  induction new generalizing shown with
  | nil => rw [after_nil, List.append_nil]
  | cons c new ih =>
    obtain ⟨hc, hnew⟩ := List.forall_mem_cons.1 hnew
    rw [after_print hc, ih hnew, List.append_assoc, List.singleton_append]

/-- Erasing as many characters as are shown leaves an empty screen. -/
theorem after_eraseAll (shown rest : List Char) :
    after shown ((String.join (List.replicate shown.length LineEditor.erase)).toList ++ rest) =
      after [] rest := by
  -- The last character goes first.
  induction shown using List.reverseRecOn with
  | nil => rfl
  | append_singleton shown c ih =>
    rw [List.length_append, List.length_singleton, List.replicate_succ, String.join_cons,
      String.toList_append, List.append_assoc, after_erase (by simp), List.dropLast_concat, ih]

/-- A line that is drawn anew replaces the one that was shown. -/
theorem after_redraw (hnew : ∀ c ∈ new, Typing.IsPrintable c) :
    after old (LineEditor.redraw old new).toList = some new := by
  rw [LineEditor.redraw, String.toList_append, after_eraseAll, String.toList_ofList,
    after_line hnew, List.nil_append]

end Screen

/-! ### Bytes that leave the line open -/

namespace LineEditor

/-- The editor behind bytes that leave the line open, and all that is sent back for them. -/
def feedAll (e : LineEditor) : List UInt8 → Option (LineEditor × String)
  | [] => some (e, "")
  | b :: rest =>
    match e.feed b with
    | .more after sent => (feedAll after rest).map fun r => (r.1, sent ++ r.2)
    | _ => none

variable {e last : LineEditor} {b : UInt8} {keys more rest : List UInt8} {sent : String}

theorem feedAll_cons_iff :
    e.feedAll (b :: rest) = some (last, sent) ↔
      ∃ next first later, e.feed b = .more next first ∧ next.feedAll rest = some (last, later) ∧
        sent = first ++ later := by
  rw [feedAll]
  cases e.feed b with
  | more next first =>
    simp only [Option.map_eq_some_iff, Prod.exists, Prod.mk.injEq, Step.more.injEq]
    constructor
    · rintro ⟨_, later, hrest, rfl, rfl⟩
      exact ⟨next, first, later, ⟨rfl, rfl⟩, hrest, rfl⟩
    · rintro ⟨_, _, later, ⟨rfl, rfl⟩, hrest, rfl⟩
      exact ⟨_, later, hrest, rfl, rfl⟩
  | line text sent afterReturn => simp
  | leave => simp

/-- Bytes are read one part after the other. -/
theorem feedAll_append {middle : LineEditor} {first later : String}
    (hkeys : e.feedAll keys = some (middle, first))
    (hmore : middle.feedAll more = some (last, later)) :
    e.feedAll (keys ++ more) = some (last, first ++ later) := by
  induction keys generalizing e first with
  | nil =>
    obtain ⟨rfl, rfl⟩ : e = middle ∧ "" = first := by simpa [feedAll] using hkeys
    rwa [List.nil_append, String.empty_append]
  | cons b keys ih =>
    obtain ⟨next, start, between, hfeed, hrest, rfl⟩ := feedAll_cons_iff.1 hkeys
    exact feedAll_cons_iff.2
      ⟨next, start, between ++ later, hfeed, ih hrest, String.append_assoc⟩

/-- A reading goes on where such bytes end. -/
theorem readLine_of_feedAll (hkeys : e.feedAll keys = some (last, sent)) :
    e.readLine (keys ++ rest) =
      { last.readLine rest with sent := sent ++ (last.readLine rest).sent } := by
  induction keys generalizing e sent with
  | nil =>
    obtain ⟨rfl, rfl⟩ : e = last ∧ "" = sent := by simpa [feedAll] using hkeys
    rw [List.nil_append, String.empty_append]
  | cons b keys ih =>
    obtain ⟨next, first, later, hfeed, hrest, rfl⟩ := feedAll_cons_iff.1 hkeys
    rw [List.cons_append, readLine_of_more hfeed, ih hrest, String.append_assoc]

theorem feedAll_singleton {next : LineEditor} (h : e.feed b = .more next sent) :
    e.feedAll [b] = some (next, sent) :=
  feedAll_cons_iff.2 ⟨next, sent, "", h, rfl, String.append_empty.symm⟩

/-! ### What keystrokes lead to -/

theorem feed_erase (he : e.phase = .text) (hb : b = 0x7f ∨ b = 0x08) :
    e.feed b = .more { e with buffer := e.buffer.dropLast, afterReturn := false }
      (if e.buffer = [] then "" else e.shown erase) := by
  rw [feed, he]
  rcases hb with rfl | rfl <;> by_cases hempty : e.buffer = [] <;>
    simp [key, hempty, shown, he]

/-- The editor behind keys that mean nothing to it. -/
def passed (e : LineEditor) : LineEditor := { e with phase := .text, afterReturn := false }

theorem feed_foreign (he : e.phase = .text) (hb : 0x80 ≤ b) : e.feed b = .more e.passed "" := by
  have hne : ∀ k : UInt8, k < 0x80 → b ≠ k := fun k hk hbk =>
    absurd (UInt8.lt_of_le_of_lt hb (hbk ▸ hk)) (UInt8.lt_irrefl _)
  rw [feed, he]
  simp [key, hne 0x0a (by decide), hne 0x0d (by decide), hne 0x7f (by decide),
    hne 0x08 (by decide), hne 0x03 (by decide), hne 0x04 (by decide), hne 0x1b (by decide),
    UInt8.not_lt.2 hb, passed, he]

/-- The escape byte and an introducer are read without a trace. -/
theorem feedAll_introducer (he : e.phase = .text) (i : Introducer) :
    e.feedAll [0x1b, i.byte] =
      some ({ e with afterReturn := false, phase := .introduced }, "") := by
  have hescape : e.feed 0x1b = .more { e with afterReturn := false, phase := .escape } "" := by
    rw [feed, he]
    rfl
  have hintro : { e with afterReturn := false, phase := .escape }.feed i.byte =
      .more { e with afterReturn := false, phase := .introduced } "" := by
    cases i <;> rfl
  have hboth := feedAll_append (feedAll_singleton hescape) (feedAll_singleton hintro)
  rwa [String.empty_append] at hboth

/-- A sequence of two bytes behind the escape byte does what its last byte does. -/
theorem feedAll_sequence {next : LineEditor} (he : e.phase = .text) (i : Introducer)
    (hdigit : ¬(0x30 ≤ b ∧ b ≤ 0x39))
    (h : { e with afterReturn := false, phase := .introduced }.endSequence b = .more next sent) :
    e.feedAll [0x1b, i.byte, b] = some (next, sent) := by
  have hlast : { e with afterReturn := false, phase := .introduced }.feed b =
      .more next sent := by
    rw [feed, ← h]
    exact if_neg hdigit
  have hall := feedAll_append (feedAll_introducer he i) (feedAll_singleton hlast)
  rwa [String.empty_append] at hall

/-- An arrow moves through the history where there is somewhere to go. -/
theorem endSequence_arrow (hposition : e.position ≤ e.history.length) (a : Arrow) :
    e.endSequence a.byte =
      if a.next e.history.length e.position = e.position then .more { e with phase := .text } ""
      else e.showEntry (a.next e.history.length e.position) := by
  cases a with
  | up =>
    by_cases hfirst : 0 < e.position
    · have hnext : e.position - 1 ≠ e.position := by omega
      simp [endSequence, Arrow.byte, Arrow.next, hfirst, hnext]
    · have hnext : e.position - 1 = e.position := by omega
      simp [endSequence, Arrow.byte, Arrow.next, hfirst, hnext]
  | down =>
    by_cases hlast : e.position < e.history.length
    · have hnext : min (e.position + 1) e.history.length = e.position + 1 := by omega
      rw [Arrow.next, hnext]
      simp [endSequence, Arrow.byte, hlast]
    · have hnext : min (e.position + 1) e.history.length = e.position := by omega
      simp [endSequence, Arrow.byte, Arrow.next, hlast, hnext]

theorem endSequence_other (harrow : ∀ a : Arrow, b ≠ a.byte) :
    e.endSequence b = .more { e with phase := .text } "" := by
  have hup : b ≠ 0x41 := harrow .up
  have hdown : b ≠ 0x42 := harrow .down
  simp [endSequence, hup, hdown]

/-! ### Editor, screen and reference editor -/

/-- Between two keystrokes the editor has the line of the draft and its place in the history, and
what was sent shows the line. -/
structure InStep (history : List String) (draft : Draft) (e : LineEditor) (sent : String) :
    Prop where
  phase : e.phase = .text
  echo : e.echo = true
  history_eq : e.history = history
  line : e.buffer = draft.line
  position : e.position = draft.position
  position_le : draft.position ≤ history.length
  shown : Screen.after [] sent.toList = some draft.line

variable {history : List String} {draft : Draft}

namespace InStep

theorem start (afterReturn : Bool) (history : List String) :
    InStep history (.blank history) (.start afterReturn true history) "" where
  phase := rfl
  echo := rfl
  history_eq := rfl
  line := rfl
  position := rfl
  position_le := Nat.le_refl _
  shown := Screen.after_nil

theorem shown_eq (h : InStep history draft e sent) (text : String) : e.shown text = text := by
  rw [LineEditor.shown, if_pos h.echo]

/-- What is sent next is shown on top of the line. -/
theorem after_sent {shown : List Char} {more : String} (h : InStep history draft e sent)
    (hmore : Screen.after draft.line more.toList = some shown) :
    Screen.after [] (sent ++ more).toList = some shown := by
  rw [String.toList_append, Screen.after_append h.shown, hmore]

/-- A keystroke that has no meaning leaves everything as it is. -/
theorem ignore (h : InStep history draft e sent) :
    InStep history draft { e with phase := .text, afterReturn := false } (sent ++ "") where
  phase := rfl
  echo := h.echo
  history_eq := h.history_eq
  line := h.line
  position := h.position
  position_le := h.position_le
  shown := h.after_sent Screen.after_nil

theorem print {c : Char} (h : InStep history draft e sent) (hc : Typing.IsPrintable c) :
    InStep history { draft with line := draft.line ++ [c] } (e.typed c)
      (sent ++ String.singleton c) where
  phase := h.phase
  echo := h.echo
  history_eq := h.history_eq
  line := congrArg (· ++ [c]) h.line
  position := h.position
  position_le := h.position_le
  shown := by
    refine h.after_sent ?_
    rw [String.toList_singleton, Screen.after_print hc, Screen.after_nil]

/-- Where there is nothing to erase, nothing is sent. -/
theorem erase (h : InStep history draft e sent) :
    InStep history { draft with line := draft.line.dropLast }
      { e with buffer := e.buffer.dropLast, afterReturn := false }
      (sent ++ if e.buffer = [] then "" else LineEditor.erase) where
  phase := h.phase
  echo := h.echo
  history_eq := h.history_eq
  line := congrArg List.dropLast h.line
  position := h.position
  position_le := h.position_le
  shown := by
    refine h.after_sent ?_
    rw [h.line]
    split_ifs with hempty
    · rw [hempty]
      exact Screen.after_nil
    · rw [← List.append_nil LineEditor.erase.toList, Screen.after_erase hempty, Screen.after_nil]

theorem printable_fetch (hplain : ∀ line ∈ history, Typing.IsPlain line) (draft : Draft)
    (a : Arrow) : ∀ c ∈ (draft.fetch history a).line, Typing.IsPrintable c := by
  dsimp only [Draft.fetch]
  cases hentry : history[a.next history.length draft.position]? with
  | none => exact List.forall_mem_nil _
  | some line => exact hplain line (List.mem_of_getElem? hentry)

theorem fetch (hplain : ∀ line ∈ history, Typing.IsPlain line)
    (h : InStep history draft e sent) (a : Arrow) :
    InStep history (draft.fetch history a)
      { e with
        buffer := (draft.fetch history a).line
        position := (draft.fetch history a).position
        phase := .text
        afterReturn := false }
      (sent ++ redraw draft.line (draft.fetch history a).line) where
  phase := rfl
  echo := h.echo
  history_eq := h.history_eq
  line := rfl
  position := rfl
  position_le := a.next_le h.position_le
  shown := h.after_sent (Screen.after_redraw (printable_fetch hplain draft a))

/-- An arrow sends nothing at an end of the history, and draws the line anew elsewhere. -/
theorem walk (hplain : ∀ line ∈ history, Typing.IsPlain line)
    (h : InStep history draft e sent) (i : Introducer) (a : Arrow) :
    ∃ next more, e.feedAll [0x1b, i.byte, a.byte] = some (next, more) ∧
      InStep history (draft.walk history a) next (sent ++ more) := by
  -- The draft has the line and the place of the editor, so the arrow leads both to the same place.
  obtain ⟨line, position⟩ := draft
  obtain rfl : e.history = history := h.history_eq
  obtain rfl : e.buffer = line := h.line
  obtain rfl : e.position = position := h.position
  have hdigit : ¬(0x30 ≤ a.byte ∧ a.byte ≤ 0x39) := by cases a <;> decide
  have hend := endSequence_arrow
    (e := { e with afterReturn := false, phase := .introduced }) h.position_le a
  rw [Draft.walk]
  split_ifs at hend ⊢ with hstay
  · exact ⟨_, _, feedAll_sequence h.phase i hdigit hend, h.ignore⟩
  · have hshown : ∀ text, { e with afterReturn := false, phase := .introduced }.shown text = text :=
      h.shown_eq
    rw [showEntry, hshown] at hend
    exact ⟨_, _, feedAll_sequence h.phase i hdigit hend, h.fetch hplain a⟩

/-- One keystroke keeps editor, screen and reference editor in agreement. -/
theorem press (hplain : ∀ line ∈ history, Typing.IsPlain line)
    (h : InStep history draft e sent) (k : Keystroke) :
    ∃ next more, e.feedAll k.bytes = some (next, more) ∧
      InStep history (draft.press (.walk history) k) next (sent ++ more) := by
  cases k with
  | print c hc =>
    have hfeed := feed_key h.phase hc
    rw [h.shown_eq] at hfeed
    exact ⟨_, _, feedAll_singleton hfeed, h.print hc⟩
  | erase b hb =>
    have hfeed := feed_erase h.phase hb
    rw [h.shown_eq] at hfeed
    exact ⟨_, _, feedAll_singleton hfeed, h.erase⟩
  | foreign b hb => exact ⟨_, _, feedAll_singleton (feed_foreign h.phase hb), h.ignore⟩
  | arrow i a => exact h.walk hplain i a
  | sequence i b hdigit harrow =>
    exact ⟨_, _, feedAll_sequence h.phase i hdigit (endSequence_other harrow), h.ignore⟩

/-- So do any keystrokes, one after the other. -/
theorem pressAll (hplain : ∀ line ∈ history, Typing.IsPlain line)
    (h : InStep history draft e sent) (keys : List Keystroke) :
    ∃ next more, e.feedAll (keys.flatMap Keystroke.bytes) = some (next, more) ∧
      InStep history (keys.foldl (.press (.walk history)) draft) next (sent ++ more) := by
  -- What was sent before the first key is carried along, for the screen shows all of it.
  induction keys generalizing draft e sent with
  | nil =>
    refine ⟨e, "", rfl, ?_⟩
    rwa [List.foldl_nil, String.append_empty]
  | cons k keys ih =>
    obtain ⟨middle, first, hfeed, hmiddle⟩ := h.press hplain k
    obtain ⟨next, later, hmore, hnext⟩ := ih hmiddle
    rw [String.append_assoc] at hnext
    exact ⟨next, first ++ later, feedAll_append hfeed hmore, hnext⟩

end InStep

/-- Whatever is typed, with any plain lines to recall, the screen shows the line of the editor,
which is the one of the reference editor, and so is its place in the history. At the return this
line is handed over. -/
theorem screen_shows_line (afterReturn : Bool) (history : List String)
    (hplain : ∀ line ∈ history, Typing.IsPlain line) (keys : List Keystroke) (rest : List UInt8) :
    let start := start afterReturn true history
    let bytes := keys.flatMap Keystroke.bytes
    let draft : Draft := keys.foldl (Draft.press (.walk history)) (.blank history)
    ∃ e sent, start.feedAll bytes = some (e, sent) ∧
      Screen.after [] sent.toList = some e.buffer ∧ e.position ≤ history.length ∧
      e.buffer = draft.line ∧ e.position = draft.position ∧
      start.readLine (bytes ++ Typing.carriageReturn :: rest) =
        ⟨.line (String.ofList e.buffer), sent ++ "\r\n", rest, true⟩ := by
  intro start bytes draft
  -- The screen is empty at the start, so all that is on it was sent in this reading.
  obtain ⟨e, sent, hbytes, hstep⟩ := (InStep.start afterReturn history).pressAll hplain keys
  rw [String.empty_append] at hstep
  refine ⟨e, sent, hbytes, ?_, ?_, hstep.line, hstep.position, ?_⟩
  · rw [hstep.line]
    exact hstep.shown
  · rw [hstep.position]
    exact hstep.position_le
  · rw [readLine_of_feedAll hbytes, readLine_of_line (feed_return hstep.phase)]

/-- At the oldest line, an arrow leaves the line as the visitor has changed it. -/
theorem screen_shows_line_oldest :
    let history := ["ls", "pwd"]
    let keys : List Keystroke :=
      [.print 'a' (by decide), .arrow .bracket .up, .arrow .letter .up, .erase 0x7f (.inl rfl),
        .foreign 0xc3 (by decide), .print 'x' (by decide), .arrow .bracket .up,
        .sequence .letter 0x48 (by decide) (by rintro (_ | _) <;> decide)]
    (∀ line ∈ history, Typing.IsPlain line) ∧
      ((start true true history).readLine
        (keys.flatMap Keystroke.bytes ++ [Typing.carriageReturn])).ending = .line "lx" := by
  intro history keys
  have hplain : ∀ line ∈ history, Typing.IsPlain line := by decide
  have hdraft : (keys.foldl (Draft.press (.walk history)) (.blank history)).line = ['l', 'x'] := by
    decide
  obtain ⟨e, sent, -, -, -, hline, -, hread⟩ := screen_shows_line true history hplain keys []
  refine ⟨hplain, ?_⟩
  rw [hread, hline, hdraft]

/-- An editor that always put back the line at the place it comes to would lose the change. -/
theorem fetch_loses_change :
    let history := ["ls"]
    let keys : List Keystroke :=
      [.arrow .bracket .up, .print 'x' (by decide), .arrow .bracket .up]
    (∀ line ∈ history, Typing.IsPlain line) ∧
      ((start false true history).readLine
        (keys.flatMap Keystroke.bytes ++ [Typing.carriageReturn])).ending = .line "lsx" ∧
      String.ofList (keys.foldl (Draft.press (.fetch history)) (.blank history)).line = "ls" := by
  exact ⟨by decide, by decide, rfl⟩

end LineEditor

end MissionConsole
