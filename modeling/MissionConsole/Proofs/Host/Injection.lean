import MissionConsole.Proofs.Dispatch.Frame
import MissionConsole.Proofs.Dispatch.Wording
import MissionConsole.Proofs.Host.Alphabet
import MissionConsole.Proofs.Host.Course
import MissionConsole.Proofs.Host.Encoded

/-!
# Orders to the terminal

The terminal of a remote visitor obeys what begins with the escape character. The shell sends that
character in one place only, to clear the screen, and it does so once for each event that asks for
it. No visitor can make it send another one: no line has the character, the history has none
either, and where the console's own texts have none, neither a reply nor the prompt brings one in.

## Main definitions

* `RemoteShell.Clears` — a text that gives a terminal so many orders to clear its screen, and no
  other order
* `Overlay.KeepsToLines`, `RemoteShell.KeepsToLines` — what a visit keeps of an overlay and a shell
* `Entered.clears` — how often lines ask for a clear screen

## Main results

* `RemoteShell.Clears.encoded` — the bytes of such a text
* `RemoteShell.clears_replyText` — what a reply sends
* `RemoteShell.keepsToLines_entered`, `RemoteShell.clears_entered` — a line on the shell
* `RemoteShell.clears_served` — what a visit sends, whatever the bytes are
* `RemoteShell.no_injection` — lines and orders of any visit
-/

namespace MissionConsole

open Text (EscapeFree escapeFree_append escapeFree_intercalate)

/-! ### Orders to clear the screen -/

theorem Typing.encoded_append (s t : String) :
    encoded (s ++ t) = encoded s ++ encoded t := by
  rw [encoded_eq_flatMap, String.toList_append, List.flatMap_append, ← encoded_eq_flatMap,
    ← encoded_eq_flatMap]

/-- The escape byte is sent for the escape character alone. -/
theorem Typing.escape_notMem_encoded {text : String} (h : EscapeFree text) :
    0x1b ∉ encoded text := by
  rw [encoded_eq_flatMap, List.mem_flatMap]
  rintro ⟨c, hc, hbyte⟩
  cases hnarrow : isNarrow c with
  | true =>
    rw [utf8EncodeChar_of_isNarrow hnarrow, List.mem_singleton] at hbyte
    have hlt : c.toNat < 0x80 := of_decide_eq_true hnarrow
    have hcode : c.toNat = 0x1b := by
      have hnat := congrArg UInt8.toNat hbyte
      rw [byte, UInt8.toNat_ofNat', Nat.mod_eq_of_lt (by omega)] at hnat
      exact hnat.symm
    refine h c hc ?_
    rw [← Char.ofNat_toNat c, hcode]
  | false =>
    -- All bytes of a longer encoding are beyond the escape byte.
    exact absurd (le_of_mem_utf8EncodeChar hnarrow hbyte) (by decide)

namespace RemoteShell

/-- A text gives a terminal so many orders to clear its screen, and has no escape character
besides. -/
inductive Clears : Nat → String → Prop where
  | plain {text : String} (h : EscapeFree text) : Clears 0 text
  | clear {n : Nat} {before rest : String} (h : EscapeFree before) (hrest : Clears n rest) :
    Clears (n + 1) (before ++ clearScreen ++ rest)

namespace Clears

variable {m n : Nat} {text more : String}

theorem prepend (htext : EscapeFree text) (h : Clears n more) : Clears n (text ++ more) := by
  cases h with
  | plain hmore => exact .plain (escapeFree_append.2 ⟨htext, hmore⟩)
  | clear hbefore hrest =>
    rw [← String.append_assoc, ← String.append_assoc]
    exact .clear (escapeFree_append.2 ⟨htext, hbefore⟩) hrest

theorem append (h : Clears m text) (hmore : Clears n more) : Clears (m + n) (text ++ more) := by
  induction h with
  | plain htext =>
    rw [Nat.zero_add]
    exact hmore.prepend htext
  | clear hbefore _ ih =>
    -- The first order stays where it is, and what follows it grows by the second text.
    rw [Nat.add_right_comm, String.append_assoc]
    exact .clear hbefore ih

theorem concat (h : Clears n text) (hmore : EscapeFree more) : Clears n (text ++ more) :=
  h.append (.plain hmore)

theorem clearScreen : Clears 1 RemoteShell.clearScreen := by
  have hnothing : EscapeFree "" := by decide
  have honce := Clears.clear hnothing (.plain hnothing)
  rwa [String.empty_append, String.append_empty] at honce

/-- In the bytes of such a text, the orders stand apart, and between them there is no escape
byte. -/
theorem encoded (h : Clears n text) :
    ∃ parts : List (List UInt8),
      Typing.encoded text = (Typing.encoded RemoteShell.clearScreen).intercalate parts ∧
        parts.length = n + 1 ∧ ∀ part ∈ parts, 0x1b ∉ part := by
  induction h with
  | @plain text htext =>
    refine ⟨[Typing.encoded text], ?_, rfl, ?_⟩
    · rw [List.intercalate_singleton]
    · exact List.forall_mem_singleton.2 (Typing.escape_notMem_encoded htext)
  | @clear n before rest hbefore _ ih =>
    obtain ⟨parts, hrest, hlength, hfree⟩ := ih
    -- There is always a part behind the last order, be it empty.
    have hne : parts ≠ [] := by
      rintro rfl
      exact absurd hlength nofun
    refine ⟨Typing.encoded before :: parts, ?_, ?_, ?_⟩
    · rw [Typing.encoded_append, Typing.encoded_append, hrest,
        List.intercalate_cons_of_ne_nil hne]
    · rw [List.length_cons, hlength]
    · exact List.forall_mem_cons.2 ⟨Typing.escape_notMem_encoded hbefore, hfree⟩

end Clears

/-! ### What replies send -/

theorem escapeFree_wire {text : String} (h : EscapeFree text) : EscapeFree (wire text) := by
  rw [wire, Text.replaceChar, Text.escapeFree_ofList]
  intro c hc
  obtain ⟨d, hd, hin⟩ := List.mem_flatMap.1 hc
  split_ifs at hin
  · exact (by decide : EscapeFree "\r\n") c hin
  · rw [List.mem_singleton.1 hin]
    exact h d hd

theorem escapeFree_alertLine (durationMs : Int) : EscapeFree (alertLine durationMs) := by
  have hstart : EscapeFree "*** INTRUSION ALERT *** lockout " := by decide
  exact escapeFree_append.2
    ⟨escapeFree_append.2 ⟨hstart, Text.escapeFree_toString _⟩, by decide⟩

/-- Only a clear sends an order. -/
theorem clears_eventText (e : Event) :
    Clears (if e.kind == .clear then 1 else 0) (eventText e) := by
  have hnothing : Clears 0 "" := .plain (by decide)
  cases e with
  | clear => exact .clearScreen
  | alert durationMs =>
    have hline : EscapeFree (alertLine durationMs ++ "\n") :=
      escapeFree_append.2 ⟨escapeFree_alertLine durationMs, by decide⟩
    have htext : eventText (.alert durationMs) = wire (alertLine durationMs ++ "\n") := rfl
    rw [htext]
    exact .plain (escapeFree_wire hline)
  | unlock | navigate | close | uxv | sound | effect => exact hnothing

theorem clears_events (events : List Event) :
    Clears (events.countP (·.kind == .clear)) (String.join (events.map eventText)) := by
  induction events with
  | nil => exact .plain (by decide)
  | cons e rest ih =>
    rw [List.countP_cons, List.map_cons, String.join_cons, Nat.add_comm]
    exact (clears_eventText e).append ih

/-- A reply without the escape character in its lines gives one order for each clear. -/
theorem clears_replyText {r : Reply} (h : ∀ line ∈ r.lines, EscapeFree line) :
    Clears (r.events.countP (·.kind == .clear)) (replyText r) := by
  rw [replyText]
  refine (clears_events r.events).prepend (Text.escapeFree_join (List.forall_mem_map.2 ?_))
  intro line hline
  exact escapeFree_wire (escapeFree_append.2 ⟨h line hline, by decide⟩)

end RemoteShell

/-! ### Consoles and overlays -/

/-- A console's own texts, apart from the date, have no escape character. -/
structure Console.EscapeFree (c : Console) : Prop where
  dispatcher : c.dispatcher.EscapeFree
  files : c.files.EscapeFree

theorem Console.EscapeFree.dated {c : Console} (h : c.EscapeFree) (date : Except String String) :
    (c.dated date).EscapeFree :=
  ⟨⟨h.dispatcher.profile, h.dispatcher.regions, h.dispatcher.companies⟩, h.files⟩

/-- The working directory of a sound session is a path in the tree. -/
theorem Session.Sound.escapeFree_cwd {p : Profile} {files : Filesystem} {s : Session}
    (h : s.Sound p files) (hfiles : files.EscapeFree) : EscapeFree s.cwd := by
  have hexists : files.exists? s.cwd = true := by
    obtain ⟨entries, hnode⟩ := Filesystem.isDirectory_iff.1 h.cwd_directory
    rw [Filesystem.exists?, hnode]
    rfl
  rw [← Path.isCanonical_iff.1 h.cwd_canonical]
  exact hfiles.of_exists hexists

namespace Overlay

variable {τ : Type} {c : Console} {o : Overlay τ} {now : τ} {line : String}

/-- The session of an overlay is sound, and only lines can be recalled. -/
structure KeepsToLines (c : Console) (o : Overlay τ) : Prop where
  sound : o.session.Sound c.dispatcher.profile c.files
  history : ∀ line ∈ o.session.history, Typing.IsLine line

theorem keepsToLines_dated {date : Except String String} :
    o.KeepsToLines (c.dated date) ↔ o.KeepsToLines c :=
  ⟨fun h => ⟨h.sound, h.history⟩, fun h => ⟨h.sound, h.history⟩⟩

theorem KeepsToLines.opened (h : o.KeepsToLines c) : o.opened.KeepsToLines c :=
  ⟨h.sound, h.history⟩

theorem isLine_remember {s : Session} (h : ∀ line ∈ s.history, Typing.IsLine line)
    (hline : Typing.IsLine line) : ∀ old ∈ (remember c s line).history, Typing.IsLine old := by
  rcases remember_cases c s line with hsame | hrecord
  · rwa [hsame]
  · rw [hrecord]
    intro old hold
    -- What is kept is the end of the history with the new line behind it.
    have hmem := (Retention.keep_suffix _ _).subset hold
    rcases List.mem_append.1 hmem with hbefore | hnew
    · exact h old hbefore
    · rw [List.mem_singleton.1 hnew]
      exact hline.of_subset (Text.trim_subset line)

variable [Timescale τ]

namespace KeepsToLines

theorem new (c : Console) (id origin : String) :
    (Overlay.new c id origin : Overlay τ).KeepsToLines c :=
  ⟨.fresh _ _ id origin, List.forall_mem_nil _⟩

/-- A line that is submitted is remembered, and the history has no other lines. -/
theorem submit (hd : c.dispatcher.registry = .standard) (h : o.KeepsToLines c)
    (hline : Typing.IsLine line) : (o.submit c now line).overlay.KeepsToLines c := by
  refine ⟨sound_submit hd h.sound line, ?_⟩
  have hchange := Dispatcher.change_dispatch hd c.files (remember c o.session line) line
  rw [submit_session, hchange.history_eq]
  exact isLine_remember h.history hline

/-- The reply to a line has no escape character. -/
theorem escapeFree_reply (hd : c.dispatcher.registry = .standard) (hc : c.EscapeFree)
    (hclock : DateEscapeFree c.dispatcher.clock) (h : o.KeepsToLines c)
    (hline : Typing.IsLine line) :
    ∀ shown ∈ (o.submit c now line).reply.lines, EscapeFree shown := by
  have hcwd := (sound_remember h.sound line).escapeFree_cwd hc.files
  rw [reply_submit]
  exact Dispatcher.escapeFree_dispatch hd hc.dispatcher hclock hc.files hcwd hline.escapeFree

omit [Timescale τ] in
theorem escapeFree_prompt (hc : c.EscapeFree) (h : o.KeepsToLines c) :
    EscapeFree (o.prompt c) :=
  escapeFree_promptOf hc.dispatcher.profile (h.sound.escapeFree_cwd hc.files)

end KeepsToLines

/-- A line that fails asks for nothing but an alert. -/
theorem countP_clear_of_escaped (hd : c.dispatcher.registry = .standard)
    (h : (o.submit c now line).escaped ≠ none) :
    (o.submit c now line).reply.events.countP (·.kind == .clear) = 0 := by
  obtain ⟨durationMs, halert, -⟩ := alert_of_submit_escaped h
  rw [(shape_submit hd).eq_alarm halert]
  rfl

end Overlay

/-- How often lines ask for a clear screen. -/
def Entered.clears {τ : Type} (xs : List (Entered τ)) : Nat :=
  (xs.flatMap (·.submission.reply.events)).countP (·.kind == .clear)

theorem Entered.clears_cons {τ : Type} (x : Entered τ) (xs : List (Entered τ)) :
    clears (x :: xs) = x.submission.reply.events.countP (·.kind == .clear) + clears xs := by
  rw [clears, List.flatMap_cons, List.countP_append, clears]

/-! ### The shell -/

namespace RemoteShell

variable {τ : Type} [Timescale τ] {c : Console} {s t : RemoteShell τ} {clock : Clock τ}
  {r : Reading τ} {fault : Option Fault} {b : UInt8} {bytes : List UInt8}

/-- The line has characters of lines so far, and only lines can be recalled, now and later. -/
structure KeepsToLines (c : Console) (s : RemoteShell τ) : Prop where
  editor : s.editor.KeepsToLines
  overlay : s.overlay.KeepsToLines c

omit [Timescale τ] in
theorem keepsToLines_prompted (h : s.overlay.KeepsToLines c) (afterReturn : Bool) :
    (prompted c afterReturn s).KeepsToLines c := by
  refine ⟨LineEditor.keepsToLines_start _ _ ?_, h⟩
  split_ifs
  · exact List.forall_mem_nil _
  · exact h.history

/-- What a line sends gives one order for each clear that it asks for. -/
theorem clears_submit (hd : c.dispatcher.registry = .standard) (hc : c.EscapeFree)
    (hclock : DateEscapeFree c.dispatcher.clock) (hs : s.overlay.KeepsToLines c) {now : τ}
    {line sent : String} {afterReturn : Bool} {next : Next} (hline : Typing.IsLine line)
    (hsent : EscapeFree sent) (h : s.submit c now line sent afterReturn = (t, next)) :
    ∃ more, t.sent = s.sent ++ more ∧
      Clears ((s.overlay.submit c now line).reply.events.countP (·.kind == .clear)) more := by
  cases hescaped : (s.overlay.submit c now line).escaped with
  | some f =>
    -- After a failure there is no reply, and it would not have cleared the screen.
    have hnone : (s.overlay.submit c now line).escaped ≠ none := by
      rw [hescaped]
      exact Option.some_ne_none f
    rw [Overlay.countP_clear_of_escaped hd hnone]
    rw [submit, hescaped] at h
    exact ⟨sent, congrArg RemoteShell.sent (Prod.mk.inj h).1.symm, .plain hsent⟩
  | none =>
    have hreply : ∀ shown ∈ (s.overlay.submit c now line).reply.lines, EscapeFree shown :=
      hs.escapeFree_reply hd hc hclock hline
    have hprompt : EscapeFree ((s.overlay.submit c now line).overlay.prompt c) :=
      (hs.submit hd hline).escapeFree_prompt hc
    obtain ⟨s', hanswered, hshown, -⟩ := submit_of_answered hescaped sent afterReturn
    obtain ⟨rfl, -⟩ := Prod.mk.inj (hanswered.symm.trans h)
    have hinvited : EscapeFree (invitation c (s.overlay.submit c now line)) := by
      rw [invitation]
      split_ifs
      · decide
      · exact escapeFree_wire (escapeFree_append.2 ⟨hprompt, by decide⟩)
    refine ⟨_, ?_, ((clears_replyText hreply).prepend hsent).concat hinvited⟩
    rw [hshown, String.append_assoc, String.append_assoc, String.append_assoc]

/-- A key of a line keeps the shell to lines, and sends no escape character. -/
theorem keepsToLines_typing (hs : s.KeepsToLines c) (h : s.press c r b = .typing t) :
    t.KeepsToLines c ∧ ∃ sent, t.sent = s.sent ++ sent ∧ EscapeFree sent := by
  obtain ⟨e, sent, hfeed, rfl⟩ := feed_of_typing h
  have hstep := LineEditor.keepsToLines_feed hs.editor b
  rw [hfeed] at hstep
  exact ⟨⟨hstep.1, hs.overlay⟩, sent, rfl, hstep.2⟩

/-- A line that is submitted has only characters of lines, and the shell goes on with such lines. -/
theorem keepsToLines_entered (hd : c.dispatcher.registry = .standard) (hs : s.KeepsToLines c)
    {x : Entered τ} {next : Next} (h : s.press c r b = .entered x t next) :
    Typing.IsLine x.line ∧ (next = .goOn → t.KeepsToLines c) := by
  obtain ⟨text, sent, afterReturn, hfeed, rfl, hsubmit⟩ := feed_of_entered h
  have hstep := LineEditor.keepsToLines_feed hs.editor b
  rw [hfeed] at hstep
  refine ⟨hstep.1, ?_⟩
  rintro rfl
  obtain ⟨s', rfl, hoverlay⟩ := prompted_of_goOn hsubmit
  have hdated : (c.dated r.date).dispatcher.registry = .standard := hd
  have hnext : (s.overlay.submit (c.dated r.date) r.now text).overlay.KeepsToLines
      (c.dated r.date) := (Overlay.keepsToLines_dated.2 hs.overlay).submit hdated hstep.1
  have hs' : s'.overlay.KeepsToLines (c.dated r.date) := by
    rw [hoverlay]
    exact hnext.opened
  exact keepsToLines_prompted (Overlay.keepsToLines_dated.1 hs') afterReturn

/-- What a line sends gives one order for each clear that it asks for. -/
theorem clears_entered (hd : c.dispatcher.registry = .standard) (hc : c.EscapeFree)
    (hdate : DateEscapeFree r.date) (hs : s.KeepsToLines c) {x : Entered τ} {next : Next}
    (h : s.press c r b = .entered x t next) :
    ∃ sent, t.sent = s.sent ++ sent ∧
      Clears (x.submission.reply.events.countP (·.kind == .clear)) sent := by
  obtain ⟨text, sent, afterReturn, hfeed, rfl, hsubmit⟩ := feed_of_entered h
  have hstep := LineEditor.keepsToLines_feed hs.editor b
  rw [hfeed] at hstep
  obtain ⟨hline, hsent⟩ := hstep
  have hdated : (c.dated r.date).dispatcher.registry = .standard := hd
  exact clears_submit hdated (hc.dated r.date) hdate (Overlay.keepsToLines_dated.2 hs.overlay)
    hline hsent hsubmit

omit [Timescale τ] in
/-- Leave is taken without an order to the terminal, if it is taken at all. -/
theorem escapeFree_exhausted (c : Console) (fault : Option Fault) (s : RemoteShell τ) :
    ∃ sent, (s.exhausted c fault).sent = s.sent ++ sent ∧ EscapeFree sent := by
  cases fault with
  | none => exact ⟨"logout\r\n", rfl, by decide⟩
  | some f =>
    rw [exhausted]
    split_ifs
    · exact ⟨"logout\r\n", rfl, by decide⟩
    · exact ⟨"", String.append_empty.symm, by decide⟩

/-! ### A whole visit -/

/-- Whatever bytes come, the lines of a visit have no other characters than lines may have, and
what it sends gives one order for each clear that they ask for. -/
theorem clears_served (hd : c.dispatcher.registry = .standard) (hc : c.EscapeFree)
    (hclock : ∀ n, DateEscapeFree (clock n).date) (hs : s.KeepsToLines c) (fault : Option Fault)
    (bytes : List UInt8) :
    (∀ x ∈ s.entered c clock bytes, Typing.IsLine x.line) ∧
      ∃ sent, (s.served c fault clock bytes).sent = s.sent ++ sent ∧
        Clears (Entered.clears (s.entered c clock bytes)) sent := by
  -- The lines are those of the rounds, which press the same keys as the visit.
  suffices hrounds : ∀ read, (∀ x ∈ s.rounds c clock read bytes, Typing.IsLine x.line) ∧
      ∃ sent, (s.served c fault clock bytes).sent = s.sent ++ sent ∧
        Clears (Entered.clears ((s.rounds c clock read bytes).map Round.toEntered)) sent by
    rw [← rounds_entered c s clock [] bytes, List.forall_mem_map]
    exact hrounds []
  induction bytes generalizing s clock with
  | nil =>
    intro read
    obtain ⟨sent, hsent, hfree⟩ := escapeFree_exhausted c fault s
    exact ⟨List.forall_mem_nil _, sent, hsent, .plain hfree⟩
  | cons b rest ih =>
    intro read
    have hlater : ∀ n, DateEscapeFree (clock.later n).date := fun n => hclock (n + 1)
    rw [served, rounds]
    cases hpress : s.press c clock.reading b with
    | typing s' =>
      obtain ⟨hs', sent, hsent, hfree⟩ := keepsToLines_typing hs hpress
      obtain ⟨hlines, more, hmore, hclears⟩ := ih hclock hs' (read ++ [b])
      refine ⟨hlines, sent ++ more, ?_, hclears.prepend hfree⟩
      rw [hmore, hsent, String.append_assoc]
    | entered x s' next =>
      -- Whatever the line leads to, it has sent its own orders; only one that goes on leaves a
      -- shell to which the rest of the bytes applies.
      obtain ⟨hline, hnext⟩ := keepsToLines_entered hd hs hpress
      obtain ⟨sent, hsent, hclears⟩ := clears_entered hd hc (hclock 0) hs hpress
      cases next with
      | goOn =>
        obtain ⟨hlines, more, hmore, hothers⟩ := ih hlater (hnext rfl) []
        refine ⟨List.forall_mem_cons.2 ⟨hline, hlines⟩, sent ++ more, ?_, ?_⟩
        · rw [hmore, hsent, String.append_assoc]
        · rw [List.map_cons, Entered.clears_cons]
          exact hclears.append hothers
      | leave =>
        refine ⟨List.forall_mem_singleton.2 hline, sent ++ "logout\r\n", ?_, ?_⟩
        · rw [← String.append_assoc, ← hsent]
          rfl
        · rw [List.map_singleton, Entered.clears_cons]
          exact hclears.append (.plain (by decide))
      | fail f =>
        refine ⟨List.forall_mem_singleton.2 hline, sent, hsent, ?_⟩
        rw [List.map_singleton, Entered.clears_cons]
        exact hclears
    | left => exact ⟨List.forall_mem_nil _, "logout\r\n", rfl, .plain (by decide)⟩

omit [Timescale τ] in
/-- The greeting shows the screen as it stands, and the prompt. -/
theorem escapeFree_greet {o : Overlay τ} (hc : c.EscapeFree) (ho : o.KeepsToLines c)
    (hlines : ∀ line ∈ o.lines, EscapeFree line) : EscapeFree (greet c o).sent := by
  have hscreen : EscapeFree ("\n".intercalate o.lines ++ "\n") :=
    escapeFree_append.2 ⟨escapeFree_intercalate (by decide) hlines, by decide⟩
  have hprompt : EscapeFree (o.opened.prompt c ++ " ") :=
    escapeFree_append.2 ⟨ho.opened.escapeFree_prompt hc, by decide⟩
  rw [greet, prompted_sent]
  exact escapeFree_append.2 ⟨escapeFree_wire hscreen, escapeFree_wire hprompt⟩

/-- Nothing that a visitor types becomes an order to a terminal. Of any bytes, and whichever such
lines can be recalled, a line is read that has only characters of lines. So where the texts of a
console with the built-in commands have no escape character, the escape bytes that a visit sends
are those of the orders to clear the screen, one for each clear that its lines ask for. -/
theorem no_injection :
    (∀ (afterReturn echo : Bool) (history : List String) (bytes : List UInt8) (text : String),
      (∀ line ∈ history, Typing.IsLine line) →
        ((LineEditor.start afterReturn echo history).readLine bytes).ending = .line text →
          Typing.IsLine text) ∧
      ∀ (c : Console) (clock : Clock τ) (id origin : String) (fault : Option Fault)
        (bytes : List UInt8), c.dispatcher.registry = .standard → c.EscapeFree →
          (∀ n, DateEscapeFree (clock n).date) →
            let o : Overlay τ := Overlay.new c id origin
            let entered := (greet c o).entered c clock bytes
            let out := (greet c o).served c fault clock bytes
            (∀ x ∈ entered, Typing.IsLine x.line) ∧
              (∃ parts : List (List UInt8),
                Typing.encoded out.sent = (Typing.encoded clearScreen).intercalate parts ∧
                  parts.length = Entered.clears entered + 1 ∧ ∀ part ∈ parts, 0x1b ∉ part) ∧
              ∀ now : τ, clock = .still ⟨now, c.dispatcher.clock⟩ →
                serve c now o ⟨bytes, fault⟩ = out := by
  refine ⟨fun afterReturn echo history bytes text hhistory hread => ?_, ?_⟩
  · exact LineEditor.isLine_of_readLine (LineEditor.keepsToLines_start _ _ hhistory) hread
  · intro c clock id origin fault bytes hd hc hclock o entered out
    have ho : o.KeepsToLines c := .new c id origin
    have hgreeted : (greet c o).KeepsToLines c := keepsToLines_prompted ho.opened false
    have hscreen : ∀ line ∈ o.lines, EscapeFree line :=
      List.forall_mem_cons.2 ⟨hc.dispatcher.profile.banner, by decide⟩
    obtain ⟨hlines, sent, hsent, hclears⟩ := clears_served hd hc hclock hgreeted fault bytes
    have hall : Clears (Entered.clears entered) out.sent := by
      rw [hsent]
      exact hclears.prepend (escapeFree_greet hc ho hscreen)
    refine ⟨hlines, hall.encoded, ?_⟩
    rintro now rfl
    exact (served_still c now fault (greet c o) bytes).symm

/-- A visitor tries to name the window, from the keys and from the history, with a clear in
between. -/
theorem no_injection_title :
    let d : Dispatcher := .standard (Profile.map .standard) ["Acme"] (.ok "today")
    let c : Console := ⟨d, ⟨[("etc", .dir [("motd", .file "hello")])]⟩, 200, 500, none⟩
    let clock : Clock Int := .still ⟨7, .ok "today"⟩
    let bytes : List UInt8 :=
      Typing.encoded "cat etc/motd \x1b]0;mine\x07\rclear\r\x1b[A\x1b[A!\r\x1b["
    let entered := (greet c (Overlay.new c "id" "remote")).entered c clock bytes
    let out := serve c (7 : Int) (Overlay.new c "id" "remote") ⟨bytes, none⟩
    c.dispatcher.registry = .standard ∧ c.EscapeFree ∧ (∀ n, DateEscapeFree (clock n).date) ∧
      entered.map (·.line) = ["cat etc/motd 0;mine\x07", "clear", "cat etc/motd 0;mine\x07!"] ∧
      Entered.clears entered = 1 ∧
      ∃ parts : List (List UInt8),
        Typing.encoded out.sent = (Typing.encoded clearScreen).intercalate parts ∧
          parts.length = 2 ∧ ∀ part ∈ parts, 0x1b ∉ part := by
  intro d c clock bytes entered out
  have hd : c.dispatcher.registry = .standard := rfl
  have hprofile : (Profile.map .standard).EscapeFree :=
    ⟨by decide, by decide, by decide, by decide, by decide⟩
  have hc : c.EscapeFree :=
    ⟨⟨hprofile, by decide, by decide⟩, .of_texts (by decide)⟩
  have hclock : ∀ n, DateEscapeFree (clock n).date := by
    intro n date hdate
    obtain rfl := Except.ok.inj hdate
    decide
  have hclears : Entered.clears entered = 1 := by decide +kernel
  obtain ⟨-, ⟨parts, hsent, hlength, hfree⟩, hserve⟩ :=
    no_injection.2 c clock "id" "remote" none bytes hd hc hclock
  refine ⟨hd, hc, hclock, by decide +kernel, hclears, parts, ?_, ?_, hfree⟩
  · rw [← hsent, ← hserve 7 rfl]
  · rw [hlength, hclears]

end RemoteShell

end MissionConsole
