import MissionConsole.Proofs.Host.Framing

/-!
# What keys do to a line

A key keeps the line going, completes it, or makes the visitor leave. Only the two line ends and the
interrupt key complete a line, so every line that is read costs at least the byte that completes it.
Where keys are not shown, nothing is sent back but the end of the line: whatever was typed before
it, and however often it was erased again, leaves no trace on the wire.

## Main definitions

* `LineEditor.EndsLine` — the keys that complete a line
* `LineEditor.Fed` — the four things that a key can do
* `LineEditor.IsEditing`, `LineEditor.edit`, `LineEditor.edited` — keys that only change what stands
  in the line, and what they make of it

## Main results

* `LineEditor.fed_feed` — what a key does is one of the four things
* `LineEditor.sent_readLine_of_silent` — what is sent where keys are not shown
* `LineEditor.ending_readLine_edited` — the line that is read is the edited one
-/

namespace MissionConsole.LineEditor

variable {e : LineEditor} {b : UInt8} {rest keys : List UInt8}

/-! ### One key -/

/-- The keys that complete a line: its two ends, and the interrupt key. -/
def EndsLine (b : UInt8) : Prop := b = 0x0d ∨ b = 0x0a ∨ b = 0x03

instance : DecidablePred EndsLine := fun b =>
  inferInstanceAs (Decidable (b = 0x0d ∨ b = 0x0a ∨ b = 0x03))

/-- What a key can do to a line. -/
inductive Fed (e : LineEditor) (b : UInt8) : Step → Prop where
  /-- The line goes on, and keys are shown as before. -/
  | more {after : LineEditor} {sent : String} (hecho : after.echo = e.echo)
      (hsent : e.echo = false → sent = "") : Fed e b (.more after sent)
  /-- The line ends. -/
  | ended (hb : b = 0x0d ∨ b = 0x0a) :
      Fed e b (.line (String.ofList e.buffer) "\r\n" (b == 0x0d))
  /-- The line is thrown away, and an empty one is completed in its place. -/
  | interrupted (hb : b = 0x03) : Fed e b (.line "" "^C\r\n" false)
  /-- The visitor leaves. -/
  | left (hb : b = 0x04) : Fed e b .leave

theorem shown_of_silent (h : e.echo = false) (text : String) : e.shown text = "" := by
  simp [shown, h]

/-- A key of the text does one of the four things. -/
theorem fed_key (e : LineEditor) (b : UInt8) : Fed e b (e.key b) := by
  simp only [key]
  split_ifs with hskip hend herase hempty hinterrupt hleave hescape hshown
  · exact .more rfl fun _ => rfl
  · exact .ended hend
  · exact .more rfl fun _ => rfl
  · exact .more rfl fun h => shown_of_silent h _
  · exact .interrupted hinterrupt
  · exact .left hleave
  · exact .more rfl fun _ => rfl
  · exact .more rfl fun h => shown_of_silent h _
  · exact .more rfl fun _ => rfl

/-- Inside an escape sequence the line goes on. -/
theorem fed_endSequence (e : LineEditor) (b : UInt8) : Fed e b (e.endSequence b) := by
  rw [endSequence]
  split_ifs
  · exact .more rfl fun h => shown_of_silent h _
  · exact .more rfl fun h => shown_of_silent h _
  · exact .more rfl fun _ => rfl

/-- Whatever a key does is one of the four things. -/
theorem fed_feed (e : LineEditor) (b : UInt8) : Fed e b (e.feed b) := by
  rw [feed]
  cases e.phase with
  | text => exact fed_key e b
  | escape => exact .more rfl fun _ => rfl
  | introduced =>
    dsimp only
    split_ifs
    · exact .more rfl fun _ => rfl
    · exact fed_endSequence e b
  | numbered => exact .more rfl fun _ => rfl

/-- Only some keys complete a line. -/
theorem endsLine_of_feed {text sent : String} {afterReturn : Bool}
    (h : e.feed b = .line text sent afterReturn) : EndsLine b := by
  have hfed := fed_feed e b
  rw [h] at hfed
  cases hfed with
  | ended hb => exact hb.imp id .inl
  | interrupted hb => exact .inr (.inr hb)

/-! ### Silent lines -/

/-- Where keys are not shown, a reading sends nothing, or the end of the line, or that it was
interrupted. -/
theorem sent_readLine_of_silent (h : e.echo = false) (bytes : List UInt8) :
    (e.readLine bytes).sent ∈ ["", "\r\n", "^C\r\n"] := by
  induction bytes generalizing e with
  | nil => exact List.mem_cons_self
  | cons b rest ih =>
    have hfed := fed_feed e b
    rw [readLine]
    cases hstep : e.feed b with
    | more after sent =>
      rw [hstep] at hfed
      cases hfed with
      | more hecho hsent =>
        -- This key sends nothing, so what is sent is sent by the keys behind it.
        have hmore := ih (hecho.trans h)
        rw [hsent h]
        simpa using hmore
    | line text sent afterReturn =>
      rw [hstep] at hfed
      cases hfed <;> simp
    | leave => exact List.mem_cons_self

/-! ### Editing -/

/-- A key that only changes what stands in the line: it neither completes the line nor begins an
escape sequence, and the visitor stays. -/
def IsEditing (b : UInt8) : Prop := ¬(EndsLine b ∨ b = 0x04 ∨ b = 0x1b)

instance : DecidablePred IsEditing := fun b =>
  inferInstanceAs (Decidable ¬(EndsLine b ∨ b = 0x04 ∨ b = 0x1b))

/-- What such a key makes of a line: two of them erase, and bytes that are no characters do
nothing. -/
def edit (line : List Char) (b : UInt8) : List Char :=
  if b = 0x7f ∨ b = 0x08 then line.dropLast
  else if b < 0x80 then line ++ [Char.ofNat b.toNat]
  else line

/-- What keys make of an empty line. -/
def edited (keys : List UInt8) : String := String.ofList (keys.foldl edit [])

/-- A key that edits changes the line as it should, and nothing else that matters later. -/
theorem feed_editing (he : e.phase = .text) (hb : IsEditing b) :
    ∃ sent, e.feed b =
      .more { e with buffer := edit e.buffer b, afterReturn := false } sent := by
  obtain ⟨hends, hleave, hescape⟩ : ¬EndsLine b ∧ b ≠ 0x04 ∧ b ≠ 0x1b := by
    simpa [IsEditing, not_or] using hb
  obtain ⟨hreturn, hfeed, hinterrupt⟩ : b ≠ 0x0d ∧ b ≠ 0x0a ∧ b ≠ 0x03 := by
    simpa [EndsLine, not_or] using hends
  have hkey : e.feed b = e.key b := by rw [feed, he]
  rw [hkey]
  simp only [key, edit, hreturn, hfeed, hinterrupt, hleave, hescape, false_and, or_self, if_false]
  -- Erasing from an empty line is left out by the editor, and does nothing either way.
  split_ifs with herase hempty
  · rw [hempty]
    exact ⟨_, rfl⟩
  · exact ⟨_, rfl⟩
  · exact ⟨_, rfl⟩
  · exact ⟨_, rfl⟩

/-- The line that is read is the one that the keys before the return have edited. -/
theorem ending_readLine_edited (he : e.phase = .text) (hkeys : ∀ b ∈ keys, IsEditing b)
    (rest : List UInt8) :
    (e.readLine (keys ++ Typing.carriageReturn :: rest)).ending =
      .line (String.ofList (keys.foldl edit e.buffer)) := by
  induction keys generalizing e with
  | nil =>
    rw [List.nil_append, readLine_of_line (feed_return he), List.foldl_nil]
  | cons b keys ih =>
    obtain ⟨hb, hkeys⟩ := List.forall_mem_cons.1 hkeys
    obtain ⟨sent, hfeed⟩ := feed_editing he hb
    rw [List.cons_append, readLine_of_more hfeed, List.foldl_cons]
    exact ih (by exact he) hkeys

end MissionConsole.LineEditor
