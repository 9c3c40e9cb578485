import MissionConsole.Text.Split

/-!
# The line editor

A remote visitor's keys arrive byte by byte. The editor collects a line: visible keys are appended,
erasing keys remove the last character, the up and down arrows walk through the history, and all
other escape sequences are discarded. What it sends back keeps the visitor's screen in step, unless
echoing is off.

Only single bytes below 128 make characters; larger bytes are dropped without a trace.

## Main definitions

* `LineEditor` — the line so far and where the editor stands
* `LineEditor.feed` — one more byte
* `LineEditor.readLine` — bytes up to the end of a line
-/

namespace MissionConsole

/-- Where the editor stands in an escape sequence. -/
inductive LineEditor.Phase where
  | text
  /-- The escape byte was read. -/
  | escape
  /-- The escape byte and one of the two introducers were read. -/
  | introduced
  /-- A digit followed; the next byte ends the sequence. -/
  | numbered
  deriving DecidableEq, Inhabited

/-- The line so far and where the editor stands. -/
structure LineEditor where
  /-- Whether keys are shown. -/
  echo : Bool
  /-- The lines that the arrows walk through, oldest first. -/
  history : List String
  buffer : List Char
  /-- The line of the history that is shown; its length stands for the empty line below the
  newest. -/
  position : Nat
  phase : LineEditor.Phase
  /-- Whether the byte before was a carriage return. -/
  afterReturn : Bool
  deriving Inhabited

namespace LineEditor

/-- An editor at the start of a line. -/
def start (afterReturn echo : Bool) (history : List String) : LineEditor where
  echo
  history
  buffer := []
  position := history.length
  phase := .text
  afterReturn

/-- What one more byte leads to. -/
inductive Step where
  /-- The line goes on; the text is sent back. -/
  | more (editor : LineEditor) (sent : String)
  /-- The line is complete; the text is sent back. -/
  | line (text : String) (sent : String) (afterReturn : Bool)
  /-- The visitor leaves. -/
  | leave

/-- What is sent to erase the last character on the screen. -/
def erase : String := "\x08 \x08"

/-- What is sent to replace a shown line by another one. -/
def redraw (old new : List Char) : String :=
  String.join (List.replicate old.length erase) ++ String.ofList new

/-- The text, if keys are shown. -/
def shown (e : LineEditor) (text : String) : String := if e.echo then text else ""

/-- Shows the line of the history at a position; below the newest one it is empty. -/
def showEntry (e : LineEditor) (position : Nat) : Step :=
  let new := ((e.history[position]?).getD "").toList
  .more { e with buffer := new, position, phase := .text } (e.shown (redraw e.buffer new))

/-- The last byte of an escape sequence. The arrows move through the history as long as there is
somewhere to go. -/
def endSequence (e : LineEditor) (b : UInt8) : Step :=
  if b = 0x41 ∧ 0 < e.position then e.showEntry (e.position - 1)
  else if b = 0x42 ∧ e.position < e.history.length then e.showEntry (e.position + 1)
  else .more { e with phase := .text } ""

/-- A key that is no escape sequence. -/
def key (e : LineEditor) (b : UInt8) : Step :=
  if b = 0x0a ∧ e.afterReturn = true ∧ e.buffer = [] then .more { e with afterReturn := false } ""
  else if b = 0x0d ∨ b = 0x0a then .line (String.ofList e.buffer) "\r\n" (b == 0x0d)
  else
    let e := { e with afterReturn := false }
    if b = 0x7f ∨ b = 0x08 then
      if e.buffer = [] then .more e ""
      else .more { e with buffer := e.buffer.dropLast } (e.shown erase)
    else if b = 0x03 then .line "" "^C\r\n" false
    else if b = 0x04 then .leave
    else if b = 0x1b then .more { e with phase := .escape } ""
    else if b < 0x80 then
      let c := Char.ofNat b.toNat
      .more { e with buffer := e.buffer ++ [c] } (e.shown (String.singleton c))
    else .more e ""

/-- One more byte. -/
def feed (e : LineEditor) (b : UInt8) : Step :=
  match e.phase with
  | .text => e.key b
  | .escape =>
    .more { e with phase := if b = 0x5b ∨ b = 0x4f then .introduced else .text } ""
  | .introduced =>
    if 0x30 ≤ b ∧ b ≤ 0x39 then .more { e with phase := .numbered } "" else e.endSequence b
  | .numbered => .more { e with phase := .text } ""

/-! ### Reading a line -/

/-- How reading a line ends. -/
inductive Ending where
  | line (text : String)
  /-- The visitor left. -/
  | left
  /-- There are no more bytes. -/
  | exhausted
  deriving DecidableEq, Inhabited

/-- The line that was read, if there is one. -/
def Ending.line? : Ending → Option String
  | .line text => some text
  | _ => none

/-- What reading a line leads to. -/
structure Reading where
  ending : Ending
  /-- All that is sent back. -/
  sent : String
  /-- The bytes that are left. -/
  rest : List UInt8
  /-- Whether the last byte read was a carriage return. -/
  afterReturn : Bool
  deriving Inhabited

/-- Reads bytes up to the end of a line. -/
def readLine (e : LineEditor) : List UInt8 → Reading
  | [] => ⟨.exhausted, "", [], e.afterReturn⟩
  | b :: rest =>
    match e.feed b with
    | .more e sent =>
      let r := readLine e rest
      { r with sent := sent ++ r.sent }
    | .line text sent afterReturn => ⟨.line text, sent, rest, afterReturn⟩
    | .leave => ⟨.left, "", rest, false⟩

end LineEditor

end MissionConsole
