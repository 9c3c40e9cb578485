import MissionConsole.Audit.LogFile
import MissionConsole.Proofs.Json.RoundTrip
import MissionConsole.Proofs.Text.Lines
import MissionConsole.Web.EventStream

/-!
# Lines of the logs cannot be forged

A record is logged as the text of an object. Whatever a visitor has typed into its fields, the text
is visible ASCII and therefore one line of the log; read back it gives the fields of the record, so
two records that differ never leave the same line.

## Main definitions

* `Record.IsExact` — the records without floating-point numbers
* `Record.text` — the text that a record is logged as

## Main results

* `LogFile.lines_textOf` — a file of unbroken lines has just these lines
* `Record.eq_of_fields_eq` — the fields of a record tell which one it is
* `Record.text_faithful` — the text of a record is one line, and gives the record back
-/

namespace MissionConsole

theorem Json.strs_inj {xs ys : List String} : strs xs = strs ys ↔ xs = ys := by
  simp [strs, List.map_inj_right]

/-! ### The lines of a file -/

/-- A file of lines that hold no line break has just these lines. -/
theorem LogFile.lines_textOf {lines : List String}
    (h : ∀ line ∈ lines, ∀ c ∈ line.toList, Text.isLineBreak c = false) :
    Text.lines (textOf lines) = lines := by
  induction lines with
  | nil => rfl
  | cons line lines ih =>
    have hline := Text.linesFrom_of_unbroken [] (h line List.mem_cons_self)
    have hrest := ih fun other hother => h other (List.mem_cons_of_mem line hother)
    have htext : (textOf (line :: lines)).toList =
        line.toList ++ '\n' :: (textOf lines).toList := by
      simp [textOf, String.join_cons]
    rw [Text.lines] at hrest ⊢
    rw [htext, hline]
    simp [hrest]

theorem Json.IsVisible.unbroken {c : Char} (h : IsVisible c) : Text.isLineBreak c = false := by
  obtain ⟨hlow, hhigh⟩ := h
  simp only [Text.isLineBreak, Bool.or_eq_false_iff, Bool.and_eq_false_iff, decide_eq_false_iff_not,
    beq_eq_false_iff_ne]
  omega

/-! ### Fields put one after the other -/

namespace Keyed

variable {α : Type}

/-- Fields that are put keep the places of those that are there. -/
theorem keys_prefix_foldl_put (m more : Keyed α) :
    m.keys <+: (more.foldl (fun m d => put m d.1 d.2) m).keys := by
  induction more generalizing m with
  | nil => exact List.prefix_rfl
  | cons d more ih =>
    refine List.IsPrefix.trans ?_ (ih (put m d.1 d.2))
    by_cases hd : d.1 ∈ m.keys
    · exact (keys_put_of_mem hd).symm ▸ List.prefix_rfl
    · rw [keys_put_of_not_mem hd]
      exact List.prefix_append ..

theorem nodup_keys_foldl_put {m : Keyed α} (hm : m.keys.Nodup) (more : Keyed α) :
    (more.foldl (fun m d => put m d.1 d.2) m).keys.Nodup := by
  induction more generalizing m with
  | nil => exact hm
  | cons d more ih => exact ih (nodup_keys_put hm d.1 d.2)

theorem mem_foldl_put {m more : Keyed α} {e : String × α}
    (h : e ∈ more.foldl (fun m d => put m d.1 d.2) m) : e ∈ m ∨ e ∈ more := by
  induction more generalizing m with
  | nil => exact .inl h
  | cons d more ih =>
    rcases ih h with hput | hmore
    · rcases mem_put hput with rfl | hold
      · exact .inr List.mem_cons_self
      · exact .inl hold
    · exact .inr (List.mem_cons_of_mem d hmore)

end Keyed

namespace Record

variable {r r' : Record} {stamp stamp' : String}

/-! ### The fields of a record -/

/-- A record whose details hold no floating-point numbers. -/
def IsExact (r : Record) : Prop := ∀ d ∈ r.details, d.2.IsExact

theorem IsExact.form (h : r.IsExact) (stamp : String) : (r.form stamp).IsExact := by
  refine .obj fun f hf => ?_
  rcases Keyed.mem_foldl_put hf with hstart | hdetail
  · simp only [List.mem_cons, List.not_mem_nil, or_false] at hstart
    rcases hstart with rfl | rfl
    · exact .str _
    · exact .str _
  · exact h f hdetail

/-- No field is written twice. -/
theorem nodup_keys_fields (r : Record) (stamp : String) :
    (Keyed.keys (r.fields stamp)).Nodup :=
  Keyed.nodup_keys_foldl_put (by simp) r.details

/-- The third field of a stage is its origin. -/
theorem keys_lifecycle (stage origin : String) (more : List (String × Json)) (stamp : String) :
    ["timestamp", "event_type", "origin"] <+:
      Keyed.keys ((lifecycle stage origin more).fields stamp) := by
  let start : Keyed Json :=
    [("timestamp", .str stamp), ("event_type", .str (lifecycle stage origin more).eventType),
      ("origin", .str origin)]
  exact Keyed.keys_prefix_foldl_put start more

/-- A line that was entered, a password that was tried and a remote login are told apart by their
fields, from one another and from every stage. -/
theorem eq_of_fields_eq (hr : r.channel ≠ .system) (h : r'.fields stamp' = r.fields stamp) :
    stamp' = stamp ∧ r' = r := by
  -- Different kinds have different names of fields; records of one kind differ in their values.
  have hkeys := congrArg Keyed.keys h
  cases r' with
  | lifecycle stage origin more =>
    have hthird := keys_lifecycle stage origin more stamp'
    rw [hkeys] at hthird
    cases r with
    | lifecycle => exact absurd rfl hr
    | _ => exact absurd hthird (by simp [fields, details, Keyed.put])
  | command =>
    cases r with
    | lifecycle => exact absurd rfl hr
    | command => simpa [fields, details, Keyed.put, Json.int, Json.strs_inj, eventType] using h
    | _ => simp [fields, details, Keyed.put] at hkeys
  | login =>
    cases r with
    | lifecycle => exact absurd rfl hr
    | login => simpa [fields, details, Keyed.put, Json.int, eventType] using h
    | _ => simp [fields, details, Keyed.put] at hkeys
  | transport =>
    cases r with
    | lifecycle => exact absurd rfl hr
    | transport => simpa [fields, details, Keyed.put, eventType] using h
    | _ => simp [fields, details, Keyed.put] at hkeys

/-! ### The text of a record -/

/-- The text that a record is logged as. -/
def text (stamp : String) (r : Record) : String := (Journal.Entry.record r).message stamp

theorem IsExact.unbroken_text (h : r.IsExact) (stamp : String) :
    ∀ c ∈ (r.text stamp).toList, Text.isLineBreak c = false :=
  fun c hc => ((h.form stamp).isVisible c hc).unbroken

/-- However many records are logged one after the other, the file has one line for each of them. -/
theorem lines_log {log : List (String × Record)} (h : ∀ e ∈ log, e.2.IsExact) :
    Text.lines (LogFile.textOf (log.map fun e => e.2.text e.1)) =
      log.map fun e => e.2.text e.1 := by
  refine LogFile.lines_textOf fun line hline => ?_
  obtain ⟨e, he, rfl⟩ := List.mem_map.1 hline
  exact (h e he).unbroken_text e.1

/-- Whatever texts, whole numbers, truth values and lists of texts a record tells, it is logged as
visible ASCII, which is one line; the line gives the fields of the record back, in order and each
under its own name; no record with other fields leaves the same line, and but for stages, of which
the case of the letters is not kept, no other record at all; and in the stream to the browser the
only line feeds are the two that end the record's frame. -/
theorem text_faithful (r : Record) (hr : r.IsExact) (stamp : String) :
    (∀ c ∈ (r.text stamp).toList, 0x20 ≤ c.toNat ∧ c.toNat ≤ 0x7f) ∧
      Text.lines (LogFile.textOf [r.text stamp]) = [r.text stamp] ∧
      Json.parse? (r.text stamp) = some (.obj (r.fields stamp)) ∧
      (Keyed.keys (r.fields stamp)).Nodup ∧
      (∀ (r' : Record) stamp', r'.IsExact → r'.text stamp' = r.text stamp →
        r'.fields stamp' = r.fields stamp ∧
          (r.channel ≠ .system → stamp' = stamp ∧ r' = r)) ∧
      ∃ body, EventStream.frame (r.form stamp) = body ++ "\n\n" ∧ '\n' ∉ body.toList := by
  have hexact := hr.form stamp
  refine ⟨fun c hc => ?_, ?_, hexact.parse?_render, r.nodup_keys_fields stamp, ?_, ?_⟩
  · obtain ⟨hlow, hhigh⟩ := hexact.isVisible c hc
    exact ⟨hlow, Nat.le_of_lt hhigh⟩
  · have hone : ∀ e ∈ [(stamp, r)], e.2.IsExact := by simpa using hr
    have hlines := lines_log hone
    rwa [List.map_singleton] at hlines
  · intro r' stamp' hr' hsame
    have hform : r'.form stamp' = r.form stamp := (hr'.form stamp').render_injective hexact hsame
    have hfields : r'.fields stamp' = r.fields stamp := Json.obj.inj hform
    exact ⟨hfields, fun hchannel => eq_of_fields_eq hchannel hfields⟩
  · refine ⟨"data: " ++ (r.form stamp).render, rfl, fun hfeed => ?_⟩
    rw [String.toList_append] at hfeed
    rcases List.mem_append.1 hfeed with hlabel | hbody
    · exact absurd hlabel (by decide)
    · exact absurd (hexact.isVisible _ hbody) (by decide)

/-- A name that tries to end its text, its object and its line stays one text of one line. -/
theorem text_faithful_forged :
    let r : Record := .lifecycle "OPEN" "web"
      [("name", .str "\"\x7d\n\u007f😀"), ("port", .int (-22)), ("ok", .bool true),
        ("tags", .strs ["a"])]
    r.IsExact ∧
      r.text "9:00" = "\x7b\"timestamp\": \"9:00\", \"event_type\": \"session_open\", " ++
        "\"origin\": \"web\", \"name\": \"\\\"\x7d\\n\\u007f\\ud83d\\ude00\", \"port\": -22, " ++
          "\"ok\": true, \"tags\": [\"a\"]\x7d" ∧
      Text.lines (LogFile.textOf [r.text "9:00"]) = [r.text "9:00"] ∧
      Json.parse? (r.text "9:00") = some (.obj (r.fields "9:00")) := by
  intro r
  have hr : r.IsExact := by
    simp [r, IsExact, details, Json.IsExact.str, Json.IsExact.int, Json.IsExact.bool,
      Json.IsExact.strs]
  obtain ⟨-, hline, hread, -⟩ := text_faithful r hr "9:00"
  exact ⟨hr, by decide +kernel, hline, hread⟩

end Record

end MissionConsole
