import MissionConsole.Settings
import MissionConsole.Proofs.Command.Standing
import MissionConsole.Proofs.Filesystem.Documents
import MissionConsole.Proofs.Text.Lines
import Mathlib.Algebra.GroupWithZero.Nat

/-!
# The companies, told by a command and by a document

The settings give the names of companies, as often as they are listed there. The command names each
of them once, on one line; the document names them as often as the settings do, and is shown line by
line. So the two write the same exactly if no name is repeated and none holds a line break.

## Main results

* `List.eraseDups_eq_self_iff` — a list loses nothing if nothing in it is repeated
* `Text.eq_of_intercalate_eq` — joined texts tell how many of them were left out
* `Layout.shownLines_companyLine_iff` — when the document shows the line of the command
* `Dispatcher.company_views_agree_iff` — when the command and the document write the same
-/

/-! ### Lists without repeats -/

namespace List

variable {α : Type*} {l l' : List α}

/-- Induction along the removal of repeats: what is left behind an element differs from it. -/
@[elab_as_elim]
theorem eraseDups_induction [BEq α] {motive : List α → Prop} (nil : motive [])
    (cons : ∀ a l, motive (l.filter fun b => !b == a) → motive (a :: l)) : ∀ l, motive l
  | [] => nil
  | a :: l => cons a l (eraseDups_induction nil cons _)
termination_by l => l.length
decreasing_by exact Nat.lt_succ_of_le (length_filter_le _ _)

theorem eraseDups_sublist [BEq α] (l : List α) : l.eraseDups <+ l := by
  induction l using eraseDups_induction with
  | nil => exact .slnil
  | cons a l ih =>
    rw [eraseDups_cons]
    exact (ih.trans filter_sublist).cons_cons a

theorem nodup_eraseDups [BEq α] [LawfulBEq α] (l : List α) : l.eraseDups.Nodup := by
  induction l using eraseDups_induction with
  | nil => exact .nil
  | cons a l ih =>
    rw [eraseDups_cons, nodup_cons]
    refine ⟨fun hmem => ?_, ih⟩
    simpa using mem_eraseDups.1 hmem

/-- A list loses nothing if nothing in it is repeated. -/
theorem eraseDups_eq_self_iff [BEq α] [LawfulBEq α] : l.eraseDups = l ↔ l.Nodup := by
  refine ⟨fun h => h ▸ nodup_eraseDups l, fun h => ?_⟩
  induction l with
  | nil => rfl
  | cons a l ih =>
    obtain ⟨ha, hl⟩ := nodup_cons.1 h
    -- Nothing is filtered out, since the first element does not come again.
    have hkeep : l.filter (fun b => !b == a) = l := by
      refine filter_eq_self.2 fun b hb => ?_
      rw [Bool.not_eq_true', beq_eq_false_iff_ne]
      rintro rfl
      exact ha hb
    rw [eraseDups_cons, hkeep, ih hl]

/-- Leaving elements out makes a sum of positive weights less. -/
theorem Sublist.eq_or_sum_lt {weight : α → Nat} (hpos : ∀ a, 0 < weight a) (h : l' <+ l) :
    l' = l ∨ (l'.map weight).sum < (l.map weight).sum := by
  -- Both kinds of step keep the sum apart: an element left out weighs something, and one that is
  -- kept weighs the same on both sides.
  induction h with
  | slnil => exact .inl rfl
  | @cons l' l a _ ih =>
    have ha := hpos a
    rw [map_cons, sum_cons]
    rcases ih with rfl | hlt
    · exact .inr (by omega)
    · exact .inr (by omega)
  | @cons_cons l' l a _ ih =>
    rw [map_cons, map_cons, sum_cons, sum_cons]
    rcases ih with rfl | hlt
    · exact .inl rfl
    · exact .inr (by omega)

end List

namespace MissionConsole

/-! ### Joined texts -/

namespace Text

variable {between : String} {parts parts' : List String}

/-- Joined texts are as long as the texts and what stands between them. -/
theorem length_intercalate (hne : parts ≠ []) :
    (between.intercalate parts).length + between.length =
      (parts.map fun p => p.length + between.length).sum := by
  -- What stands behind the last text is counted on the left, so that every text counts alike.
  induction parts with
  | nil => exact absurd rfl hne
  | cons p parts ih =>
    cases parts with
    | nil => simp
    | cons q parts =>
      have hrest := ih (List.cons_ne_nil q parts)
      rw [String.intercalate_cons_of_ne_nil (List.cons_ne_nil q parts), String.length_append,
        String.length_append, List.map_cons, List.sum_cons, ← hrest]
      omega

/-- If texts are left out, what is joined is another text. -/
theorem eq_of_intercalate_eq (hbetween : between ≠ "") (hsub : parts'.Sublist parts)
    (hne : parts' ≠ []) (h : between.intercalate parts' = between.intercalate parts) :
    parts' = parts := by
  have hpos (p : String) : 0 < p.length + between.length := by
    have : between.length ≠ 0 := mt String.length_eq_zero_iff.1 hbetween
    omega
  -- Each text adds to the length, at the least what stands before it.
  rcases hsub.eq_or_sum_lt hpos with heq | hlt
  · exact heq
  · have hne' : parts ≠ [] := fun hnil => hne (List.sublist_nil.1 (hnil ▸ hsub))
    rw [← length_intercalate hne, h, length_intercalate hne'] at hlt
    exact absurd hlt (Nat.lt_irrefl _)

end Text

/-! ### The document -/

theorem System.shownLines_of_ne_empty {content : String} (h : content ≠ "") :
    shownLines content = Text.lines content := by
  rw [shownLines]
  split
  · rename_i hlines
    exact absurd (Text.lines_eq_nil_iff.1 hlines) h
  · rfl

namespace Layout

variable {names : List String}

theorem companyLine_of_endsVisibly (h : Text.EndsVisibly (", ".intercalate names)) :
    companyLine names = ", ".intercalate names :=
  if_neg h.ne_empty

/-- The document shows one line that names each company once exactly if no name is repeated and none
holds a line break. -/
theorem shownLines_companyLine_iff (hnames : ∀ n ∈ names, Text.EndsVisibly n) :
    System.shownLines (companyLine names) = [companyLine names.eraseDups] ↔
      names.Nodup ∧ ∀ n ∈ names, Text.Unbroken n := by
  by_cases hnil : names = []
  · rw [hnil]
    exact iff_of_true (by decide) ⟨.nil, List.forall_mem_nil _⟩
  -- Both lines end visibly, so that the document is one line only if it is the joined names.
  have hsub := List.eraseDups_sublist names
  have honce : names.eraseDups ≠ [] :=
    List.ne_nil_of_mem (List.mem_eraseDups.2 (List.head_mem hnil))
  have hline := Text.endsVisibly_intercalate ", " hnil hnames
  have hlineOnce :=
    Text.endsVisibly_intercalate ", " honce fun n hn => hnames n (hsub.subset hn)
  rw [companyLine_of_endsVisibly hline, companyLine_of_endsVisibly hlineOnce,
    System.shownLines_of_ne_empty hline.ne_empty, Text.lines_eq_singleton_iff hline,
    Text.unbroken_intercalate (by decide)]
  -- And names that are left out are missing from the line.
  refine and_congr_left' ?_
  rw [← List.eraseDups_eq_self_iff]
  refine ⟨fun h => ?_, fun h => by rw [h]⟩
  exact Text.eq_of_intercalate_eq (by decide) hsub honce h.symm

end Layout

/-! ### The settings -/

namespace Settings

theorem companies_of_read {env : String → Option String} {settings : Settings}
    (h : read env = .ok settings) :
    settings.companies = companyNames ((env "COMPANIES").getD "") := by
  simp only [read, bind, Except.bind] at h
  -- The names are read as they are, once all numbers have been read.
  repeat' split at h
  all_goals cases h
  rfl

theorem endsVisibly_of_mem_companyNames {list name : String} (h : name ∈ companyNames list) :
    Text.EndsVisibly name := by
  rw [companyNames, List.mem_filter, List.mem_map, bne_iff_ne] at h
  obtain ⟨⟨part, -, rfl⟩, hne⟩ := h
  exact Text.endsVisibly_trim hne

end Settings

/-! ### The lines -/

namespace MapLink

/-- The command names each company once. -/
theorem companies_lines {ctx : Context} (h : ∀ name ∈ ctx.companies, name ≠ "") :
    (companies ctx).lines = [Layout.companyLine ctx.companies.eraseDups] := by
  have hall : ctx.companies.filter (· != "") = ctx.companies :=
    List.filter_eq_self.2 fun name hname => bne_iff_ne.2 (h name hname)
  rw [companies, hall]
  rfl

end MapLink

namespace Dispatcher

variable {d : Dispatcher} {s : Session} {rawLine : String}

theorem companies_lines (h : d.Invokes s rawLine .companies [])
    (hnames : ∀ name ∈ d.companies, name ≠ "") (files : Filesystem) :
    (d.dispatch files s rawLine).reply.lines = [Layout.companyLine d.companies.eraseDups] := by
  rw [h.reply_eq (by decide), Builtin.run, MapLink.companies_lines hnames]
  rfl

theorem companies_document_lines (h : d.Invokes s rawLine .cat ["/docs/companies.txt"])
    (regions : List Region) (companies : List String) :
    (d.dispatch (.standard regions companies) s rawLine).reply.lines =
      System.shownLines (Layout.companyLine companies) := by
  rw [h.cat_reply_of_open (by decide) (by decide) (Filesystem.read?_companies regions companies)]

theorem invokes_companies (hd : d.registry = .standard) (hs : s.takesCommand = true)
    (hriddle : d.profile.riddle.command ∉ ["companies", "cat"]) :
    d.Invokes s "companies" .companies [] ∧
      d.Invokes s "cat /docs/companies.txt" .cat ["/docs/companies.txt"] := by
  have hfree (name : String) (hname : name ∈ ["companies", "cat"]) :
      d.profile.riddle.command ≠ name := fun h => hriddle (h ▸ hname)
  constructor
  · exact invokes_of_words hd hs (by decide +kernel) (hfree "companies" (by decide)) (by decide) rfl
  · exact invokes_of_words hd hs (by decide +kernel) (hfree "cat" (by decide)) (by decide) rfl

/-- Whatever list of companies the settings are read from, the command and the document write the
same lines, to everyone and from everywhere, exactly if no name is repeated and no name holds a line
break. -/
theorem company_views_agree_iff {env : String → Option String} {settings : Settings}
    (hread : Settings.read env = .ok settings) (d : Dispatcher) (hd : d.registry = .standard)
    (hcompanies : d.companies = settings.companies) (regions : List Region) (s : Session)
    (hs : s.takesCommand = true) (hriddle : d.profile.riddle.command ∉ ["companies", "cat"]) :
    let files := Filesystem.standard regions settings.companies
    (d.dispatch files s "cat /docs/companies.txt").reply.lines =
        (d.dispatch files s "companies").reply.lines ↔
      settings.companies.Nodup ∧ ∀ name ∈ settings.companies, Text.Unbroken name := by
  have hnames : ∀ name ∈ settings.companies, Text.EndsVisibly name := fun name hname =>
    Settings.endsVisibly_of_mem_companyNames (Settings.companies_of_read hread ▸ hname)
  obtain ⟨hlist, hcat⟩ := invokes_companies hd hs hriddle
  dsimp only
  rw [companies_document_lines hcat, companies_lines hlist, hcompanies]
  · exact Layout.shownLines_companyLine_iff hnames
  · rw [hcompanies]
    exact fun name hname => (hnames name hname).ne_empty

/-- Blanks and empty names in the list make no difference, and a name of two lines does. -/
theorem company_views_agree_iff_lists :
    let env (list name : String) : Option String := [("COMPANIES", list)].lookup name
    let console (settings : Settings) : Dispatcher :=
      .standard (Profile.map settings) settings.companies (.ok "")
    let lines (settings : Settings) (line : String) : List String :=
      ((console settings).dispatch (.standard Region.defaults settings.companies)
        (.fresh "id" "local") line).reply.lines
    (∃ settings, Settings.read (env " Acme Corp ,,Globex,") = .ok settings ∧
      lines settings "cat /docs/companies.txt" = lines settings "companies") ∧
    ∃ settings, Settings.read (env "Acme\nCorp") = .ok settings ∧
      lines settings "cat /docs/companies.txt" ≠ lines settings "companies" := by
  intro env console lines
  have hprobe (settings : Settings) :
      (console settings).profile.riddle.command ∉ ["companies", "cat"] :=
    (by decide : "probe" ∉ ["companies", "cat"])
  constructor
  · obtain ⟨settings, hread⟩ :
        ∃ settings, Settings.read (env " Acme Corp ,,Globex,") = .ok settings := ⟨_, rfl⟩
    have hnames : settings.companies = ["Acme Corp", "Globex"] :=
      (Settings.companies_of_read hread).trans (by decide +kernel)
    refine ⟨settings, hread, (company_views_agree_iff hread (console settings) rfl rfl
      Region.defaults (.fresh "id" "local") rfl (hprobe settings)).2 ?_⟩
    rw [hnames]
    decide
  · obtain ⟨settings, hread⟩ : ∃ settings, Settings.read (env "Acme\nCorp") = .ok settings :=
      ⟨_, rfl⟩
    have hnames : settings.companies = ["Acme\nCorp"] :=
      (Settings.companies_of_read hread).trans (by decide +kernel)
    refine ⟨settings, hread, fun hsame => ?_⟩
    have hunbroken := (company_views_agree_iff hread (console settings) rfl rfl
      Region.defaults (.fresh "id" "local") rfl (hprobe settings)).1 hsame
    rw [hnames] at hunbroken
    exact absurd hunbroken.2 (by decide)

/-- A company that is listed twice is named once by the command, and twice by the document. -/
theorem company_views_part :
    let env (name : String) : Option String := [("COMPANIES", "Acme,Acme")].lookup name
    let s : Session := .fresh "id" "local"
    ∃ settings, Settings.read env = .ok settings ∧
      let d : Dispatcher := .standard (Profile.map settings) settings.companies (.ok "")
      let files := Filesystem.standard Region.defaults settings.companies
      d.registry = .standard ∧ s.takesCommand = true ∧
        d.profile.riddle.command ∉ ["companies", "cat"] ∧
        (d.dispatch files s "companies").reply.lines = ["Acme"] ∧
        (d.dispatch files s "cat /docs/companies.txt").reply.lines = ["Acme, Acme"] := by
  intro env s
  obtain ⟨settings, hread⟩ : ∃ settings, Settings.read env = .ok settings := ⟨_, rfl⟩
  have hnames : settings.companies = ["Acme", "Acme"] :=
    (Settings.companies_of_read hread).trans (by decide +kernel)
  have hprobe : (Profile.map settings).riddle.command ∉ ["companies", "cat"] :=
    (by decide : "probe" ∉ ["companies", "cat"])
  let d : Dispatcher := .standard (Profile.map settings) settings.companies (.ok "")
  obtain ⟨hlist, hcat⟩ : d.Invokes s "companies" .companies [] ∧ _ :=
    invokes_companies rfl rfl hprobe
  refine ⟨settings, hread, rfl, rfl, hprobe, ?_, ?_⟩
  · rw [companies_lines hlist, show d.companies = _ from hnames]
    · decide
    · rw [show d.companies = _ from hnames]
      decide
  · rw [companies_document_lines hcat, hnames]
    decide

end Dispatcher

end MissionConsole
