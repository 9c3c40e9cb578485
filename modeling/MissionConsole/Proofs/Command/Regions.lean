import MissionConsole.Proofs.Command.Orders
import MissionConsole.Proofs.Command.Standing
import MissionConsole.Proofs.Dispatch.Emission
import MissionConsole.Proofs.Filesystem.Documents
import MissionConsole.Proofs.Text.Lines
import MissionConsole.Proofs.Text.Lowering

/-!
# The regions, told by four commands

The regions of the map are listed by one command and in one document, and two commands go to them,
the map's and the vehicle's. The lists hold the same keys in the same order. Both ways of going to a
region read its key in letters of either case, and of several regions with one key both find the
first.

## Main definitions

* `Reply.FliesTo`, `Reply.DrivesTo` — the map flies to a place, the vehicle is sent there
* `Region.Reached` — both go to the region that was found, or neither goes anywhere
* `Dispatcher.RegionViewsAgree` — the four commands tell the same regions

## Main results

* `MapLink.goto_of_word`, `Vehicle.uxv_of_word` — both ways of going to a region
* `Dispatcher.region_views_agree` — the four commands, for every list of regions
-/

namespace MissionConsole

/-! ### Going to a region -/

namespace Reply

/-- The map, and nothing else, flies to a target at a place. -/
def FliesTo (r : Reply) (target : String) (place : Float × Float) : Prop :=
  r.moves = [.navigate target (some (.float place.1, .float place.2))
    (some (.int MapLink.destinationZoom)) none]

/-- The vehicle, and nothing else, is sent to a place. -/
def DrivesTo (r : Reply) (place : Float × Float) : Prop :=
  r.moves = [.uxv "goto" (Vehicle.place "target" place)]

end Reply

/-- What the map and the vehicle answer when a key is asked for and this region is found: both go to
its centre, or neither goes anywhere. -/
def Region.Reached (key : String) (fly drive : Reply) : Option Region → Prop
  | some region => fly.FliesTo key region.center ∧ drive.DrivesTo region.center
  | none => fly = ⟨["Unknown region: " ++ key], []⟩ ∧ drive = ⟨["Unknown region: " ++ key], []⟩

/-- The region that a word asks for: the first one whose key is the word, letter case apart. -/
theorem Region.find?_lower (regions : List Region) (word : String) :
    find? regions (Text.lower word) = regions.find? (·.key == Text.lower word) := by
  rw [find?, Text.lower_lower]

variable {ctx : Context} {word : String}

theorem MapLink.goto_of_word (hargs : ctx.args = [word]) (hhq : Text.lower word ≠ "hq") :
    goto ctx =
      match ctx.regions.find? (·.key == Text.lower word) with
      | none => ctx.say ("Unknown region: " ++ Text.lower word)
      | some region =>
        ctx.answer ["Navigating to " ++ Text.lower word ++ "…"]
          (leaveFor
            [.navigate (Text.lower word) (some (.float region.center.1, .float region.center.2))
                (some (.int destinationZoom)) none,
              .unlock ("visit_" ++ Text.lower word)]) := by
  rw [goto, hargs]
  dsimp only
  -- The command looks for a word in small letters, and the search makes them small once more.
  rewrite [if_neg hhq, goToRegion, Region.find?_lower]
  rfl

theorem Vehicle.uxv_of_word (hargs : ctx.args = ["goto", "region", word]) (hword : word ≠ "") :
    uxv ctx =
      match ctx.regions.find? (·.key == Text.lower word) with
      | none => ctx.say ("Unknown region: " ++ Text.lower word)
      | some region =>
        order ctx "goto" (place "target" region.center)
          ("UXV: target set to " ++ Text.lower word) (some "navigate") := by
  have hgoto : Text.lower "goto" = Order.goto.word := by decide
  have hregion : Text.lower "region" = "region" := by decide
  have hkind : ctx.args[1]?.map Text.lower = some "region" := by
    rw [hargs]
    exact congrArg some hregion
  rw [uxv_of_lower_eq hargs hgoto]
  dsimp only
  rw [goto, if_pos hkind, goToRegion, hargs]
  dsimp only [List.getElem?_cons_succ, List.getElem?_cons_zero]
  -- A key that is there is not empty in small letters either, so it is not taken for a missing one.
  rewrite [if_neg (Text.lower_ne_empty hword), Region.find?_lower]
  rfl

/-! ### The document -/

/-- A document that lists keys which are words is shown as the list of them. -/
theorem System.shownLines_keys {regions : List Region}
    (hkeys : ∀ r ∈ regions, Text.IsWord r.key) :
    shownLines ("\n".intercalate (regions.map (·.key))) =
      if regions = [] then [""] else regions.map (·.key) := by
  have hwords : ∀ key ∈ regions.map (·.key), Text.IsWord key := by simpa using hkeys
  rw [shownLines, Text.lines_intercalate (fun key hkey => (hwords key hkey).ne_empty)
    fun key hkey => (hwords key hkey).unbroken]
  -- A document without a line is shown as an empty one.
  cases regions <;> rfl

/-! ### The lines -/

namespace Dispatcher

variable {d : Dispatcher} {s : Session} {flyLine driveLine : String}

theorem words_uxv (hword : Text.IsWord word) :
    Text.words ("uxv goto region " ++ word) = ["uxv", "goto", "region", word] := by
  have hparts : "uxv goto region " ++ word =
      "uxv" ++ " " ++ ("goto" ++ " " ++ ("region" ++ " " ++ word)) := by
    simp [← String.append_assoc]
  have huxv : Text.IsWord "uxv" := by decide
  have hgoto : Text.IsWord "goto" := by decide
  have hregion : Text.IsWord "region" := by decide
  rw [hparts, Text.words_cons huxv, Text.words_cons hgoto, Text.words_cons hregion,
    Text.words_of_isWord hword]

/-- A word is read alike by the map and by the vehicle. -/
theorem reached_of_invokes (hfly : d.Invokes s flyLine .goto [word])
    (hdrive : d.Invokes s driveLine .uxv ["goto", "region", word]) (hword : word ≠ "")
    (hhq : Text.lower word ≠ "hq") (files : Filesystem) :
    Region.Reached (Text.lower word) (d.dispatch files s flyLine).reply
      (d.dispatch files s driveLine).reply (d.regions.find? (·.key == Text.lower word)) := by
  have hgoto : (d.context files s Builtin.goto.command [word]).args = [word] := rfl
  have huxv : (d.context files s Builtin.uxv.command ["goto", "region", word]).args =
      ["goto", "region", word] := rfl
  rw [hfly.reply_eq (by decide), hdrive.reply_eq (by decide), Builtin.run, Builtin.run,
    MapLink.goto_of_word hgoto hhq, Vehicle.uxv_of_word huxv hword]
  -- Both commands look at the regions of the dispatcher.
  have hregions {b : Builtin} {args : List String} :
      (d.context files s b.command args).regions = d.regions := rfl
  rw [hregions, hregions]
  generalize d.regions.find? (·.key == Text.lower word) = found
  rcases found with - | region
  · exact ⟨rfl, rfl⟩
  · exact ⟨rfl, rfl⟩

/-- The four commands tell the same regions. -/
structure RegionViewsAgree (d : Dispatcher) (files : Filesystem) (s : Session) : Prop where
  /-- The command lists the keys on one line, in order. -/
  listed : (d.dispatch files s "regions").reply = ⟨[", ".intercalate (d.regions.map (·.key))], []⟩
  /-- The document lists them one on a line, in the same order. -/
  shown : (d.dispatch files s "cat /docs/regions.txt").reply =
    ⟨if d.regions = [] then [""] else d.regions.map (·.key), []⟩
  /-- Under each of the keys, in letters of either case, both ways lead to the first region that has
  it. -/
  found : ∀ r ∈ d.regions, ∀ word, Text.IsWord word → Text.lower word = r.key →
    ∃ first, d.regions.find? (·.key == r.key) = some first ∧
      (d.dispatch files s ("goto " ++ word)).reply.FliesTo r.key first.center ∧
      (d.dispatch files s ("uxv goto region " ++ word)).reply.DrivesTo first.center
  /-- Both ways lead to the same region under every other word too, or nowhere. -/
  alike : ∀ word, Text.IsWord word → Text.lower word ≠ "hq" →
    Region.Reached (Text.lower word) (d.dispatch files s ("goto " ++ word)).reply
      (d.dispatch files s ("uxv goto region " ++ word)).reply
      (d.regions.find? (·.key == Text.lower word))

/-- Whatever the regions are, if their keys are words other than `hq`, the four commands tell the
same regions, to everyone and from everywhere. -/
theorem region_views_agree (d : Dispatcher) (hd : d.registry = .standard) (s : Session)
    (hs : s.takesCommand = true)
    (hriddle : d.profile.riddle.command ∉ ["regions", "cat", "goto", "uxv"])
    (hkeys : ∀ r ∈ d.regions, Text.IsWord r.key ∧ r.key ≠ "hq") (companies : List String) :
    d.RegionViewsAgree (.standard d.regions companies) s := by
  have hfree (name : String) (hname : name ∈ ["regions", "cat", "goto", "uxv"]) :
      d.profile.riddle.command ≠ name := fun h => hriddle (h ▸ hname)
  have hlist : d.Invokes s "regions" .regions [] :=
    invokes_of_words hd hs (by decide +kernel) (hfree "regions" (by decide)) (by decide) rfl
  have hcat : d.Invokes s "cat /docs/regions.txt" .cat ["/docs/regions.txt"] :=
    invokes_of_words hd hs (by decide +kernel) (hfree "cat" (by decide)) (by decide) rfl
  have hgoto {word : String} (hword : Text.IsWord word) :
      d.Invokes s ("goto " ++ word) .goto [word] :=
    invokes_pair hd hs rfl (hfree "goto" (by decide)) (by decide) rfl hword
  have huxv {word : String} (hword : Text.IsWord word) :
      d.Invokes s ("uxv goto region " ++ word) .uxv ["goto", "region", word] :=
    invokes_of_words hd hs (words_uxv hword) (hfree "uxv" (by decide)) (Int.natCast_nonneg 3) rfl
  have halike (word : String) (hword : Text.IsWord word) (hhq : Text.lower word ≠ "hq") :=
    reached_of_invokes (hgoto hword) (huxv hword) hword.ne_empty hhq
      (.standard d.regions companies)
  refine { listed := ?_, shown := ?_, found := fun r hr word hword hkey => ?_, alike := halike }
  · exact hlist.reply_eq (by decide) _
  · rw [hcat.cat_reply_of_open (by decide) (by decide) (Filesystem.read?_regions _ _),
      System.shownLines_keys fun r hr => (hkeys r hr).1]
  -- A region is found under its own key, though perhaps not itself.
  · obtain ⟨first, hfirst⟩ := Option.isSome_iff_exists.1
      (List.find?_isSome (p := (·.key == r.key)).2 ⟨r, hr, beq_self_eq_true r.key⟩)
    have hreached := halike word hword (hkey ▸ (hkeys r hr).2)
    rw [hkey, hfirst] at hreached
    exact ⟨first, hfirst, hreached⟩

/-- Of two regions with one key the first is gone to, in whatever letters it is asked for, and a
guest who stands nowhere reads both in the document. -/
theorem region_views_agree_twins :
    let first : Region := ⟨"moon", 0, 2, 0, 4⟩
    let second : Region := ⟨"moon", 8, 10, 0, 4⟩
    let d : Dispatcher :=
      { Dispatcher.standard (Profile.map .standard) [] (.ok "") with regions := [first, second] }
    let files : Filesystem := .standard d.regions []
    let s : Session := { Session.fresh "id" "local" with cwd := "/gone" }
    s.takesCommand = true ∧
      d.profile.riddle.command ∉ ["regions", "cat", "goto", "uxv"] ∧
      (∀ r ∈ d.regions, Text.IsWord r.key ∧ r.key ≠ "hq") ∧
      (d.dispatch files s "cat /docs/regions.txt").reply = ⟨["moon", "moon"], []⟩ ∧
      (d.dispatch files s ("goto " ++ "MOON")).reply.FliesTo "moon" first.center ∧
      (d.dispatch files s ("uxv goto region " ++ "Moon")).reply.DrivesTo first.center := by
  intro first second d files s
  have hkeys : ∀ r ∈ d.regions, Text.IsWord r.key ∧ r.key ≠ "hq" := by
    simp only [d, List.forall_mem_cons, first, second]
    exact ⟨by decide, by decide, List.forall_mem_nil _⟩
  have hagree := region_views_agree d rfl s rfl (by decide) hkeys []
  have hfirst {r : Region} (h : d.regions.find? (·.key == first.key) = some r) : r = first :=
    (Option.some.inj h).symm
  obtain ⟨r, hr, hfly, -⟩ :=
    hagree.found first List.mem_cons_self "MOON" (by decide) (by decide +kernel)
  obtain ⟨r', hr', -, hdrive⟩ :=
    hagree.found first List.mem_cons_self "Moon" (by decide) (by decide +kernel)
  rw [hfirst hr] at hfly
  rw [hfirst hr'] at hdrive
  exact ⟨rfl, by decide, hkeys, hagree.shown, hfly, hdrive⟩

end Dispatcher

end MissionConsole
