import MissionConsole.Web.Browser
import MissionConsole.Proofs.Dispatch.Run

/-!
# What a guest learns of restricted files

Nothing: two trees that differ only in contents below `/secrets` are one to a guest. That files are
there, and how they are called, is no secret. The argument goes line by line: until a line makes the
visitor root, both trees give the same session, so that the next line is entered on one session
again.

## Main results

* `Dispatcher.step_eq_of_guest` — a line of a guest is answered alike on both trees
* `Browser.browse_eq` — both trees look alike on the web
* `Dispatcher.guest_noninterference` — a visit is alike up to the line that makes the visitor root
-/

namespace MissionConsole

variable {a b : Filesystem}

/-- A path that is not restricted is read alike. -/
theorem Filesystem.AgreeOutside.read?_eq_of_open (hagree : a.AgreeOutside ["secrets"] b)
    {path : String} (hopen : System.isRestricted path = false) : a.read? path = b.read? path := by
  apply hagree.read?_eq
  rw [← System.isRestricted_iff_prefix, hopen]
  exact Bool.false_ne_true

/-- Both trees look alike on the web. -/
theorem Browser.browse_eq (hshape : a.SameShape b) (hagree : a.AgreeOutside ["secrets"] b)
    (path : String) : browse a path = browse b path := by
  simp only [browse]
  split_ifs with hrestricted
  · rfl
  · rw [Bool.not_eq_true] at hrestricted
    rw [hshape.list?_eq, hagree.read?_eq_of_open hrestricted]

namespace Dispatcher

variable {d : Dispatcher} {s : Session}

/-- A guest sees the same in whatever command: what may be read is not restricted. -/
theorem seenAlike_of_guest (hshape : a.SameShape b) (hagree : a.AgreeOutside ["secrets"] b)
    (hs : s.isRoot = false) (command : Command) (args : List String) :
    (d.context b s command args).SeenAlike (d.context a s command args) where
  args := rfl
  session := rfl
  alerts := rfl
  regions := rfl
  companies := rfl
  clock := rfl
  commands := rfl
  shape := hshape
  contents := by
    rintro path (hroot | hopen)
    · exact absurd hroot (by simp [context, hs])
    · exact hagree.read?_eq_of_open hopen

theorem answer_eq_of_guest (hd : d.registry = .standard) (hshape : a.SameShape b)
    (hagree : a.AgreeOutside ["secrets"] b) (hs : s.isRoot = false) (line : String) :
    d.answer a s line = d.answer b s line := by
  -- Answers to a riddle and passwords are taken without the tree.
  rw [answer, answer,
    runCommand_eq_of_seenAlike hd hd rfl (seenAlike_of_guest hshape hagree hs) line]

/-- A line of a guest is answered alike on both trees. -/
theorem step_eq_of_guest (hd : d.registry = .standard) (hshape : a.SameShape b)
    (hagree : a.AgreeOutside ["secrets"] b) (hs : s.isRoot = false) (i : Input) :
    d.step a s i = d.step b s i := by
  have hdate : (d.dated i.date).registry = .standard := hd
  rw [step, step]
  by_cases hline : Text.trim i.line = ""
  · rw [dispatch_of_blank hline, dispatch_of_blank hline]
  · have hanswer := answer_eq_of_guest hdate hshape hagree hs (Text.trim i.line)
    rw [dispatch_of_ne hline, dispatch_of_ne hline, hanswer]

/-- As long as the visitor is no root after the lines before, a line is answered alike on both
trees. -/
theorem getElem?_turns_eq_of_guest (hd : d.registry = .standard) (hshape : a.SameShape b)
    (hagree : a.AgreeOutside ["secrets"] b) (hs : s.isRoot = false) (inputs : List Input) (k : Nat)
    (hguest : ∀ turn ∈ (d.turns a s inputs).take k, turn.session.isRoot = false) :
    (d.turns a s inputs)[k]? = (d.turns b s inputs)[k]? := by
  -- The first answers are equal, and so are the sessions on which the visits go on.
  induction inputs generalizing s k with
  | nil => rfl
  | cons i inputs ih =>
    have hstep := step_eq_of_guest hd hshape hagree hs i
    rw [turns_cons] at hguest
    rw [turns_cons, turns_cons]
    cases k with
    | zero => rw [List.getElem?_cons_zero, List.getElem?_cons_zero, hstep]
    | succ k =>
      rw [List.take_succ_cons] at hguest
      have hfirst : (d.step a s i).session.isRoot = false := hguest _ List.mem_cons_self
      rw [List.getElem?_cons_succ, List.getElem?_cons_succ, ← hstep]
      exact ih hfirst k fun turn hturn => hguest turn (List.mem_cons_of_mem _ hturn)

/-- Two trees of one shape whose contents agree outside of `/secrets` are one to a guest: each line
up to the one that makes the visitor root is answered alike, with the same session, reply and
journal, and everything looks alike on the web. -/
theorem guest_noninterference (d : Dispatcher) (hd : d.registry = .standard)
    (hshape : a.SameShape b) (hagree : a.AgreeOutside ["secrets"] b) (s : Session)
    (hs : s.isRoot = false) (inputs : List Input) :
    (∀ k, (∀ turn ∈ (d.turns a s inputs).take k, turn.session.isRoot = false) →
        (d.turns a s inputs)[k]? = (d.turns b s inputs)[k]?) ∧
      ∀ path, Browser.browse a path = Browser.browse b path :=
  ⟨getElem?_turns_eq_of_guest hd hshape hagree hs inputs, Browser.browse_eq hshape hagree⟩

/-- A guest who stands below `/secrets` and asks for a file by a roundabout way learns nothing of
it. -/
theorem guest_noninterference_vault :
    let vault (content : String) : Filesystem := ⟨[("secrets", .dir [("key", .file content)])]⟩
    let d := standard (Profile.map .standard) [] (.ok "")
    let inputs : List Input := [⟨"cd secrets", .ok ""⟩, ⟨"cat ../secrets/./key", .ok ""⟩]
    d.registry = .standard ∧ (vault "red").SameShape (vault "blue") ∧
      (vault "red").AgreeOutside ["secrets"] (vault "blue") ∧
      (vault "red").read? "/secrets/key" ≠ (vault "blue").read? "/secrets/key" ∧
      (d.turns (vault "red") (.fresh "id" "local") inputs)[1]? =
        (d.turns (vault "blue") (.fresh "id" "local") inputs)[1]? ∧
      Browser.browse (vault "red") "/secrets/key" =
        Browser.browse (vault "blue") "/secrets/key" := by
  intro vault d inputs
  have hd : d.registry = .standard := rfl
  have hshape : (vault "red").SameShape (vault "blue") := rfl
  have hagree : (vault "red").AgreeOutside ["secrets"] (vault "blue") := by
    rintro (- | ⟨name, rest⟩) houtside
    · rfl
    · have hname : "secrets" ≠ name := by
        rintro rfl
        exact houtside ⟨rest, rfl⟩
      have hmissing (content : String) : (vault content).contentAt? (name :: rest) = none := by
        simp [vault, Filesystem.contentAt?, Filesystem.root, Node.at?, Node.child?, hname]
      rw [hmissing, hmissing]
  have halike := guest_noninterference d hd hshape hagree (.fresh "id" "local") rfl inputs
  refine ⟨hd, hshape, hagree, by decide, halike.1 1 ?_, halike.2 _⟩
  intro turn hturn
  rw [turns_cons, List.take_succ_cons, List.take_zero, List.mem_singleton] at hturn
  rw [hturn]
  decide

end Dispatcher

end MissionConsole
