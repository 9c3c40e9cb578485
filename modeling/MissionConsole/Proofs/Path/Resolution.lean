import MissionConsole.Proofs.Path.Parent

/-!
# Steps from directory to directory

A path may be followed at once or step by step. The names that the first steps lead to stand for
these steps in all that follows, for a later `..` takes back names and nothing else. So going on
from where a path leads is the same as writing the two paths one behind the other.

## Main results

* `Path.reduce_reduce_append` — what is reduced already may be reduced again with what follows
* `Path.resolve_eq_canonicalize` — a path as seen from a directory
* `Path.resolve_resolve` — two steps are one
* `Path.foldl_resolve` — a chain of steps is one step
* `Path.resolve_composes` — the laws of going from directory to directory
-/

namespace MissionConsole.Path

variable {cwd a b : String} {steps : List String}

/-! ### Reducing a beginning -/

theorem reduce_reduce_append (segs more : List String) :
    reduce (reduce segs ++ more) = reduce (segs ++ more) := by
  -- The names that are left are put on the stack again in their order.
  have hbegin : (reduce segs).foldl step [] = segs.foldl step [] := by
    rw [foldl_step_of_names fun n hn => (mem_reduce hn).2, List.append_nil, reduce,
      List.reverse_reverse]
  rw [reduce, List.foldl_append, hbegin, ← List.foldl_append, reduce]

theorem way_append_slash (p q : String) : way (p ++ "/" ++ q) = reduce (way p ++ segments q) := by
  rw [way, segments_append_slash, way, reduce_reduce_append]

/-- A canonical form stands for its path in front of another one. -/
theorem canonicalize_canonicalize_append (p q : String) :
    canonicalize (canonicalize p ++ "/" ++ q) = canonicalize (p ++ "/" ++ q) := by
  rw [canonicalize_eq_iff, way_append_slash, way_append_slash, way_canonicalize]

/-! ### One step -/

/-- An absolute path is seen as its canonical form, a relative one as that of the two together. -/
theorem resolve_eq_canonicalize (cwd path : String) :
    resolve cwd path =
      canonicalize (if Text.startsWith path "/" then path else cwd ++ "/" ++ path) := by
  split_ifs with habsolute
  · exact resolve_of_absolute cwd habsolute
  · exact resolve_of_relative cwd (Bool.eq_false_iff.2 habsolute)

@[simp] theorem canonicalize_resolve (cwd path : String) :
    canonicalize (resolve cwd path) = resolve cwd path :=
  isCanonical_iff.1 (isCanonical_resolve cwd path)

/-- Where a path leads is seen the same from everywhere. -/
theorem resolve_resolve_self (x cwd path : String) :
    resolve x (resolve cwd path) = resolve cwd path := by
  have habsolute : Text.startsWith (resolve cwd path) "/" = true := by
    rw [resolve_eq_canonicalize]
    exact startsWith_ofNames _
  rw [resolve_of_absolute x habsolute, canonicalize_resolve]

theorem resolve_dot (cwd : String) : resolve cwd "." = canonicalize cwd := by
  have hdot : segments "." = ["."] := rfl
  rw [resolve_of_relative cwd (by decide), canonicalize_eq_iff, way, segments_append_slash, hdot,
    reduce_append_dot, way]

theorem resolve_canonicalize (cwd path : String) :
    resolve (canonicalize cwd) path = resolve cwd path := by
  rw [resolve_eq_canonicalize, resolve_eq_canonicalize]
  split_ifs
  · rfl
  · exact canonicalize_canonicalize_append cwd path

/-! ### Steps one after the other -/

/-- A path is absolute or relative by its first character. -/
theorem startsWith_append_slash (hne : a ≠ "") (rest : String) :
    Text.startsWith (a ++ rest) "/" = Text.startsWith a "/" := by
  rw [Text.startsWith, Text.startsWith, String.toList_append]
  cases ha : a.toList with
  | nil => exact absurd (String.toList_eq_nil_iff.1 ha) hne
  | cons c cs => simp [List.isPrefixOf]

/-- Two steps are one. -/
theorem resolve_resolve (hne : a ≠ "") (hrelative : Text.startsWith b "/" = false) :
    resolve (resolve cwd a) b = resolve cwd (a ++ "/" ++ b) := by
  have hfirst : Text.startsWith (a ++ "/" ++ b) "/" = Text.startsWith a "/" := by
    rw [String.append_assoc, startsWith_append_slash hne]
  rw [resolve_of_relative _ hrelative, resolve_eq_canonicalize cwd a,
    canonicalize_canonicalize_append, resolve_eq_canonicalize, hfirst]
  split_ifs
  · rfl
  · simp only [String.append_assoc]

/-- A chain of steps is one step. -/
theorem foldl_resolve (hne : a ≠ "") (hrelative : ∀ b ∈ steps, Text.startsWith b "/" = false) :
    steps.foldl resolve (resolve cwd a) = resolve cwd ("/".intercalate (a :: steps)) := by
  induction steps generalizing a with
  | nil => rfl
  | cons b steps ih =>
    -- The first two steps are written as one.
    have hjoin :
        "/".intercalate (a :: b :: steps) = "/".intercalate ((a ++ "/" ++ b) :: steps) := by
      rw [String.intercalate_cons_cons, String.intercalate_cons_append]
    have hlonger : a ++ "/" ++ b ≠ "" := by simp [hne]
    rw [List.foldl_cons, resolve_resolve hne (hrelative b List.mem_cons_self),
      ih hlonger fun c hc => hrelative c (List.mem_cons_of_mem b hc), hjoin]

/-- From a directory an absolute path is seen as its canonical form, and a relative one as that of
the two together. Going on from there by a relative path leads to where the two paths lead at once,
and so does a chain of such steps, however far they climb. Where a path leads is seen the same from
everywhere and does not change by staying there, and from a directory a path leads to the same place
however the directory is written. -/
theorem resolve_composes (cwd a : String) :
    resolve cwd a = canonicalize (if Text.startsWith a "/" then a else cwd ++ "/" ++ a) ∧
      (∀ b, a ≠ "" → Text.startsWith b "/" = false →
        resolve (resolve cwd a) b = resolve cwd (a ++ "/" ++ b)) ∧
      (∀ steps : List String, a ≠ "" → (∀ b ∈ steps, Text.startsWith b "/" = false) →
        steps.foldl resolve (resolve cwd a) = resolve cwd ("/".intercalate (a :: steps))) ∧
      (∀ x, resolve x (resolve cwd a) = resolve cwd a) ∧
      resolve (resolve cwd a) "." = resolve cwd a ∧
      resolve (canonicalize cwd) a = resolve cwd a := by
  refine ⟨resolve_eq_canonicalize cwd a, fun b hne hrelative => resolve_resolve hne hrelative,
    fun steps hne hrelative => foldl_resolve hne hrelative,
    fun x => resolve_resolve_self x cwd a, ?_, resolve_canonicalize cwd a⟩
  rw [resolve_dot, canonicalize_resolve]

/-- Steps that climb over what earlier steps entered, over the directory and over the root. -/
theorem resolve_composes_climb :
    resolve (resolve "/usr//local/" "./share//") "../../../../etc" =
        resolve "/usr//local/" "./share///../../../../etc" ∧
      resolve "/usr//local/" "./share///../../../../etc" = "/etc" ∧
      ["..", "", "bin/.", "../lib"].foldl resolve (resolve "/usr//local/" "./share//") =
        resolve "/usr//local/" "./share///..//bin/./../lib" ∧
      resolve "/usr//local/" "./share///..//bin/./../lib" = "/usr/local/lib" := by
  obtain ⟨-, htwo, hchain, -⟩ := resolve_composes "/usr//local/" "./share//"
  refine ⟨htwo "../../../../etc" (by decide) (by decide), by decide +kernel,
    hchain ["..", "", "bin/.", "../lib"] (by decide) (by decide), by decide +kernel⟩

end MissionConsole.Path
