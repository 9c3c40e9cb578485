import MissionConsole.Filesystem.Layout
import MissionConsole.Proofs.Filesystem.Addition

/-!
# What the documents hold

No entry of the console's tree is refused, whatever the regions and the companies are: every path is
free when its turn comes. So the tree is known entry by entry, and the documents hold what was put
into them.

## Main definitions

* `Filesystem.stage` — the greeting and the system directories, with what was added to them
* `Filesystem.documents` — the directory of the documents

## Main results

* `Filesystem.standard_eq` — the tree of the console
* `Filesystem.read?_regions`, `Filesystem.read?_companies` — what the documents hold
-/

namespace MissionConsole.Filesystem

/-- The greeting and the system directories, with what has been added to `opt` and behind them. -/
def stage (opt more : List (String × Node)) : Filesystem :=
  ⟨[("README.txt", .file Layout.readme), ("bin", .dir []), ("boot", .dir []), ("dev", .dir []),
    ("etc", .dir []), ("home", .dir []), ("usr", .dir []), ("var", .dir []), ("tmp", .dir []),
    ("opt", .dir opt), ("sys", .dir []), ("proc", .dir [])] ++ more⟩

/-- The directory of the documents. -/
def documents (regions : List Region) (companies : List String) : List (String × Node) :=
  [("regions.txt", .file ("\n".intercalate (regions.map (·.key)))),
    ("companies.txt", .file (Layout.companyLine companies))]

theorem standard_of_addAll {regions : List Region} {companies : List String} {fs : Filesystem}
    (h : empty.addAll (Layout.entries regions companies) = .ok fs) :
    standard regions companies = fs := by
  unfold standard
  rw [h]

/-- The tree of the console. -/
theorem standard_eq (regions : List Region) (companies : List String) :
    standard regions companies =
      stage [("easter-eggs.md", .file Layout.guide)]
        [("docs", .dir (documents regions companies)), ("secrets", .file Layout.secrets)] := by
  -- Where a file is put depends on its path alone, so that each addition can be computed.
  have hsystem : empty.addAll (.file "/README.txt" Layout.readme :: Layout.systemDirs.map .dir) =
      .ok (stage [] []) := rfl
  have hregions (keys : String) :
      (stage [] []).addFile (Layout.docsDir ++ "/regions.txt") keys =
        .ok (stage [] [("docs", .dir [("regions.txt", .file keys)])]) :=
    addFile_eq_ok_iff.2 ⟨["docs"], "regions.txt", by decide +kernel, rfl⟩
  have hcompanies (keys line : String) :
      (stage [] [("docs", .dir [("regions.txt", .file keys)])]).addFile
          (Layout.docsDir ++ "/companies.txt") line =
        .ok (stage [] [("docs", .dir [("regions.txt", .file keys),
          ("companies.txt", .file line)])]) :=
    addFile_eq_ok_iff.2 ⟨["docs"], "companies.txt", by decide +kernel, rfl⟩
  have hguide (docs : List (String × Node)) :
      (stage [] [("docs", .dir docs)]).addFile "/opt/easter-eggs.md" Layout.guide =
        .ok (stage [("easter-eggs.md", .file Layout.guide)] [("docs", .dir docs)]) :=
    addFile_eq_ok_iff.2 ⟨["opt"], "easter-eggs.md", by decide +kernel, rfl⟩
  have hsecrets (opt docs : List (String × Node)) :
      (stage opt [("docs", .dir docs)]).addFile "/secrets" Layout.secrets =
        .ok (stage opt [("docs", .dir docs), ("secrets", .file Layout.secrets)]) :=
    addFile_eq_ok_iff.2 ⟨[], "secrets", by decide +kernel, rfl⟩
  refine standard_of_addAll ?_
  rw [addAll] at hsystem
  rw [addAll, Layout.entries, List.foldlM_append, hsystem]
  simp only [List.foldlM_cons, List.foldlM_nil, add, bind, Except.bind, hregions, hcompanies,
    hguide, hsecrets]
  rfl

/-- The directory of the documents. -/
theorem at?_docs (regions : List Region) (companies : List String) :
    (standard regions companies).root.at? ["docs"] = some (.dir (documents regions companies)) := by
  rw [standard_eq, root, Node.at?_dir_cons]
  rfl

/-- The regions are listed one on a line. -/
theorem read?_regions (regions : List Region) (companies : List String) :
    (standard regions companies).read? "/docs/regions.txt" =
      some ("\n".intercalate (regions.map (·.key))) := by
  have hway : Path.way "/docs/regions.txt" = ["docs"] ++ ["regions.txt"] := by decide +kernel
  rw [read?_eq_some_iff, node?_eq_at?, hway, Node.at?_append, at?_docs]
  rfl

/-- The companies are listed on one line. -/
theorem read?_companies (regions : List Region) (companies : List String) :
    (standard regions companies).read? "/docs/companies.txt" =
      some (Layout.companyLine companies) := by
  have hway : Path.way "/docs/companies.txt" = ["docs"] ++ ["companies.txt"] := by decide +kernel
  rw [read?_eq_some_iff, node?_eq_at?, hway, Node.at?_append, at?_docs]
  rfl

end MissionConsole.Filesystem
