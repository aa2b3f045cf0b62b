import Mathlib.Data.List.Permutation
import Catalog.Command.Run
import Catalog.Proofs.Disk.Tree
import Catalog.Proofs.Sync.Digest
import Catalog.Proofs.Sync.Recorded

/-!
Reports on a disk. Every run leaves its summary in a directory of its own, and the digest opens
whatever directories there are, in the order in which the disk lists them. It shows the reports
that were filed, whatever else stands beside them.
-/
namespace Catalog

open Disk

namespace Sync

/-- The summaries to be read in the directories at a path are those of some reports, each in the
directory that has the name of its run. -/
structure Filed (tree : Tree) (path : List String) (reports : List Report) : Prop where
  distinct : (reports.map Report.runId).Nodup
  directory : ∀ r ∈ reports, tree.at? (path ++ [r.runId]) = .directory
  summary : ∀ r ∈ reports, tree.at? (path ++ [r.runId, summaryFile]) = .text r.summaryText
  only : ∀ name text, tree.at? (path ++ [name]) = .directory →
    tree.at? (path ++ [name, summaryFile]) = .text text → ∃ r ∈ reports, r.runId = name

namespace Filed

variable {tree : Tree} {path : List String} {reports : List Report} {r : Report}

theorem find?_eq_some (filed : Filed tree path reports) {name : String} :
    reports.find? (fun r => r.runId == name) = some r ↔ r ∈ reports ∧ r.runId = name := by
  constructor
  · intro found
    have named := List.find?_some found
    exact ⟨List.mem_of_find?_eq_some found, by simpa using named⟩
  · rintro ⟨member, rfl⟩
    obtain ⟨s, found⟩ : ∃ s, reports.find? (fun s => s.runId == r.runId) = some s :=
      Option.isSome_iff_exists.mp (List.find?_isSome.mpr ⟨r, member, beq_self_eq_true _⟩)
    have named := List.find?_some found
    rw [found, List.inj_on_of_nodup_map filed.distinct (List.mem_of_find?_eq_some found) member
      (by simpa using named)]

/-- In directories that are there, the summaries to be read are those of the reports named so. -/
theorem texts_directories (filed : Filed tree path reports) {directories : List String}
    (there : ∀ name ∈ directories, tree.at? (path ++ [name]) = .directory) :
    Digest.texts (directories.map fun name => (name, tree.at? (path ++ [name, summaryFile]))) =
      (directories.filterMap fun name => reports.find? fun r => r.runId == name).map
        Report.summaryText := by
  rw [Digest.texts, List.filterMap_map, List.map_filterMap]
  refine List.filterMap_congr fun name member => ?_
  cases found : reports.find? fun r => r.runId == name with
  | some r =>
    obtain ⟨reported, rfl⟩ := filed.find?_eq_some.mp found
    simp [filed.summary r reported]
  | none =>
    cases held : tree.at? (path ++ [name, summaryFile]) with
    | text text =>
      obtain ⟨r, reported, rfl⟩ := filed.only name text (there name member) held
      rw [filed.find?_eq_some.mpr ⟨reported, rfl⟩] at found
      cases found
    | missing | directory | blocked => simp [held]

/-- The archive holds the texts of the summaries, in some order. -/
theorem opened (filed : Filed tree path reports) (root : tree.at? path = .directory)
    (shown : String) :
    ∃ archive, ∃ listed : List Report, Archive.open tree path shown = .ok archive ∧
      listed.Perm reports ∧ Digest.texts archive.runs = listed.map Report.summaryText := by
  -- the order is that of the directories, which has nothing to do with that of the reports
  let directories := (tree.children path).filter fun name => tree.at? (path ++ [name]) == .directory
  have there : ∀ name ∈ directories, tree.at? (path ++ [name]) = .directory :=
    fun name member => eq_of_beq (List.mem_filter.mp member).2
  have distinct : directories.Nodup := (Tree.nodup_children tree path).filter _
  refine ⟨⟨shown, directories.map fun name => (name, tree.at? (path ++ [name, summaryFile]))⟩,
    directories.filterMap fun name => reports.find? fun r => r.runId == name, ?_, ?_,
    filed.texts_directories there⟩
  · rw [Archive.open, root]
  · refine (List.perm_ext_iff_of_nodup ?_ (List.Nodup.of_map _ filed.distinct)).mpr fun r => ?_
    · refine distinct.filterMap fun name other r here there => ?_
      exact (filed.find?_eq_some.mp here).2.symm.trans (filed.find?_eq_some.mp there).2
    · simp only [List.mem_filterMap, filed.find?_eq_some]
      constructor
      · rintro ⟨name, -, reported, -⟩
        exact reported
      · intro reported
        have listed : r.runId ∈ tree.children path :=
          Tree.mem_children.mpr ⟨_, _, Tree.mem_of_at?_text (filed.summary r reported)⟩
        have directory := beq_iff_eq.mpr (filed.directory r reported)
        exact ⟨r.runId, List.mem_filter.mpr ⟨listed, directory⟩, reported, rfl⟩

end Filed

end Sync

namespace Command.World

open Sync

variable {w : World} {r : Report} {name : String} {rest : List String}

/-- Where reports are left. -/
def archive (w : World) : List String := Tree.names w.settings.reportsPath

theorem file_disk (w : World) (r : Report) : (w.file r).disk =
    (w.disk.write (w.archive ++ [r.runId] ++ [summaryFile]) r.summaryText).write
      (w.archive ++ [r.runId] ++ [briefFile]) r.brief := rfl

theorem at?_file_self (missing : w.disk.at? (w.archive ++ [r.runId]) = .missing) :
    (w.file r).disk.at? (w.archive ++ [r.runId]) = .directory ∧
      (w.file r).disk.at? (w.archive ++ [r.runId, summaryFile]) = .text r.summaryText := by
  obtain ⟨above, held⟩ := Tree.at?_write_both missing (by decide : summaryFile ≠ briefFile)
    r.summaryText r.brief
  rw [List.append_cons w.archive r.runId [summaryFile]]
  exact ⟨above _ List.prefix_rfl (.inr missing), held⟩

theorem at?_file_of_ne (differ : name ≠ r.runId) :
    (w.file r).disk.at? (w.archive ++ name :: rest) = w.disk.at? (w.archive ++ name :: rest) := by
  have above (file : String) :
      ¬ w.archive ++ name :: rest <+: w.archive ++ [r.runId] ++ [file] := by
    rw [List.append_assoc, List.prefix_append_right_inj, List.singleton_append,
      List.cons_prefix_cons]
    exact fun same => differ same.1
  have below (file : String) :
      ¬ w.archive ++ [r.runId] ++ [file] <+: w.archive ++ name :: rest := by
    rw [List.append_assoc, List.prefix_append_right_inj, List.singleton_append,
      List.cons_prefix_cons]
    exact fun same => differ same.1.symm
  rw [file_disk, Tree.at?_write_of_apart (above _) (below _),
    Tree.at?_write_of_apart (above _) (below _)]

theorem at?_file_archive (missing : w.disk.at? (w.archive ++ [r.runId]) = .missing)
    (room : w.disk.at? w.archive = .directory ∨ w.disk.at? w.archive = .missing) :
    (w.file r).disk.at? w.archive = .directory :=
  (Tree.at?_write_both missing (by decide : summaryFile ≠ briefFile) r.summaryText r.brief).1 _
    (List.prefix_append _ _) room

theorem filed_file {reports : List Report} (filed : Filed w.disk w.archive reports)
    (missing : w.disk.at? (w.archive ++ [r.runId]) = .missing) :
    Filed (w.file r).disk w.archive (reports ++ [r]) := by
  have new : ∀ s ∈ reports, s.runId ≠ r.runId := by
    intro s member same
    have there := filed.directory s member
    rw [same, missing] at there
    cases there
  obtain ⟨directory, summary⟩ := at?_file_self missing
  refine ⟨?_, ?_, ?_, fun name text there held => ?_⟩
  · rw [List.map_append, List.nodup_append]
    refine ⟨filed.distinct, List.nodup_singleton _, fun a old b single => ?_⟩
    obtain ⟨s, member, rfl⟩ := List.mem_map.mp old
    rw [List.mem_singleton.mp single]
    exact new s member
  · refine List.forall_mem_append.mpr ⟨fun s member => ?_, List.forall_mem_singleton.mpr directory⟩
    rw [at?_file_of_ne (new s member)]
    exact filed.directory s member
  · refine List.forall_mem_append.mpr ⟨fun s member => ?_, List.forall_mem_singleton.mpr summary⟩
    rw [at?_file_of_ne (new s member)]
    exact filed.summary s member
  · by_cases same : name = r.runId
    · exact ⟨r, List.mem_append_right _ (List.mem_singleton.mpr rfl), same.symm⟩
    · rw [at?_file_of_ne same] at there held
      obtain ⟨s, member, named⟩ := filed.only name text there held
      exact ⟨s, List.mem_append_left _ member, named⟩

/-- Runs with names of their own leave the directory with all their reports filed. -/
theorem filed_fileAll {reports : List Report} (filed : Filed w.disk w.archive before)
    (missing : ∀ r ∈ reports, w.disk.at? (w.archive ++ [r.runId]) = .missing)
    (distinct : (reports.map Report.runId).Nodup) :
    Filed (reports.foldl file w).disk w.archive (before ++ reports) := by
  induction reports generalizing w before with
  | nil => rwa [List.append_nil]
  | cons r reports ih =>
    obtain ⟨first, others⟩ := List.forall_mem_cons.mp missing
    obtain ⟨fresh, distinct⟩ := List.nodup_cons.mp distinct
    -- filing this report makes no directory for the later ones
    have still : ∀ s ∈ reports, (w.file r).disk.at? (w.archive ++ [s.runId]) = .missing := by
      intro s member
      rw [at?_file_of_ne fun same => fresh (same ▸ List.mem_map_of_mem member)]
      exact others s member
    have filed := ih (w := w.file r) (filed_file filed first) still distinct
    rwa [List.append_assoc, List.singleton_append] at filed

end Command.World

namespace Sync

/-- The digest of a directory in which reports of runs are filed, with starts that all differ. It
shows the latest runs, as many as asked for but at least one, and the newest first. The section of a
run says what the report does, and for the platforms of its brief, in their order, the same counts;
other lines there are none. -/
theorem digest_tells_latest (tree : Tree) (path : List String) (shown : String)
    (root : tree.at? path = .directory) (reports : List Report) (filed : Filed tree path reports)
    (readable : ∀ r ∈ reports, r.Readable)
    (apart : reports.Pairwise fun a b => a.started ≠ b.started) (runs : Nat) :
    ∃ latest : List Report, latest.Perm reports ∧
      (latest.Pairwise fun a b => b.started.lt a.started = true) ∧
      (latest.take (max runs 1)).length = min (max runs 1) reports.length ∧
      (do Digest.markdown runs (← Archive.open tree path shown)) =
        .ok (Report.joinLines (["# Opportunity Sync Report", ""] ++
          (latest.take (max runs 1)).flatMap fun r =>
            r.digestFront ++ r.platforms.map Report.countLine ++ r.digestBack)) ∧
      ∀ r ∈ reports, r.brief = Report.joinLines (r.briefFront ++
        r.platforms.map (fun p => Report.countLine p ++ Report.fetchNote p) ++ r.briefBack) := by
  obtain ⟨archive, listed, opened, same, held⟩ := filed.opened root shown
  have perm : (Report.latest listed).Perm reports := (Report.latest_perm listed).trans same
  have differ : listed.Pairwise fun a b => a.started ≠ b.started :=
    same.symm.pairwise apart fun ne => ne.symm
  refine ⟨Report.latest listed, perm, Report.latest_descending differ, ?_, ?_, fun r _ => ?_⟩
  · rw [List.length_take, perm.length_eq]
  · rw [opened]
    exact Digest.markdown_eq (fun r member => readable r (same.mem_iff.mp member)) held runs
  · rw [Report.brief, r.briefLines_eq]

/-- A world with nothing on its disk. -/
def bare : Command.World :=
  { environment := fun _ => none, now := ⟨0, 0⟩, disk := [],
    network := fun _ _ => .unreachable "", issued := 0, runId := "" }

/-- A run over one platform, under two spellings. -/
def respelled : Report := stopped.recordAll (spellings.map fun v => (v.1.platform, v.2))

def earlier : Report := { runId := "earlier", started := ⟨4, 0⟩, backend := .database }

theorem respelled_unclashed : respelled.Unclashed :=
  Report.unclashed_recordAll parse_spelledTwice (by decide) rfl

theorem respelled_platforms : respelled.platforms = [("mlh", ⟨1, 0, 2, some "late"⟩)] := by
  decide

theorem respelled_readable : respelled.Readable := by
  refine ⟨respelled_unclashed, ⟨fun p member => ?_, nofun, by decide⟩, ⟨by decide, by decide⟩,
    by decide, by decide⟩
  rw [respelled_platforms] at member
  rw [List.mem_singleton.mp member]
  exact ⟨by decide, by decide, by decide⟩

theorem earlier_readable : earlier.Readable :=
  ⟨⟨.nil, nofun⟩, ⟨nofun, nofun, by decide⟩, ⟨by decide, by decide⟩, by decide, by decide⟩

/-- The disk after both runs. -/
def afterBoth : Tree := ([earlier, respelled].foldl Command.World.file bare).disk

theorem filed_both : Filed afterBoth bare.archive [earlier, respelled] := by
  have none_yet : Filed bare.disk bare.archive [] := ⟨.nil, nofun, nofun, nofun⟩
  exact Command.World.filed_fileAll none_yet (by decide) (by decide)

theorem root_both : afterBoth.at? bare.archive = .directory := by
  have first : (bare.file earlier).disk.at? bare.archive = .directory :=
    Command.World.at?_file_archive (by decide) (.inr (by decide))
  exact Command.World.at?_file_archive (w := bare.file earlier) (by decide) (.inl first)

/-- The later of two runs is shown where none is asked for. -/
theorem digest_tells_latest_respelled :
    afterBoth.at? bare.archive = .directory ∧
      Filed afterBoth bare.archive [earlier, respelled] ∧
      (∀ r ∈ [earlier, respelled], r.Readable) ∧
      ([earlier, respelled].Pairwise fun a b => a.started ≠ b.started) ∧
      (do Digest.markdown 0 (← Archive.open afterBoth bare.archive "reports")) =
        .ok (Report.joinLines ["# Opportunity Sync Report", "", "## Run `run`",
          "- started: 1970-01-01T00:00:05Z", "- backend: file", "- success: false",
          "- duration: 0 ms", "- error: disk full", "- mlh: 1 new, 0 updated, 2 skipped", ""]) := by
  have readable : ∀ r ∈ [earlier, respelled], r.Readable := by
    simpa using ⟨earlier_readable, respelled_readable⟩
  have apart : [earlier, respelled].Pairwise fun a b => a.started ≠ b.started := by decide
  obtain ⟨latest, perm, descending, -, shown, -⟩ := digest_tells_latest afterBoth bare.archive
    "reports" root_both _ filed_both readable apart 0
  have order : latest = [respelled, earlier] := by
    rcases List.perm_pair.mp perm with rfl | same
    · exact absurd descending (by decide)
    · exact same
  have front : respelled.digestFront = ["## Run `run`", "- started: 1970-01-01T00:00:05Z",
      "- backend: file", "- success: false", "- duration: 0 ms", "- error: disk full"] := by decide
  have lines : respelled.platforms.map Report.countLine =
      ["- mlh: 1 new, 0 updated, 2 skipped"] := by
    rw [respelled_platforms]
    decide
  have back : respelled.digestBack = [""] := rfl
  refine ⟨root_both, filed_both, readable, apart, shown.trans ?_⟩
  rw [order]
  simp [front, lines, back]

end Sync

end Catalog
