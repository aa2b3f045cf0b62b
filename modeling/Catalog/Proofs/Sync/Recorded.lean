import Mathlib.Algebra.GroupWithZero.Nat
import Mathlib.Data.List.Induction
import Catalog.Config.Registry
import Catalog.Proofs.Sync.Ledger
import Catalog.Proofs.Sync.Summary

/-!
What the summary of a run tells of its ledgers. Ledgers are recorded one after the other under the
names of their platforms, in whatever case these are written; in the end the entry of a platform is
the sum of all ledgers recorded under its name, and no record is left out of the count.
-/
namespace Catalog

open Json

namespace Config.Registry

theorem apart_of_parse {text : String} {registry : Registry} (parsed : parse text = .ok registry) :
    ∀ e ∈ registry, Text.lowered e.platform ∉ Sync.Report.reserved := by
  unfold parse at parsed
  split at parsed
  · cases parsed
  · split at parsed
    · cases parsed
    · rename_i free
      cases parsed
      simpa [clashes] using free

theorem mem_of_mem_enabled {registry : Registry} {e : Entry} (member : e ∈ registry.enabled) :
    e ∈ registry := (List.mem_filter.mp member).1

end Config.Registry

namespace Sync

namespace SourceSummary

theorem total_absorb (a b : SourceSummary) : (a.absorb b).total = a.total + b.total := by
  simp only [absorb, total]
  omega

end SourceSummary

namespace Ledger

/-- How many records came out so. -/
def count (l : Ledger) (outcome : Outcome) : Nat := l.outcomes.countP (came outcome)

/-- How many records changed nothing, be it that they failed. -/
def idle (l : Ledger) : Nat := l.count .skipped + l.failures

theorem summary_eq (l : Ledger) :
    l.summary = ⟨l.count .created, l.count .updated, l.idle, l.fetchError⟩ := l.summary_counts

end Ledger

namespace Platforms

variable {platforms : Platforms}

theorem find?_eq_none {name : String} (absent : name ∉ platforms.names) :
    find? name platforms = none := by
  induction platforms with
  | nil => rfl
  | cons first rest ih =>
    rw [names_cons, List.mem_cons, not_or] at absent
    have other : (first.1 == name) = false := beq_eq_false_iff_ne.mpr (Ne.symm absent.1)
    simp [find?, other, ih absent.2]

theorem find?_absorb_of_ne {name other : String} (differ : other ≠ name) (s : SourceSummary) :
    find? other (platforms.absorb name s) = find? other platforms := by
  have ne : ¬ name = other := fun same => differ same.symm
  induction platforms with
  | nil => simp [absorb, find?, ne]
  | cons first rest ih =>
    obtain ⟨n, t⟩ := first
    unfold absorb
    split
    · rename_i same
      simp [find?, eq_of_beq same, ne]
    · split <;> simp [find?, ne, ih]

/-- What a platform is told with, added to what it was told with before. -/
theorem Ordered.find?_absorb (ordered : platforms.Ordered) (name : String) (s : SourceSummary) :
    find? name (platforms.absorb name s) =
      some (((find? name platforms).map (·.absorb s)).getD s) := by
  induction platforms with
  | nil => simp [Platforms.absorb, find?]
  | cons first rest ih =>
    obtain ⟨n, t⟩ := first
    obtain ⟨above, orderedRest⟩ := List.pairwise_cons.mp ordered
    unfold Platforms.absorb
    split
    · rename_i same
      simp [find?, same]
    · rename_i differ
      split
      · rename_i before
        have absent : name ∉ Platforms.names ((n, t) :: rest) := by
          rw [names_cons, List.mem_cons, not_or]
          refine ⟨fun same => differ (beq_iff_eq.mpr same.symm), fun later => ?_⟩
          exact Text.not_before_self name (before.trans (above name later))
        rw [find?_eq_none absent]
        simp [find?]
      · simp [find?, differ, ih orderedRest]

theorem total_absorb (name : String) (s : SourceSummary) (platforms : Platforms) :
    ((platforms.absorb name s).map fun p => p.2.total).sum =
      (platforms.map fun p => p.2.total).sum + s.total := by
  induction platforms with
  | nil => simp [absorb]
  | cons first rest ih =>
    obtain ⟨n, t⟩ := first
    unfold absorb
    split
    · simp only [List.map_cons, List.sum_cons, SourceSummary.total_absorb]
      omega
    · split
      · simp only [List.map_cons, List.sum_cons]
        omega
      · simp only [List.map_cons, List.sum_cons, ih]
        omega

theorem mem_of_find? {name : String} {s : SourceSummary} (found : find? name platforms = some s) :
    (name, s) ∈ platforms := by
  induction platforms with
  | nil => cases found
  | cons first rest ih =>
    obtain ⟨n, t⟩ := first
    simp only [find?] at found
    split at found
    · rename_i same
      cases found
      rw [eq_of_beq same]
      exact List.mem_cons_self
    · exact List.mem_cons_of_mem _ (ih found)

end Platforms

/-! Ledgers under their platforms -/

/-- The ledgers that belong to a name, in whatever case their platforms are written. -/
def ledgersOf (name : String) (visits : List (String × Ledger)) : List Ledger :=
  (visits.filter fun v => Text.lowered v.1 == name).map Prod.snd

/-- The sums over some ledgers, with the first of their fetch errors. -/
def combined (ledgers : List Ledger) : SourceSummary :=
  ⟨(ledgers.map (·.count .created)).sum, (ledgers.map (·.count .updated)).sum,
    (ledgers.map Ledger.idle).sum, ledgers.findSome? (·.fetchError)⟩

def told : List Ledger → Option SourceSummary
  | [] => none
  | ledgers => some (combined ledgers)

theorem told_of_ne_nil {ledgers : List Ledger} (some_ledger : ledgers ≠ []) :
    told ledgers = some (combined ledgers) := by
  cases ledgers with
  | nil => exact absurd rfl some_ledger
  | cons => rfl

theorem combined_concat (ledgers : List Ledger) (l : Ledger) :
    combined (ledgers ++ [l]) = (combined ledgers).absorb l.summary := by
  rw [Ledger.summary_eq]
  cases held : ledgers.findSome? (·.fetchError) <;>
    simp [combined, SourceSummary.absorb, List.findSome?_append, held]

theorem told_concat (ledgers : List Ledger) (l : Ledger) :
    told (ledgers ++ [l]) = some (((told ledgers).map (·.absorb l.summary)).getD l.summary) := by
  rw [told_of_ne_nil (by simp)]
  cases ledgers with
  | nil => cases held : l.fetchError <;> simp [combined, told, Ledger.summary_eq, held]
  | cons first rest =>
    rw [combined_concat, told_of_ne_nil (List.cons_ne_nil first rest)]
    rfl

/-- What platforms tell of the visits to their sources. -/
structure Platforms.Tells (platforms : Platforms) (visits : List (String × Ledger)) : Prop where
  ordered : platforms.Ordered
  named : ∀ name, name ∈ platforms.names ↔ ∃ v ∈ visits, Text.lowered v.1 = name
  found : ∀ name, find? name platforms = told (ledgersOf name visits)
  total : (platforms.map fun p => p.2.total).sum =
    (visits.map fun v => v.2.outcomes.length).sum

theorem Platforms.Tells.record {platforms : Platforms} {visits : List (String × Ledger)}
    (tells : platforms.Tells visits) (platform : String) (ledger : Ledger) :
    Tells (platforms.absorb (Text.lowered platform) ledger.summary)
      (visits ++ [(platform, ledger)]) := by
  refine ⟨tells.ordered.absorb _ _, fun name => ?_, fun name => ?_, ?_⟩
  · rw [mem_names_absorb, tells.named]
    simp [or_and_right, exists_or, or_comm, eq_comm (a := name)]
  · by_cases same : name = Text.lowered platform
    · subst same
      rw [tells.ordered.find?_absorb, tells.found, ledgersOf, ledgersOf, List.filter_append,
        List.map_append, ← told_concat]
      simp
    · rw [find?_absorb_of_ne same, tells.found, ledgersOf, ledgersOf, List.filter_append]
      simp [Ne.symm same]
  · rw [total_absorb, tells.total, Ledger.total_summary]
    simp

namespace Report

/-- Records ledgers one after the other. -/
def recordAll (r : Report) (visits : List (String × Ledger)) : Report :=
  visits.foldl (fun r v => r.record v.1 v.2.summary) r

theorem recordAll_tells (r : Report) (fresh : r.platforms = []) (visits : List (String × Ledger)) :
    ∃ platforms : Platforms, r.recordAll visits = { r with platforms := platforms } ∧
      platforms.Tells visits := by
  induction visits using List.reverseRecOn with
  | nil =>
    have same : r = { r with platforms := [] } := by rw [← fresh]
    exact ⟨[], same, List.Pairwise.nil, by simp [Platforms.names], fun name => rfl, rfl⟩
  | append_singleton visits v ih =>
    obtain ⟨platforms, recorded, tells⟩ := ih
    refine ⟨_, ?_, tells.record v.1 v.2⟩
    have last : r.recordAll (visits ++ [v]) = (r.recordAll visits).record v.1 v.2.summary := by
      simp [recordAll]
    rw [last, recorded]
    rfl

/-- The platforms of an accepted registry do not clash with the fixed fields. -/
theorem unclashed_recordAll {text : String} {registry : Config.Registry}
    (parsed : Config.Registry.parse text = .ok registry) {visits : List (Config.Entry × Ledger)}
    (enabled : ∀ v ∈ visits, v.1 ∈ registry.enabled) {r : Report} (fresh : r.platforms = []) :
    (r.recordAll (visits.map fun v => (v.1.platform, v.2))).Unclashed := by
  obtain ⟨platforms, same, tells⟩ :=
    r.recordAll_tells fresh (visits.map fun v => (v.1.platform, v.2))
  rw [same]
  refine ⟨tells.ordered, fun name member => ?_⟩
  obtain ⟨v, visited, rfl⟩ := (tells.named name).mp member
  obtain ⟨visit, among, rfl⟩ := List.mem_map.mp visited
  exact Config.Registry.apart_of_parse parsed _
    (Config.Registry.mem_of_mem_enabled (enabled visit among))

end Report

/-- The count that a member stands for. -/
def counted (v : Option Value) : Nat :=
  match v with
  | some (.number (.integer (.ofNat n))) => n
  | _ => 0

/-- All records that an entry counts. -/
def entryTotal (entry : Value) : Nat :=
  counted (entry.member? "new") + counted (entry.member? "updated") +
    counted (entry.member? "skipped")

theorem SourceSummary.entryTotal_entry (s : SourceSummary) : entryTotal s.entry = s.total := by
  obtain ⟨new, updated, skipped, -⟩ := s.entry_counts
  rw [entryTotal, new, updated, skipped]
  rfl

/-- An entry of a summary counts the records of some ledgers. -/
structure EntryOf (ledgers : List Ledger) (entry : Value) : Prop where
  new : entry.member? "new" = some (.ofNat (ledgers.map (·.count .created)).sum)
  updated : entry.member? "updated" = some (.ofNat (ledgers.map (·.count .updated)).sum)
  skipped : entry.member? "skipped" = some (.ofNat (ledgers.map Ledger.idle).sum)
  error : entry.member? "error" = (ledgers.findSome? (·.fetchError)).map .text

/-- The summary of a run over sources of an accepted registry, their ledgers recorded one after the
other into a report that may say anything else, is an object with the fixed fields and the lowered
names of the platforms for members. Each fixed field keeps its value, each platform has the sums
over the ledgers under its name and the first of their errors, and the platforms together count
every record. In the text, where all fields are written, no name comes twice. -/
theorem summary_loses_nothing (text : String) (registry : Config.Registry)
    (parsed : Config.Registry.parse text = .ok registry) (visits : List (Config.Entry × Ledger))
    (enabled : ∀ v ∈ visits, v.1 ∈ registry.enabled) (r : Report) (fresh : r.platforms = []) :
    let recorded := visits.map fun v => (v.1.platform, v.2)
    let report := r.recordAll recorded
    ∃ members : Members, report.summary = .object members ∧ members.Sorted ∧
      (∀ name, name ∈ members.names ↔
        name ∈ r.fixedNames ∨ ∃ v ∈ visits, Text.lowered v.1.platform = name) ∧
      r.Keeps members ∧
      (∀ v ∈ visits, ∃ entry, members.get? (Text.lowered v.1.platform) = some entry ∧
        EntryOf (ledgersOf (Text.lowered v.1.platform) recorded) entry) ∧
      ((members.filter fun m => !Report.reserved.contains m.1).map fun m => entryTotal m.2).sum =
        (visits.map fun v => v.2.outcomes.length).sum ∧
      (report.fields.map Prod.fst).Nodup := by
  intro recorded report
  obtain ⟨platforms, same, tells⟩ := r.recordAll_tells fresh recorded
  have named (name : String) :
      name ∈ platforms.names ↔ ∃ v ∈ visits, Text.lowered v.1.platform = name := by
    simp only [tells.named, recorded, List.mem_map, exists_exists_and_eq_and]
  have held : report.platforms = platforms := congrArg Report.platforms same
  have fields : report.fixedNames = r.fixedNames := by
    rw [show report = _ from same]
    rfl
  have unclashed : report.Unclashed := Report.unclashed_recordAll parsed enabled fresh
  refine ⟨report.members, report.summary_object, report.sorted_members, fun name => ?_, ?_,
    fun v visited => ?_, ?_, ?_⟩
  · rw [unclashed.mem_names, held, named, fields]
  · have keeps : ({ r with platforms := platforms } : Report).Keeps report.members :=
      same ▸ unclashed.keeps
    exact ⟨keeps.runId, keeps.started, keeps.backend, keeps.success, keeps.cleanup, keeps.error,
      keeps.duration⟩
  · have present : ledgersOf (Text.lowered v.1.platform) recorded ≠ [] := by
      refine List.ne_nil_of_mem (a := v.2) (List.mem_map.mpr ⟨(v.1.platform, v.2), ?_, rfl⟩)
      exact List.mem_filter.mpr ⟨List.mem_map_of_mem visited, beq_self_eq_true _⟩
    have found := (tells.found (Text.lowered v.1.platform)).trans (told_of_ne_nil present)
    have member : (Text.lowered v.1.platform, (combined _).entry) ∈ report.entries :=
      List.mem_map_of_mem (held ▸ Platforms.mem_of_find? found)
    obtain ⟨new, updated, skipped, error⟩ := SourceSummary.entry_counts (combined _)
    exact ⟨_, unclashed.get?_of_mem (List.mem_append_right _ member), new, updated, skipped, error⟩
  · have counts : report.entries.map (fun m => entryTotal m.2) =
        platforms.map fun p => p.2.total := by
      rw [Report.entries, held, List.map_map]
      exact List.map_congr_left fun p _ => p.2.entryTotal_entry
    rw [unclashed.filter_members, counts, tells.total, List.map_map]
    rfl
  · rw [Report.names_fields]
    exact unclashed.distinct

/-- One platform under two spellings. -/
def spelledTwice : String :=
  "sources:\n  - platform: MLH\n    display_name: A\n  - platform: mlh\n    display_name: B\n"

def capital : Config.Entry := { platform := "MLH", displayName := "A" }

def small : Config.Entry := { platform := "mlh", displayName := "B" }

theorem parse_spelledTwice : Config.Registry.parse spelledTwice = .ok [capital, small] := by
  decide +kernel

def spellings : List (Config.Entry × Ledger) :=
  [(capital, ⟨none, [.ok .created]⟩),
    (small, ⟨some "late", [.ok .skipped, .error (.noCandidateKey "x")]⟩)]

def stopped : Report :=
  { runId := "run", started := ⟨5, 0⟩, backend := .file, error := some "disk full" }

/-- Both ledgers go under one name, and the run's own error stays beside that of the platform. -/
theorem summary_loses_nothing_respelled :
    Config.Registry.parse spelledTwice = .ok [capital, small] ∧
      (∀ v ∈ spellings, v.1 ∈ Config.Registry.enabled [capital, small]) ∧ stopped.platforms = [] ∧
      ∃ members : Members, ∃ entry,
        (stopped.recordAll (spellings.map fun v => (v.1.platform, v.2))).summary =
          .object members ∧
        members.get? "error" = some (.text "disk full") ∧ members.get? "mlh" = some entry ∧
        entry.member? "new" = some (.ofNat 1) ∧ entry.member? "skipped" = some (.ofNat 2) ∧
        entry.member? "error" = some (.text "late") := by
  have enabled : ∀ v ∈ spellings, v.1 ∈ Config.Registry.enabled [capital, small] := by decide
  obtain ⟨members, summed, -, -, keeps, each, -⟩ := summary_loses_nothing spelledTwice _
    parse_spelledTwice spellings enabled stopped rfl
  obtain ⟨entry, held, counts⟩ := each _ List.mem_cons_self
  have name : Text.lowered "MLH" = "mlh" := by decide
  refine ⟨parse_spelledTwice, enabled, rfl, members, entry, summed, keeps.error, name ▸ held, ?_⟩
  exact ⟨counts.new, counts.skipped, counts.error⟩

end Sync

end Catalog
