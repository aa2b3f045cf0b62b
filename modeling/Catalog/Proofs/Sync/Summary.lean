import Catalog.Proofs.Json.Members
import Catalog.Proofs.Sync.Platforms

/-!
The summary of a run as an object. The platforms stand in it beside the fixed fields, and as long as
none of them has the name of one, every field and every platform keeps its own value: what is not
fixed is the platforms, in their order.
-/
namespace Catalog.Sync

open Json

namespace SourceSummary

/-- The summary as a member of a run's summary. -/
def entry (s : SourceSummary) : Value := .record s.members

theorem entry_counts (s : SourceSummary) :
    s.entry.member? "new" = some (.ofNat s.new) ∧
      s.entry.member? "updated" = some (.ofNat s.updated) ∧
      s.entry.member? "skipped" = some (.ofNat s.skipped) ∧
      s.entry.member? "error" = s.error.map .text := by
  obtain ⟨new, updated, skipped, error⟩ := s
  cases error <;>
    simp [entry, Value.record, Value.member?, Members.get?_ofList, members, errorMember,
      Members.get?]

end SourceSummary

namespace Report

variable {r : Report}

/-- No platform has the name of a fixed field. -/
structure Unclashed (r : Report) : Prop where
  ordered : r.platforms.Ordered
  apart : ∀ name ∈ r.platforms.names, name ∉ reserved

/-- The fixed fields in front of the platforms. -/
def front (r : Report) : Members :=
  [("run_id", .text r.runId), ("started_at", .text r.started.exactStamp),
    ("backend", .text r.backend.name), ("success", .bool r.success)]

/-- The fixed fields behind the platforms. -/
def back (r : Report) : Members :=
  (match r.cleanup with
    | some c => [("cleanup", .record c.members)]
    | none => []) ++
  SourceSummary.errorMember r.error ++ [("duration", .ofNat r.duration)]

def fixed (r : Report) : Members := r.front ++ r.back

def entries (r : Report) : Members := r.platforms.map fun (name, s) => (name, s.entry)

/-- The names of the fixed fields that a report has. -/
def fixedNames (r : Report) : List String :=
  ["run_id", "started_at", "backend", "success", "duration"] ++
    (if r.cleanup.isSome then ["cleanup"] else []) ++ if r.error.isSome then ["error"] else []

theorem names_fixed (r : Report) : r.fixed.names.Perm r.fixedNames := by
  cases cleanup : r.cleanup <;> cases error : r.error <;>
    simp [fixed, front, back, fixedNames, Members.names, SourceSummary.errorMember, cleanup,
      error] <;>
    decide

theorem fixedNames_reserved (r : Report) : ∀ name ∈ r.fixedNames, name ∈ reserved := by
  unfold fixedNames
  cases r.cleanup.isSome <;> cases r.error.isSome <;> decide

theorem nodup_fixedNames (r : Report) : r.fixedNames.Nodup := by
  unfold fixedNames
  cases r.cleanup.isSome <;> cases r.error.isSome <;> decide

theorem names_entries (r : Report) : r.entries.names = r.platforms.names := by
  simp [entries, Members.names, Platforms.names]

theorem summary_eq (r : Report) : r.summary = .record (r.front ++ r.entries ++ r.back) := by
  cases cleanup : r.cleanup <;> cases error : r.error <;>
    simp [summary, fields, front, back, entries, SourceSummary.entry, SourceSummary.errorMember,
      Value.ofNat, cleanup, error] <;> rfl

theorem names_fields (r : Report) :
    r.fields.map Prod.fst = Members.names (r.front ++ r.entries ++ r.back) := by
  cases cleanup : r.cleanup <;> cases error : r.error <;>
    simp [fields, front, back, entries, Members.names, SourceSummary.errorMember, cleanup, error]

/-- The members of the summary. -/
def members (r : Report) : Members := Members.ofList (r.front ++ r.entries ++ r.back)

theorem summary_object (r : Report) : r.summary = .object r.members := r.summary_eq

theorem sorted_members (r : Report) : Members.Sorted r.members := Members.sorted_ofList _

theorem fields_perm (r : Report) :
    (r.front ++ r.entries ++ r.back).Perm (r.fixed ++ r.entries) := by
  rw [fixed, List.append_assoc, List.append_assoc]
  exact List.perm_append_comm.append_left _

theorem Unclashed.distinct (unclashed : r.Unclashed) :
    (Members.names (r.front ++ r.entries ++ r.back)).Nodup := by
  rw [Members.names, (r.fields_perm.map Prod.fst).nodup_iff, List.map_append]
  refine List.nodup_append.mpr ⟨?_, ?_, ?_⟩
  · exact r.names_fixed.nodup_iff.mpr r.nodup_fixedNames
  · rw [← Members.names, names_entries]
    exact unclashed.ordered.nodup
  · rintro name member _ platform rfl
    rw [← Members.names, names_entries] at platform
    exact unclashed.apart name platform
      (r.fixedNames_reserved name (r.names_fixed.mem_iff.mp member))

/-- The summary holds the fixed fields and the platforms, and nothing is replaced. -/
theorem Unclashed.members_perm (unclashed : r.Unclashed) :
    r.members.Perm (r.fixed ++ r.entries) :=
  (Members.ofList_perm unclashed.distinct).trans r.fields_perm

theorem Unclashed.mem_names (unclashed : r.Unclashed) (name : String) :
    name ∈ r.members.names ↔ name ∈ r.fixedNames ∨ name ∈ r.platforms.names := by
  rw [Members.names, (unclashed.members_perm.map Prod.fst).mem_iff, List.map_append,
    List.mem_append, ← Members.names, ← Members.names, names_entries, r.names_fixed.mem_iff]

theorem Unclashed.get?_of_mem (unclashed : r.Unclashed) {name : String} {v : Value}
    (member : (name, v) ∈ r.fixed ++ r.entries) : r.members.get? name = some v :=
  Members.get?_of_mem r.sorted_members (unclashed.members_perm.mem_iff.mpr member)

theorem Unclashed.get?_of_not_mem (unclashed : r.Unclashed) {name : String}
    (fixed : name ∉ r.fixedNames) (platform : name ∉ r.platforms.names) :
    r.members.get? name = none := by
  refine Members.get?_eq_none fun m member => ?_
  rintro rfl
  rcases (unclashed.mem_names m.1).mp (List.mem_map_of_mem member) with here | there
  · exact fixed here
  · exact platform there

/-- What the fixed fields of a report are in an object. -/
structure Keeps (r : Report) (members : Members) : Prop where
  runId : members.get? "run_id" = some (.text r.runId)
  started : members.get? "started_at" = some (.text r.started.exactStamp)
  backend : members.get? "backend" = some (.text r.backend.name)
  success : members.get? "success" = some (.bool r.success)
  cleanup : members.get? "cleanup" = r.cleanup.map fun c => .record c.members
  error : members.get? "error" = r.error.map .text
  duration : members.get? "duration" = some (.ofNat r.duration)

theorem Unclashed.keeps (unclashed : r.Unclashed) : r.Keeps r.members := by
  have here {name : String} {v : Value} (member : (name, v) ∈ r.fixed) :
      r.members.get? name = some v := unclashed.get?_of_mem (List.mem_append_left _ member)
  have absent {name : String} (known : name ∈ reserved) (missing : name ∉ r.fixedNames) :
      r.members.get? name = none :=
    unclashed.get?_of_not_mem missing fun platform => unclashed.apart name platform known
  refine ⟨here ?_, here ?_, here ?_, here ?_, ?_, ?_, here ?_⟩
  · simp [fixed, front]
  · simp [fixed, front]
  · simp [fixed, front]
  · simp [fixed, front]
  · cases cleanup : r.cleanup with
    | none => exact absent (by decide) (by unfold fixedNames; simp [cleanup])
    | some c => exact here (by simp [fixed, back, cleanup])
  · cases error : r.error with
    | none => exact absent (by decide) (by unfold fixedNames; simp [error])
    | some e => exact here (by simp [fixed, back, SourceSummary.errorMember, error])
  · simp [fixed, back]

/-- The members that are not fixed fields are the platforms, in their order. -/
theorem Unclashed.filter_members (unclashed : r.Unclashed) :
    r.members.filter (fun m => !reserved.contains m.1) = r.entries := by
  refine Members.eq_of_mem_iff (r.sorted_members.filter _) ?_ fun m => ?_
  · exact List.pairwise_map.mpr (List.pairwise_map.mp unclashed.ordered)
  · have fixed (member : m ∈ r.fixed) : m.1 ∈ reserved :=
      r.fixedNames_reserved _ (r.names_fixed.mem_iff.mp (List.mem_map_of_mem member))
    have free (member : m ∈ r.entries) : m.1 ∉ reserved :=
      unclashed.apart _ (r.names_entries ▸ List.mem_map_of_mem member)
    rw [List.mem_filter, unclashed.members_perm.mem_iff, List.mem_append, Bool.not_eq_true',
      List.contains_eq_mem, decide_eq_false_iff_not]
    constructor
    · rintro ⟨known | platform, other⟩
      · exact absurd (fixed known) other
      · exact platform
    · exact fun platform => ⟨.inr platform, free platform⟩

end Report

end Catalog.Sync
