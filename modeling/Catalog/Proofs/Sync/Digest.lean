import Catalog.Proofs.Query.Sorting
import Catalog.Proofs.Sync.SummaryText
import Catalog.Proofs.Time.Order
import Catalog.Proofs.Time.Stamp
import Catalog.Sync.Digest

/-!
The digest of reports. It knows a run only by the text of its summary, in which the fields and the
platforms stand side by side; it says of every run what the report said, and the platforms it
finds by their shape are those of the brief.
-/
namespace Catalog.Sync

open Json

namespace Report

variable {r : Report}

/-- What is shown of a platform in the brief and in the digest. -/
def countLine (p : String × SourceSummary) : String :=
  platformLine p.1 (toString p.2.new) (toString p.2.updated) (toString p.2.skipped)

/-- What the brief adds for a platform that could not be fetched. -/
def fetchNote (p : String × SourceSummary) : String :=
  match p.2.error with
  | some e => " (fetch failed: " ++ e ++ ")"
  | none => ""

/-- What the brief says before its sources. -/
def briefFront (r : Report) : List String :=
  ["# Opportunity Sync Brief", "", "- Run ID: `" ++ r.runId ++ "`",
    "- Started: " ++ r.started.spelled, "- Backend: " ++ r.backend.name,
    "- Success: " ++ yesNo r.success, "- Duration: " ++ toString r.duration ++ " ms"] ++
  r.error.toList.map ("- Error: " ++ ·) ++ ["", "## Sources"]

/-- What the brief says after its sources. -/
def briefBack (r : Report) : List String :=
  r.cleanup.toList.flatMap (fun c =>
    ["", "## Cleanup", "- deactivated: " ++ toString c.deactivated] ++
      c.error.toList.map ("- error: " ++ ·)) ++ [""]

theorem briefLines_eq (r : Report) : r.briefLines =
    r.briefFront ++ r.platforms.map (fun p => countLine p ++ fetchNote p) ++ r.briefBack := by
  have sources : (fun p : String × SourceSummary => sourceLine p.1 p.2) =
      fun p => countLine p ++ fetchNote p := rfl
  obtain ⟨runId, started, backend, success, platforms, cleanup, error, duration⟩ := r
  rcases cleanup with _ | ⟨deactivated, _ | failed⟩ <;> cases error <;>
    simp [briefLines, briefFront, briefBack, sources]

/-- What the digest says of a run before its sources. -/
def digestFront (r : Report) : List String :=
  ["## Run `" ++ r.runId ++ "`", "- started: " ++ r.started.exactStamp,
    "- backend: " ++ r.backend.name, "- success: " ++ yesNo r.success,
    "- duration: " ++ toString r.duration ++ " ms"] ++
  r.error.toList.map ("- error: " ++ ·)

/-- What the digest says of a run after its sources. -/
def digestBack (r : Report) : List String :=
  r.cleanup.toList.map (fun c => "- deactivated: " ++ toString c.deactivated) ++ [""]

def digestLines (r : Report) : List String :=
  r.digestFront ++ r.platforms.map countLine ++ r.digestBack

end Report

/-- A cleanup tells how much it deactivated, and has no counts of a platform. -/
theorem Cleanup.entry_counts (c : Cleanup) :
    (Value.record c.members).member? "deactivated" = some (.ofNat c.deactivated) ∧
      (Value.record c.members).member? "skipped" = none := by
  obtain ⟨deactivated, error⟩ := c
  cases error <;>
    simp [members, SourceSummary.errorMember, Value.record, Value.member?, Members.get?_ofList,
      Members.get?]

namespace Digest

variable {r : Report}

theorem shown_ofNat (n : Nat) : shown (.ofNat n) = toString n := by
  have written : (Value.ofNat n).write [] = Nat.toDigits 10 n := List.append_nil _
  exact congrArg String.ofList written

theorem shown_text (s : String) : shown (.text s) = s := rfl

theorem shown_bool (b : Bool) : shown (.bool b) = Report.yesNo b := by
  cases b <;> rfl

theorem shownMember_of_get? {members : Members} {name : String} {v : Value}
    (held : members.get? name = some v) : shownMember (.object members) name = shown v := by
  rw [shownMember, Value.member?, held]

/-- What looks like a platform's counts. -/
def isCounts (v : Value) : Bool := (v.member? "skipped").isSome

theorem isCounts_entry (s : SourceSummary) : isCounts s.entry = true := by
  rw [isCounts, s.entry_counts.2.2.1]
  rfl

/-- No fixed field looks like one. -/
theorem not_isCounts_fixed (r : Report) : ∀ m ∈ r.fixed, isCounts m.2 = false := by
  have error (o : Option String) : ∀ m ∈ SourceSummary.errorMember o, isCounts m.2 = false := by
    cases o <;> simp [SourceSummary.errorMember, isCounts, Value.member?]
  unfold Report.fixed Report.front Report.back
  simp only [List.forall_mem_append, List.forall_mem_cons]
  refine ⟨⟨rfl, rfl, rfl, rfl, List.forall_mem_nil _⟩, ⟨?_, error r.error⟩, rfl,
    List.forall_mem_nil _⟩
  cases r.cleanup with
  | none => exact List.forall_mem_nil _
  | some c => exact List.forall_mem_singleton.mpr (congrArg Option.isSome c.entry_counts.2)

/-- The line of a member, if it looks like counts. -/
def lineOf? (m : String × Value) : Option String :=
  if isCounts m.2 then
    some (Report.platformLine m.1 (shownMember m.2 "new") (shownMember m.2 "updated")
      (shownMember m.2 "skipped"))
  else none

theorem lineOf?_entry (p : String × SourceSummary) :
    lineOf? (p.1, p.2.entry) = some (Report.countLine p) := by
  obtain ⟨new, updated, skipped, -⟩ := p.2.entry_counts
  have counted {name : String} {n : Nat} (held : p.2.entry.member? name = some (.ofNat n)) :
      shownMember p.2.entry name = toString n := by
    rw [shownMember, held]
    exact shown_ofNat n
  rw [lineOf?, if_pos (isCounts_entry p.2), counted new, counted updated, counted skipped,
    Report.countLine]

theorem platformLines_summary (unclashed : r.Unclashed) :
    platformLines r.summary = r.platforms.map Report.countLine := by
  -- a reserved name is that of a fixed field, so nothing is lost with those names
  have passed : ∀ m ∈ r.members, lineOf? m =
      if (!Report.reserved.contains m.1) = true then lineOf? m else none := by
    intro m member
    split
    · rfl
    · rename_i known
      rw [Bool.not_eq_true', Bool.not_eq_false, List.contains_iff_mem] at known
      rcases List.mem_append.mp (unclashed.members_perm.mem_iff.mp member) with fixed | platform
      · rw [lineOf?, not_isCounts_fixed r m fixed, if_neg Bool.false_ne_true]
      · exact absurd known (unclashed.apart m.1 (r.names_entries ▸ List.mem_map_of_mem platform))
  rw [r.summary_object]
  calc r.members.filterMap lineOf?
      = r.entries.filterMap lineOf? := by
        rw [List.filterMap_congr passed, ← List.filterMap_filter, unclashed.filter_members]
    _ = r.platforms.map Report.countLine := by
        rw [Report.entries, List.filterMap_map, ← List.filterMap_eq_map]
        exact List.filterMap_congr fun p _ => lineOf?_entry p

theorem sectionLines_summary (unclashed : r.Unclashed) :
    sectionLines r.summary = r.digestLines := by
  have keeps := unclashed.keeps
  have error : (Value.object r.members).member? "error" = r.error.map .text := keeps.error
  have deactivated : ((Value.object r.members).member? "cleanup").bind
      (fun c => c.member? "deactivated") = r.cleanup.map fun c => .ofNat c.deactivated := by
    rw [Value.member?, keeps.cleanup]
    cases r.cleanup with
    | none => rfl
    | some c => exact c.entry_counts.1
  have platforms := platformLines_summary unclashed
  rw [r.summary_object] at platforms ⊢
  rw [sectionLines, error, deactivated, platforms, shownMember_of_get? keeps.runId,
    shownMember_of_get? keeps.started, shownMember_of_get? keeps.backend,
    shownMember_of_get? keeps.success, shownMember_of_get? keeps.duration, shown_text, shown_text,
    shown_text, shown_bool, shown_ofNat]
  cases failed : r.error <;> cases swept : r.cleanup <;>
    simp [Report.digestLines, Report.digestFront, Report.digestBack, failed, swept, shown_ofNat]

end Digest

/-- The platforms of a report stand apart from its fixed fields, its counts have 64 bits and its run
began in a year of four digits. -/
structure Report.Readable (r : Report) : Prop where
  unclashed : r.Unclashed
  fits : r.Fits
  valid : r.started.Valid
  low : 0 ≤ r.started.date.year
  high : r.started.date.year ≤ 9999

/-! The latest runs -/

namespace Report

def newer (a b : Report) : Ordering := b.started.compare a.started

instance : Std.TransCmp newer where
  eq_swap {_ _} := @Std.OrientedCmp.eq_swap _ Time.Instant.compare _ _ _
  isLE_trans {_ _ _} first second :=
    @Std.TransCmp.isLE_trans _ Time.Instant.compare _ _ _ _ second first

/-- Reports with later starts before those with earlier ones. -/
def latest (reports : List Report) : List Report :=
  reports.insertionSort (Query.MayPrecede newer)

theorem latest_perm (reports : List Report) : (latest reports).Perm reports :=
  List.perm_insertionSort _ _

theorem latest_descending {reports : List Report}
    (apart : reports.Pairwise fun a b => a.started ≠ b.started) :
    (latest reports).Pairwise fun a b => b.started.lt a.started = true := by
  refine (Query.pairwise_insertionSort apart).imp fun {a b} follows => ?_
  obtain ⟨lower, tie⟩ := follows
  cases order : newer a b with
  | lt => exact Time.Instant.compare_eq_lt.mp order
  | eq => exact absurd (Time.Instant.compare_eq_eq.mp order).symm (tie order)
  | gt => rw [order] at lower; contradiction

end Report

namespace Digest

variable {reports : List Report}

theorem started?_summary {r : Report} (readable : r.Readable) :
    started? r.summary = some r.started := by
  rw [r.summary_object, started?, Value.member?, readable.unclashed.keeps.started,
    Option.bind_some]
  exact Time.Instant.parse?_exactStamp readable.valid readable.low readable.high

theorem place_eq (summary : Value) (summaries : List Value) :
    place summary summaries =
      summaries.orderedInsert (fun a b => isLater b a = false) summary := by
  induction summaries with
  | nil => rfl
  | cons s rest ih =>
    rw [place, List.orderedInsert_cons, ih]
    cases later : isLater s summary <;> simp

theorem newestFirst_eq (summaries : List Value) :
    newestFirst summaries = summaries.insertionSort fun a b => isLater b a = false := by
  induction summaries with
  | nil => rfl
  | cons summary rest ih =>
    rw [List.insertionSort_cons, ← ih, ← place_eq]
    rfl

theorem newestFirst_summaries (readable : ∀ r ∈ reports, r.Readable) :
    newestFirst (reports.map Report.summary) = (Report.latest reports).map Report.summary := by
  rw [newestFirst_eq, Report.latest]
  refine (List.map_insertionSort _ _ _ _ fun a aMember b bMember => ?_).symm
  have later : isLater b.summary a.summary = a.started.lt b.started := by
    rw [isLater, started?_summary (readable a aMember), started?_summary (readable b bMember)]
  rw [later, Query.MayPrecede, Report.newer, ne_eq, Std.OrientedCmp.gt_iff_lt,
    Time.Instant.compare_eq_lt, Bool.not_eq_true]

/-- The texts of the summaries that can be read. -/
def texts (runs : List (String × Disk.Content)) : List String :=
  runs.filterMap fun run =>
    match run.2 with
    | .text s => some s
    | _ => none

theorem summaries_eq (path : String) {runs : List (String × Disk.Content)}
    (fits : ∀ r ∈ reports, r.Fits) (held : texts runs = reports.map Report.summaryText) :
    summaries path runs = .ok (reports.map Report.summary) := by
  induction runs generalizing reports with
  | nil =>
    rw [List.map_eq_nil_iff.mp held.symm]
    rfl
  | cons run rest ih =>
    obtain ⟨name, content⟩ := run
    cases content with
    | text s =>
      cases reports with
      | nil => cases held
      | cons r reports =>
        obtain ⟨same, others⟩ := List.cons.inj held
        obtain ⟨first, later⟩ := List.forall_mem_cons.mp fits
        have read : Value.parse? s = some r.summary := by
          rw [show s = r.summaryText from same]
          exact first.parse?_summaryText
        rw [summaries, read, ih later others]
        rfl
    | missing | directory | blocked => exact ih fits held

theorem markdown_eq {archive : Archive} (readable : ∀ r ∈ reports, r.Readable)
    (held : texts archive.runs = reports.map Report.summaryText) (runs : Nat) :
    markdown runs archive = .ok (Report.joinLines (["# Opportunity Sync Report", ""] ++
      ((Report.latest reports).take (max runs 1)).flatMap Report.digestLines)) := by
  have sections : (((Report.latest reports).map Report.summary).take (max runs 1)).flatMap
      sectionLines = ((Report.latest reports).take (max runs 1)).flatMap Report.digestLines := by
    rw [← List.map_take, List.flatMap_map]
    refine List.flatMap_congr fun r member => ?_
    have among : r ∈ reports :=
      (Report.latest_perm reports).mem_iff.mp (List.mem_of_mem_take member)
    exact sectionLines_summary (readable r among).unclashed
  have found := summaries_eq archive.path (fun r member => (readable r member).fits) held
  rw [markdown, found, ← sections, ← newestFirst_summaries readable]
  rfl

end Digest

end Catalog.Sync
