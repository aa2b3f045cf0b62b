import Catalog.Proofs.Store.Course
import Catalog.Proofs.Sync.Answered

/-!
What a run owes, whatever happens in its course. It succeeds when its preflight does; then the
report is complete, whichever fetches, records or sweep have failed. A run that stops at the
preflight leaves everything as it was, and no run changes the side it does not report.
-/
namespace Catalog.Sync

open Json Store

variable {δ : Type} [Service δ] {course : Course} {runId : String} {started : Time.Instant}
  {window : Window} {sources : List Feed.Source} {s after : Storage δ} {report : Report}

/-- The count at the beginning of a run, on the side that answered. -/
def preflight (course : Course) (s : Storage δ) : Except Store.Fault Nat × Storage δ :=
  course.ask (.count []) s.refresh

def reconciled (course : Course) (window : Window) (runId : String) (started : Time.Instant)
    (sources : List Feed.Source) (s : Storage δ) : Report × Storage δ :=
  syncSourcesBy course.ask course.clock window sources (.opened runId started s)
    (preflight course s).2

def lastSweep (course : Course) (window : Window) (runId : String) (started : Time.Instant)
    (sources : List Feed.Source) (s : Storage δ) : Except Store.Fault Nat × Storage δ :=
  let found := (reconciled course window runId started sources s).2
  sweepBy course.ask (course.clock found.issued) found

/-- The report of a run that got past its preflight. -/
structure Complete (sources : List Feed.Source) (swept : Except Store.Fault Nat) (report : Report) :
    Prop where
  error : report.error = none
  cleanup : report.cleanup = some (closing swept)
  once : report.platforms.names.Nodup
  named : ∀ name, name ∈ report.platforms.names ↔
    ∃ source ∈ sources, Text.lowered source.platform = name

/-- The report of a run that stopped at its preflight. -/
structure Stopped (fault : Store.Fault) (report : Report) : Prop where
  error : report.error =
    some ("reading the " ++ report.backend.name ++ " collection: " ++ fault.trail)
  platforms : report.platforms = []
  cleanup : report.cleanup = none

/-- What is seen of the database is not changed by counting, whether or not that fails. -/
def Counting (seen : δ → γ) : Prop :=
  ∀ moment filter db, seen (Service.answer moment (.count filter) db).2 = seen db

/-- What a run over some storage reports and leaves. -/
structure Contract (course : Course) (window : Window) (runId : String) (started : Time.Instant)
    (sources : List Feed.Source) (s : Storage δ) (report : Report) (after : Storage δ) : Prop where
  backend : report.backend = .database ↔
    ∃ db, s.database = some db ∧ (Service.ping db).isOk = true
  success : report.success = true ↔ ∃ n, (preflight course s).1 = .ok n
  complete : ∀ n, (preflight course s).1 = .ok n →
    Complete sources (lastSweep course window runId started sources s).1 report
  stopped : ∀ fault, (preflight course s).1 = .error fault →
    Stopped fault report ∧ after.file = s.file ∧
      ∀ (γ : Type) (seen : δ → γ), Counting seen → after.database.map seen = s.database.map seen
  file : report.backend = .database → after.file = s.file
  database : report.backend = .file → after.database = s.database

theorem steadfast_confined (course : Course) :
    Steadfast course.ask (Storage.Confined : Storage δ → Storage δ → Prop) :=
  ⟨Storage.confined_refl, Storage.Confined.trans, fun request s => course.confined_ask request s⟩

theorem file_preflight (course : Course) (s : Storage δ) : (preflight course s).2.file = s.file :=
  (course.file_ask (.count []) (fun _ => trivial) s.refresh).trans s.unchanged_refresh.1

theorem seen_preflight {γ : Type} {seen : δ → γ} (counting : Counting seen) (course : Course)
    (s : Storage δ) : (preflight course s).2.database.map seen = s.database.map seen := by
  have kept := s.unchanged_refresh.2
  cases here : s.refresh.active with
  | file =>
    have untouched := (course.confined_ask (.count []) s.refresh).database here
    exact congrArg (Option.map seen) (untouched.trans kept)
  | database =>
    obtain ⟨db, present⟩ := Storage.database_of_active here
    unfold preflight Course.ask Storage.answerUnder
    rw [here, present, ← kept, present]
    exact congrArg some (counting _ _ db)

theorem contract_stopped {fault : Store.Fault} (failed : (preflight course s).1 = .error fault) :
    ∃ report after, runBy course.ask course.clock window runId started sources s =
        .ok (report, after) ∧
      Contract course window runId started sources s report after := by
  have counted : course.ask (.count []) s.refresh = (.error fault, (preflight course s).2) :=
    Prod.ext failed rfl
  have kept := s.unchanged_refresh
  have confined := course.confined_ask (.count []) s.refresh
  refine ⟨_, _, runBy_stopped runId started sources counted, Storage.refresh_active, ?_, ?_, ?_,
    fun there => (confined.file there).trans kept.1,
    fun there => (confined.database there).trans kept.2⟩
  · simp [failed, Report.opened]
  · intro n passed
    cases failed.symm.trans passed
  · intro other found
    cases failed.symm.trans found
    exact ⟨⟨rfl, rfl, rfl⟩, file_preflight course s,
      fun _ _ counting => seen_preflight counting course s⟩

theorem contract_complete (representable : window.Representable) {n : Nat}
    (counted : (preflight course s).1 = .ok n) :
    ∃ report after, runBy course.ask course.clock window runId started sources s =
        .ok (report, after) ∧
      Contract course window runId started sources s report after := by
  have steadfast : Steadfast course.ask (Storage.Confined : Storage δ → Storage δ → Prop) :=
    steadfast_confined course
  have passed : course.ask (.count []) s.refresh = (.ok n, (preflight course s).2) :=
    Prod.ext counted rfl
  have kept := s.unchanged_refresh
  obtain ⟨platforms, synced, ordered, named⟩ := syncSourcesBy_report course.ask course.clock window
    sources (.opened runId started s) List.Pairwise.nil (preflight course s).2
  -- From the choice of the backend to the end there are only requests.
  have confined : s.refresh.Confined (lastSweep course window runId started sources s).2 :=
    (steadfast.asked (.count []) s.refresh).trans
      ((steadfast.syncSourcesBy course.clock sources _ _).trans (steadfast.sweepBy _ _))
  refine ⟨_, _, runBy_passed runId started sources representable passed, ?_⟩
  rw [synced]
  refine ⟨Storage.refresh_active, by simp [counted], fun _ _ => ?_, ?_, ?_, ?_⟩
  · refine ⟨rfl, rfl, ordered.nodup, fun name => ?_⟩
    simpa [Report.opened, Platforms.names] using named name
  · intro fault failed
    cases counted.symm.trans failed
  · exact fun there => (confined.file there).trans kept.1
  · exact fun there => (confined.database there).trans kept.2

/-- In calm weather and at one time the run is that of the program. -/
theorem runBy_calm (runId : String) (started : Time.Instant) (window : Window)
    (sources : List Feed.Source) (s : Storage δ) :
    runBy (Course.calm started).ask (Course.calm started).clock window runId started sources s =
      run runId started window sources s := by
  have answers : (fun {α : Type} (request : Request α) =>
      ((Course.calm started).ask request : Work δ α)) =
        fun {α : Type} (request : Request α) => Session.ask started request :=
    funext fun _ => funext fun request => Course.ask_calm request started
  exact congrArg (fun ask : {α : Type} → Request α → Work δ α =>
    runBy ask (fun _ => started) window runId started sources s) answers

/-- Every run with a window that can be held gives a report, and the report and what is left keep
the contract, whatever the database does. The program's own run is the one in calm weather. -/
theorem run_contract (course : Course) (runId : String) (started : Time.Instant) (window : Window)
    (representable : window.Representable) (sources : List Feed.Source) (s : Storage δ) :
    (∃ report after, runBy course.ask course.clock window runId started sources s =
        .ok (report, after) ∧
      Contract course window runId started sources s report after) ∧
    runBy (Course.calm started).ask (Course.calm started).clock window runId started sources s =
      run runId started window sources s := by
  refine ⟨?_, runBy_calm runId started window sources s⟩
  cases counted : (preflight course s).1 with
  | error fault => exact contract_stopped counted
  | ok n => exact contract_complete representable counted

/-- A database that counts its calls, does as asked, and loses the answers to some operations. -/
structure Forgetful where
  collection : File
  calls : Nat
  lost : List String

namespace Forgetful

def answer (moment : Moment) (request : Request α) (db : Forgetful) :
    Except Store.Fault α × Forgetful :=
  let (a, collection) := db.collection.answer moment request
  (if db.lost.contains request.name then .error (.invalidDocument "connection lost") else a,
    ⟨collection, db.calls + 1, db.lost⟩)

instance : Service Forgetful := ⟨answer, fun _ => .ok ()⟩

theorem counting_collection : Counting collection := by
  intro moment filter db
  obtain ⟨failing, quiet⟩ := db.collection.answer_unchanged moment (.count filter)
  cases result : (db.collection.answer moment (.count filter)).1 with
  | error fault => exact failing fault result
  | ok n => exact quiet n result trivial

end Forgetful

/-- An empty file, and an empty database that loses the answers to some operations. -/
def twoShelves (lost : List String) : Storage Forgetful :=
  .withDatabase ⟨"shelf.json", .missing⟩ ⟨⟨"shelves", .missing⟩, 0, lost⟩

/-- One run loses the answer to its sweep, and another one that to its preflight. -/
theorem run_contract_lost_answers :
    Window.standard.Representable ∧
    (∃ report after, runBy (Course.calm ⟨5, 0⟩).ask (Course.calm ⟨5, 0⟩).clock .standard "run" ⟨5, 0⟩
        [.fixed "MLH" []] (twoShelves ["update_many"]) = .ok (report, after) ∧
      report.backend = .database ∧ report.success = true ∧ "mlh" ∈ report.platforms.names ∧
      report.cleanup = some ⟨0, some "invalid document: connection lost"⟩ ∧
      after.file = ⟨"shelf.json", .missing⟩) ∧
    ∃ report after, runBy (Course.calm ⟨5, 0⟩).ask (Course.calm ⟨5, 0⟩).clock .standard "run" ⟨5, 0⟩
        [.fixed "MLH" []] (twoShelves ["count"]) = .ok (report, after) ∧
      report.success = false ∧ report.platforms = [] ∧
      report.error = some "reading the database collection: invalid document: connection lost" ∧
      after.database.map Forgetful.collection = some ⟨"shelves", .missing⟩ := by
  have representable : Window.standard.Representable := by decide
  refine ⟨representable, ?_, ?_⟩
  · obtain ⟨⟨report, after, ran, contract⟩, -⟩ := run_contract (Course.calm ⟨5, 0⟩) "run" ⟨5, 0⟩
      .standard representable [.fixed "MLH" []] (twoShelves ["update_many"])
    have counted : (preflight (Course.calm ⟨5, 0⟩) (twoShelves ["update_many"])).1 = .ok 0 := rfl
    have lost : (lastSweep (Course.calm ⟨5, 0⟩) .standard "run" ⟨5, 0⟩ [.fixed "MLH" []]
        (twoShelves ["update_many"])).1 = .error (.invalidDocument "connection lost") := rfl
    have backend : report.backend = .database := contract.backend.mpr ⟨_, rfl, rfl⟩
    obtain ⟨-, cleanup, -, named⟩ := contract.complete 0 counted
    have names : "mlh" ∈ report.platforms.names :=
      (named "mlh").mpr ⟨_, List.mem_singleton_self _, by decide⟩
    rw [lost] at cleanup
    exact ⟨report, after, ran, backend, contract.success.mpr ⟨0, counted⟩, names, cleanup,
      contract.file backend⟩
  · obtain ⟨⟨report, after, ran, contract⟩, -⟩ := run_contract (Course.calm ⟨5, 0⟩) "run" ⟨5, 0⟩
      .standard representable [.fixed "MLH" []] (twoShelves ["count"])
    have failed : (preflight (Course.calm ⟨5, 0⟩) (twoShelves ["count"])).1 =
        .error (.invalidDocument "connection lost") := rfl
    have backend : report.backend = .database := contract.backend.mpr ⟨_, rfl, rfl⟩
    have unsuccessful : report.success = false := by
      refine Bool.eq_false_iff.mpr fun success => ?_
      obtain ⟨n, counted⟩ := contract.success.mp success
      cases failed.symm.trans counted
    obtain ⟨⟨error, platforms, -⟩, -, seen⟩ := contract.stopped _ failed
    rw [backend] at error
    exact ⟨report, after, ran, unsuccessful, platforms, error,
      seen File Forgetful.collection Forgetful.counting_collection⟩

end Catalog.Sync
