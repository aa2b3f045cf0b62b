import Catalog.Feed.Source
import Catalog.Sync.Report
import Catalog.Sync.Sweep

/-!
One run of the synchronisation: the backend is chosen, the collection is counted as a preflight,
every source is reconciled, and what has expired is swept. Whatever goes wrong ends up in the
report, except a freshness window that no duration can hold.
-/
namespace Catalog.Sync

open Json Store

/-- A freshness window too large for a duration. -/
structure WindowOverflow where
  deriving DecidableEq, Repr

section Asking

variable {δ : Type} (ask : {α : Type} → Request α → Work δ α) (clock : Nat → Time.Instant)
  (window : Window)

/-- Reconciles records in order, each at the time of its first request. -/
def reconcileAllBy : List Value → Storage δ → List (Except Failure Outcome) × Storage δ
  | [], s => ([], s)
  | record :: rest, s =>
    let (outcome, s) := reconcileBy ask (clock s.issued) window record s
    let (outcomes, s) := reconcileAllBy rest s
    (outcome :: outcomes, s)

def syncSourceBy (source : Feed.Source) (s : Storage δ) : Ledger × Storage δ :=
  let (records, fetchError) := source.recordsOrSample
  let (outcomes, s) := reconcileAllBy ask clock window records s
  (⟨fetchError, outcomes⟩, s)

def syncSourcesBy : List Feed.Source → Report → Storage δ → Report × Storage δ
  | [], r, s => (r, s)
  | source :: rest, r, s =>
    let (ledger, s) := syncSourceBy ask clock window source s
    syncSourcesBy rest (r.record source.platform ledger.summary) s

/-- The sweep at the end of a run. -/
def cleanUpBy (s : Storage δ) : Cleanup × Storage δ :=
  let (answer, s) := sweepBy ask (clock s.issued) s
  match answer with
  | .ok n => (⟨n, none⟩, s)
  | .error fault => (⟨0, some fault.message⟩, s)

def runBy [Service δ] (runId : String) (started : Time.Instant) (sources : List Feed.Source)
    (s : Storage δ) : Except WindowOverflow (Report × Storage δ) :=
  let s := s.refresh
  let report : Report := { runId := runId, started := started, backend := s.active }
  let (preflight, s) := ask (.count []) s
  match preflight with
  | .error fault =>
    .ok ({ report with
      error := some ("reading the " ++ report.backend.name ++ " collection: " ++ fault.trail) }, s)
  | .ok _ =>
    if window.Representable then
      let (report, s) := syncSourcesBy ask clock window sources report s
      let (cleanup, s) := cleanUpBy ask clock s
      .ok ({ report with success := true, cleanup := some cleanup }, s)
    else .error {}

end Asking

variable {δ : Type} [Service δ]

/-! The program answers its own requests, and all is done at one time. -/

def reconcileAll (now : Time.Instant) (window : Window) (records : List Value) (s : Storage δ) :
    List (Except Failure Outcome) × Storage δ :=
  reconcileAllBy (Session.ask now) (fun _ => now) window records s

def syncSource (now : Time.Instant) (window : Window) (source : Feed.Source) (s : Storage δ) :
    Ledger × Storage δ :=
  syncSourceBy (Session.ask now) (fun _ => now) window source s

def run (runId : String) (now : Time.Instant) (window : Window) (sources : List Feed.Source)
    (s : Storage δ) : Except WindowOverflow (Report × Storage δ) :=
  runBy (Session.ask now) (fun _ => now) window runId now sources s

end Catalog.Sync
