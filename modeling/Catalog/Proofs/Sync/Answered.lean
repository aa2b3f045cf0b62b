import Catalog.Proofs.Sync.Caution
import Catalog.Proofs.Sync.Platforms
import Catalog.Sync.Run

/-!
Runs, whoever answers their requests. A run reaches the storage by its requests alone, so what no
request breaks holds from the beginning to the end of the run; and what it reports of its sources
is one summary for every platform.
-/
namespace Catalog.Sync

open Json Store

variable {δ : Type}

/-! The parts of a run -/

section Parts

variable {ask : {α : Type} → Request α → Work δ α} {clock : Nat → Time.Instant} {window : Window}
  {s t : Storage δ}

/-- The section of a report for the answer of the sweep. -/
def closing : Except Store.Fault Nat → Cleanup
  | .ok n => ⟨n, none⟩
  | .error fault => ⟨0, some fault.message⟩

theorem cleanUpBy_eq (s : Storage δ) :
    cleanUpBy ask clock s =
      (closing (sweepBy ask (clock s.issued) s).1, (sweepBy ask (clock s.issued) s).2) := by
  cases swept : sweepBy ask (clock s.issued) s with
  | mk answer t => cases answer <;> simp [cleanUpBy, swept, closing]

variable [Service δ]

def Report.opened (runId : String) (started : Time.Instant) (s : Storage δ) : Report :=
  { runId := runId, started := started, backend := s.refresh.active }

theorem runBy_stopped (runId : String) (started : Time.Instant) (sources : List Feed.Source)
    {fault : Store.Fault} (stopped : ask (.count []) s.refresh = (.error fault, t)) :
    runBy ask clock window runId started sources s =
      .ok ({ Report.opened runId started s with
        error := some ("reading the " ++ s.refresh.active.name ++ " collection: " ++ fault.trail) },
        t) := by
  simp only [runBy, stopped, Report.opened]

theorem runBy_passed (runId : String) (started : Time.Instant) (sources : List Feed.Source)
    (representable : window.Representable) {n : Nat}
    (passed : ask (.count []) s.refresh = (.ok n, t)) :
    runBy ask clock window runId started sources s =
      let synced := syncSourcesBy ask clock window sources (.opened runId started s) t
      let swept := sweepBy ask (clock synced.2.issued) synced.2
      .ok ({ synced.1 with success := true, cleanup := some (closing swept.1) }, swept.2) := by
  simp only [runBy, passed, representable, if_true, cleanUpBy_eq, Report.opened]

end Parts

/-! What holds from the beginning to the end -/

/-- The storage before and after, whatever the answer, stand in the relation. -/
def Keeps (R : Storage δ → Storage δ → Prop) (run : Storage δ → α × Storage δ) : Prop :=
  ∀ s, R s (run s).2

/-- A relation of storages that no request breaks. -/
structure Steadfast (ask : {α : Type} → Request α → Work δ α) (R : Storage δ → Storage δ → Prop) :
    Prop where
  refl : ∀ s, R s s
  trans : ∀ {first second third}, R first second → R second third → R first third
  asked : ∀ {α : Type} (request : Request α), Keeps R (ask request)

namespace Steadfast

variable {ask : {α : Type} → Request α → Work δ α} {R : Storage δ → Storage δ → Prop}
  {window : Window}

section

variable (steadfast : Steadfast ask R)

include steadfast

theorem bind {first : Work δ α} {next : α → Work δ β} (early : Keeps R first)
    (late : ∀ a, Keeps R (next a)) : Keeps R (first >>= next : Work δ β) := by
  intro s
  have reached := early s
  cases ran : first s with
  | mk result t =>
    rw [ran] at reached
    cases result with
    | error fault => exact (Session.bind_error ran).symm ▸ reached
    | ok a => exact (Session.bind_ok ran).symm ▸ steadfast.trans reached (late a t)

theorem findPreviousBy (keys : List Query.Filter) : Keeps R (findPreviousBy ask keys) := by
  induction keys with
  | nil => exact fun s => steadfast.refl s
  | cons key keys ih =>
    -- A look-up is a request like any other here: it may do anything that the relation allows.
    have found : Keeps R (Session.findOneBy ask key) :=
      steadfast.bind (steadfast.asked _) fun _ s => steadfast.refl s
    refine steadfast.bind found fun doc => ?_
    cases doc with
    | none => exact ih
    | some doc => exact fun s => steadfast.refl s

theorem reconcileListingBy (now : Time.Instant) (listing : Listing) :
    Keeps R (reconcileListingBy ask now window listing) := by
  refine steadfast.bind (steadfast.findPreviousBy _) fun found => ?_
  cases found with
  | none => exact steadfast.bind (steadfast.asked _) fun _ s => steadfast.refl s
  | some pair =>
    dsimp only
    split
    · exact steadfast.bind (steadfast.asked _) fun _ s => steadfast.refl s
    · exact fun s => steadfast.refl s

theorem reconcileBy (now : Time.Instant) (record : Value) :
    Keeps R (reconcileBy ask now window record) := by
  intro s
  unfold Sync.reconcileBy
  cases Listing.ofValue record with
  | error mismatch => exact steadfast.refl s
  | ok listing =>
    dsimp only
    split
    · exact steadfast.refl s
    · exact steadfast.reconcileListingBy now listing s

variable (clock : Nat → Time.Instant)

theorem reconcileAllBy (records : List Value) :
    Keeps R (reconcileAllBy ask clock window records) := by
  induction records with
  | nil => exact fun s => steadfast.refl s
  | cons record rest ih =>
    exact fun s => steadfast.trans (steadfast.reconcileBy (clock s.issued) record s) (ih _)

theorem syncSourcesBy (sources : List Feed.Source) (r : Report) :
    Keeps R (syncSourcesBy ask clock window sources r) := by
  induction sources generalizing r with
  | nil => exact fun s => steadfast.refl s
  | cons source rest ih =>
    exact fun s => steadfast.trans (steadfast.reconcileAllBy clock _ s) (ih _ _)

theorem sweepBy (now : Time.Instant) : Keeps R (sweepBy ask now) := steadfast.asked _

end

end Steadfast

/-! What is reported of the sources -/

theorem syncSourcesBy_report (ask : {α : Type} → Request α → Work δ α)
    (clock : Nat → Time.Instant) (window : Window) (sources : List Feed.Source) (r : Report)
    (ordered : r.platforms.Ordered) (s : Storage δ) :
    ∃ platforms,
      (syncSourcesBy ask clock window sources r s).1 = { r with platforms := platforms } ∧
      platforms.Ordered ∧ ∀ name, name ∈ platforms.names ↔
        name ∈ r.platforms.names ∨ ∃ source ∈ sources, Text.lowered source.platform = name := by
  induction sources generalizing r s with
  | nil => exact ⟨r.platforms, rfl, ordered, by simp⟩
  | cons source rest ih =>
    obtain ⟨ledger, ran⟩ : ∃ ledger, (syncSourceBy ask clock window source s).1 = ledger := ⟨_, rfl⟩
    obtain ⟨platforms, same, stillOrdered, named⟩ := ih (r.record source.platform ledger.summary)
      (ordered.absorb _ _) (syncSourceBy ask clock window source s).2
    refine ⟨platforms, ?_, stillOrdered, fun name => ?_⟩
    · simp only [syncSourcesBy, ran]
      exact same
    · rw [named, Report.record, Platforms.mem_names_absorb, List.exists_mem_cons_iff, or_assoc,
        or_left_comm, eq_comm (a := name)]

end Catalog.Sync
