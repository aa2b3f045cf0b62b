import Catalog.Sync.Ledger

/-!
What the summary of a ledger counts: every outcome once, and those that failed as skipped.
-/
namespace Catalog.Sync.Ledger

def came (outcome : Outcome) : Except Failure Outcome → Bool
  | .ok answer => answer == outcome
  | .error _ => false

theorem summary_counts (l : Ledger) : l.summary =
    ⟨l.outcomes.countP (came .created), l.outcomes.countP (came .updated),
      l.outcomes.countP (came .skipped) + l.failures, l.fetchError⟩ := by
  have fold : ∀ (outcomes : List (Except Failure Outcome)) (start : SourceSummary),
      outcomes.foldl (fun sum outcome => sum.absorb (entry outcome)) start =
        ⟨start.new + outcomes.countP (came .created), start.updated + outcomes.countP (came .updated),
          start.skipped + (outcomes.countP (came .skipped) + outcomes.countP failed),
          start.error⟩ := by
    intro outcomes
    induction outcomes with
    | nil => exact fun start => rfl
    | cons outcome outcomes ih =>
      intro start
      have error : (start.absorb (entry outcome)).error = start.error := by
        rcases outcome with failure | (_ | _ | _) <;> cases h : start.error <;>
          simp [SourceSummary.absorb, entry, h]
      rw [List.foldl_cons, ih, error]
      rcases outcome with failure | (_ | _ | _) <;>
        simp [SourceSummary.absorb, entry, came, failed, List.countP_cons] <;> omega
  rw [summary, fold]
  simp [failures]

theorem total_summary (l : Ledger) : l.summary.total = l.outcomes.length := by
  rw [summary_counts]
  simp only [SourceSummary.total, failures]
  induction l.outcomes with
  | nil => rfl
  | cons outcome outcomes ih =>
    rcases outcome with failure | (_ | _ | _) <;> simp [came, failed, List.countP_cons] <;> omega

end Catalog.Sync.Ledger
