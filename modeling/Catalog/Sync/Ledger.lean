import Catalog.Sync.Reconcile

/-!
Ledgers and their summaries. A ledger holds one outcome for every record of a source, in the order
of fetching; in the summary a record that failed counts as skipped.
-/
namespace Catalog.Sync

open Json

structure SourceSummary where
  new : Nat := 0
  updated : Nat := 0
  skipped : Nat := 0
  error : Option String := none
  deriving DecidableEq, Repr

namespace SourceSummary

/-- Adds up the counts; the first error is kept. -/
def absorb (a b : SourceSummary) : SourceSummary :=
  ⟨a.new + b.new, a.updated + b.updated, a.skipped + b.skipped,
    match a.error with
    | some e => some e
    | none => b.error⟩

def total (s : SourceSummary) : Nat := s.new + s.updated + s.skipped

def errorMember (error : Option String) : List (String × Value) :=
  match error with
  | some e => [("error", .text e)]
  | none => []

def members (s : SourceSummary) : List (String × Value) :=
  [("new", .ofNat s.new), ("updated", .ofNat s.updated), ("skipped", .ofNat s.skipped)] ++
    errorMember s.error

/-- A count that may be missing. -/
def count? (v : Option Value) : Except Mismatch (Option Nat) :=
  match v with
  | some v => do .ok (some (← v.asCount))
  | none => .ok none

/-- Reads a summary, from an object or from an array that gives the counts by position. -/
def ofValue (v : Value) : Except Mismatch SourceSummary :=
  let shape := "struct SourceReport"
  match v with
  | .object members => do
    -- Every member is read, in the order of the names, before missing ones are noticed.
    let error ← Value.memberOr Value.asOptionalText none (Members.get? "error" members)
    let new ← count? (Members.get? "new" members)
    let skipped ← count? (Members.get? "skipped" members)
    let updated ← count? (Members.get? "updated" members)
    match new, updated, skipped with
    | some new, some updated, some skipped => .ok ⟨new, updated, skipped, error⟩
    | none, _, _ => .error (.missing "new")
    | _, none, _ => .error (.missing "updated")
    | _, _, none => .error (.missing "skipped")
  | .array items => do
    let element (i : Nat) : Except Mismatch Nat :=
      match items[i]? with
      | some v => v.asCount
      | none => .error (.length i (shape ++ " with 4 elements"))
    let new ← element 0
    let updated ← element 1
    let skipped ← element 2
    let error ← Value.memberOr Value.asOptionalText none items[3]?
    Value.checkSurplus 4 items
    .ok ⟨new, updated, skipped, error⟩
  | v => .error (.type v shape)

end SourceSummary

/-- Every outcome of a source, in the order of fetching. -/
structure Ledger where
  fetchError : Option String := none
  outcomes : List (Except Failure Outcome) := []

namespace Ledger

def failed : Except Failure Outcome → Bool
  | .error _ => true
  | .ok _ => false

def failures (l : Ledger) : Nat := l.outcomes.countP failed

def entry : Except Failure Outcome → SourceSummary
  | .ok .created => { new := 1 }
  | .ok .updated => { updated := 1 }
  | .ok .skipped => { skipped := 1 }
  | .error _ => { skipped := 1 }

def summary (l : Ledger) : SourceSummary :=
  l.outcomes.foldl (fun s o => s.absorb (entry o)) { error := l.fetchError }

end Ledger

end Catalog.Sync
