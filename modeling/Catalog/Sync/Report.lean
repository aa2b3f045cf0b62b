import Catalog.Sync.Ledger

/-!
Reports of runs. The summary of a run is one flat JSON object in which the platforms stand beside
the fixed fields; the brief says the same for a reader.
-/
namespace Catalog.Sync

open Json Store

structure Cleanup where
  deactivated : Nat
  error : Option String := none
  deriving DecidableEq, Repr

namespace Cleanup

def members (c : Cleanup) : List (String × Value) :=
  ("deactivated", .ofNat c.deactivated) :: SourceSummary.errorMember c.error

def ofValue (v : Value) : Except Mismatch Cleanup :=
  let shape := "struct CleanupReport"
  match v with
  | .object members => do
    let deactivated ← SourceSummary.count? (Members.get? "deactivated" members)
    let error ← Value.memberOr Value.asOptionalText none (Members.get? "error" members)
    match deactivated with
    | some n => .ok ⟨n, error⟩
    | none => .error (.missing "deactivated")
  | .array items => do
    let deactivated ← match items[0]? with
      | some v => v.asCount
      | none => .error (.length 0 (shape ++ " with 2 elements"))
    let error ← Value.memberOr Value.asOptionalText none items[1]?
    Value.checkSurplus 2 items
    .ok ⟨deactivated, error⟩
  | v => .error (.type v shape)

end Cleanup

/-- The summaries of the platforms by their lower-cased names, in the order of the names. -/
abbrev Platforms := List (String × SourceSummary)

namespace Platforms

def find? (name : String) : Platforms → Option SourceSummary
  | [] => none
  | (n, s) :: rest => if n == name then some s else find? name rest

def absorb (name : String) (s : SourceSummary) : Platforms → Platforms
  | [] => [(name, s)]
  | (n, t) :: rest =>
    if n == name then (n, t.absorb s) :: rest
    else if Text.Before name n then (name, s) :: (n, t) :: rest
    else (n, t) :: absorb name s rest

end Platforms

structure Report where
  runId : String
  started : Time.Instant
  backend : Backend
  success : Bool := false
  platforms : Platforms := []
  cleanup : Option Cleanup := none
  error : Option String := none
  /-- In milliseconds. -/
  duration : Nat := 0
  deriving Repr

namespace Report

/-- The names of the fixed fields of a summary. -/
def reserved : List String :=
  ["success", "duration", "cleanup", "backend", "error", "run_id", "started_at"]

def record (r : Report) (platform : String) (s : SourceSummary) : Report :=
  { r with platforms := r.platforms.absorb (Text.lowered platform) s }

def source? (r : Report) (platform : String) : Option SourceSummary :=
  Platforms.find? (Text.lowered platform) r.platforms

/-- The fields of the summary, in the order in which they are written. -/
def fields (r : Report) : List (String × Value) :=
  [("run_id", .text r.runId), ("started_at", .text r.started.exactStamp),
    ("backend", .text r.backend.name), ("success", .bool r.success)] ++
  r.platforms.map (fun (name, s) => (name, .object s.members)) ++
  (match r.cleanup with
    | some c => [("cleanup", .object c.members)]
    | none => []) ++
  SourceSummary.errorMember r.error ++
  [("duration", .ofNat r.duration)]

/-- The summary; of two fields with one name the later one stands. -/
def summary (r : Report) : Value :=
  .record (r.fields.map fun (name, v) =>
    match v with
    | .object members => (name, .record members)
    | v => (name, v))

/-- The text of the summary, its fields in the order of writing. -/
def summaryText (r : Report) : String := (Value.object r.fields).indented

def yesNo (b : Bool) : String := if b then "true" else "false"

def platformLine (name : String) (new updated skipped : String) : String :=
  "- " ++ name ++ ": " ++ new ++ " new, " ++ updated ++ " updated, " ++ skipped ++ " skipped"

def sourceLine (name : String) (s : SourceSummary) : String :=
  platformLine name (toString s.new) (toString s.updated) (toString s.skipped) ++
    match s.error with
    | some e => " (fetch failed: " ++ e ++ ")"
    | none => ""

def joinLines (lines : List String) : String := "\n".intercalate lines

def briefLines (r : Report) : List String :=
  ["# Opportunity Sync Brief", "", "- Run ID: `" ++ r.runId ++ "`",
    "- Started: " ++ r.started.spelled, "- Backend: " ++ r.backend.name,
    "- Success: " ++ yesNo r.success, "- Duration: " ++ toString r.duration ++ " ms"] ++
  (match r.error with
    | some e => ["- Error: " ++ e]
    | none => []) ++
  ["", "## Sources"] ++
  r.platforms.map (fun (name, s) => sourceLine name s) ++
  (match r.cleanup with
    | some c =>
      ["", "## Cleanup", "- deactivated: " ++ toString c.deactivated] ++
        (match c.error with
          | some e => ["- error: " ++ e]
          | none => [])
    | none => []) ++
  [""]

def brief (r : Report) : String := joinLines r.briefLines

end Report

end Catalog.Sync
